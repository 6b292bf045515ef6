import Mathlib.Data.List.Nodup
import Mathlib.Data.List.Perm.Basic
import Mathlib.Tactic.Cases

/-! # Paged reads

An answer comes in pages, each with the token of the next. What several readers collected
is merged by a key, of which the first item stays.
-/

namespace DuckGlue.PagedReads

variable {Item Token Key ε : Type}

structure Page (Item Token : Type) where
  items : List Item
  next : Token
  deriving Repr, DecidableEq

section Fetch

variable (ended : Token → Bool) (respond : Token → Except ε (Page Item Token))

/-- The pages from a token on; without a result where the fuel runs out. -/
def fetch : ℕ → Token → Option (Except ε (List Item))
  | 0, _ => none
  | fuel + 1, token =>
      match respond token with
      | .error e => some (.error e)
      | .ok page =>
          if ended page.next then some (.ok page.items)
          else (fetch fuel page.next).map fun rest => rest.map fun items => page.items ++ items

/-- The pages a server answers with, however it splits them. -/
inductive Serves : Token → List (List Item) → Prop where
  | last {token page} : respond token = .ok page → ended page.next = true → Serves token [page.items]
  | next {token page pages} : respond token = .ok page → ended page.next = false → Serves page.next pages →
      Serves token (page.items :: pages)

variable {ended respond} {token : Token} {pages : List (List Item)}

theorem fetch_serves (serves : Serves ended respond token pages) {fuel : ℕ} (enough : pages.length ≤ fuel) :
    fetch ended respond fuel token = some (.ok pages.flatten) := by
  induction serves generalizing fuel with
  | last answered done =>
      cases fuel with
      | zero => cases enough
      | succ fuel => simp only [fetch, answered, done, if_true, List.flatten_cons, List.flatten_nil, List.append_nil]
  | next answered more serves ih =>
      cases fuel with
      | zero => cases enough
      | succ fuel =>
          simp only [fetch, answered, more, ih (Nat.le_of_succ_le_succ enough)]
          rfl

end Fetch

section Distinct

variable [DecidableEq Key] (key : Item → Key)

/-- The items of keys not seen, each key once. -/
def distinctBy : List Key → List Item → List Item
  | _, [] => []
  | seen, item :: rest =>
      if key item ∈ seen then distinctBy seen rest else item :: distinctBy (key item :: seen) rest

variable {key} {seen : List Key} {items : List Item}

theorem distinctBy_sublist : (distinctBy key seen items).Sublist items := by
  induction items generalizing seen with
  | nil => exact .slnil
  | cons item items ih =>
      unfold distinctBy
      split_ifs
      · exact .cons _ ih
      · exact .cons_cons _ ih

/-- The keys that stay are those not seen before. -/
theorem mem_keys_distinctBy {k : Key} :
    k ∈ (distinctBy key seen items).map key ↔ k ∉ seen ∧ k ∈ items.map key := by
  induction items generalizing seen with
  | nil => simp [distinctBy]
  | cons item items ih =>
      unfold distinctBy
      split_ifs with known
      · grind
      · grind

theorem nodup_distinctBy : ((distinctBy key seen items).map key).Nodup := by
  induction items generalizing seen with
  | nil => exact .nil
  | cons item items ih =>
      unfold distinctBy
      split_ifs with known
      · exact ih
      · rw [List.map_cons, List.nodup_cons]
        refine ⟨fun again => ?_, ih⟩
        exact (mem_keys_distinctBy.mp again).1 List.mem_cons_self

/-- Items read more than once are merged to each once if the key tells them apart, and only
then. -/
theorem distinctBy_perm_iff {all : List Item} (same : ∀ item, item ∈ items ↔ item ∈ all) :
    (distinctBy key [] items).Perm all ↔ (all.map key).Nodup := by
  constructor
  · intro merged
    exact (merged.map key).nodup_iff.mp nodup_distinctBy
  · intro distinct
    have one : (distinctBy key [] items).Nodup := List.Nodup.of_map key nodup_distinctBy
    rw [List.perm_ext_iff_of_nodup one (List.Nodup.of_map key distinct)]
    intro item
    constructor
    · intro member
      exact (same item).mp (distinctBy_sublist.subset member)
    · intro member
      have read : key item ∈ items.map key := List.mem_map_of_mem ((same item).mpr member)
      obtain ⟨other, kept, sameKey⟩ := List.mem_map.mp (mem_keys_distinctBy.mpr ⟨List.not_mem_nil, read⟩)
      have otherMember := (same other).mp (distinctBy_sublist.subset kept)
      rwa [List.inj_on_of_nodup_map distinct otherMember member sameKey] at kept

end Distinct

end DuckGlue.PagedReads
