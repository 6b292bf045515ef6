import Mathlib.Data.List.Nodup

/-! # Versioned cells

A cell whose writes name the version they were made from and are refused when it holds
another. The writes it takes are a chain, each of what the one before it wrote.
-/

namespace DuckGlue.VersionedCell

variable {Value Write Version : Type} (replaced produced : Write → Value) (version : Value → Version)

/-- The writes lead from the first value to the last. -/
def Chain : Value → List Write → Value → Prop
  | first, [], last => last = first
  | first, write :: writes, last => replaced write = first ∧ Chain (produced write) writes last

/-- Every value the cell has held. -/
def held (first : Value) (writes : List Write) : List Value := first :: writes.map produced

variable {replaced produced version} {first last : Value} {writes : List Write} {write : Write}

theorem chain_append_singleton : Chain replaced produced first (writes ++ [write]) last ↔
    Chain replaced produced first writes (replaced write) ∧ last = produced write := by
  induction writes generalizing first with
  | nil => simp [Chain]
  | cons head writes ih => simp [Chain, ih, and_assoc]

theorem held_append_singleton :
    held produced first (writes ++ [write]) = held produced first writes ++ [produced write] := by
  simp [held]

/-- What the cell holds it has held. -/
theorem last_mem_held (chain : Chain replaced produced first writes last) : last ∈ held produced first writes := by
  induction writes generalizing first with
  | nil =>
      rw [show last = first from chain]
      exact List.mem_cons_self
  | cons write writes ih => exact List.mem_cons_of_mem _ (ih chain.2)

/-- Where every write gives a new version, a value is known by its version. -/
theorem eq_of_version (distinct : ((held produced first writes).map version).Nodup) {a b : Value}
    (aHeld : a ∈ held produced first writes) (bHeld : b ∈ held produced first writes) (same : version a = version b) :
    a = b :=
  List.inj_on_of_nodup_map distinct aHeld bHeld same

theorem distinct_append_singleton (distinct : ((held produced first writes).map version).Nodup)
    (fresh : version (produced write) ∉ (held produced first writes).map version) :
    ((held produced first (writes ++ [write])).map version).Nodup := by
  rw [held_append_singleton, List.map_append]
  exact distinct.append (List.nodup_singleton _) (by simpa using fresh)

end DuckGlue.VersionedCell
