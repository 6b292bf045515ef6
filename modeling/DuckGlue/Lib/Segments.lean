import Mathlib.Data.List.DropRight
import Mathlib.Data.List.Infix

/-! # Paths split at a separator

A path is a list over any alphabet with one separator symbol. A directory of a
path is a prefix that ends right before a separator, so the directories of one
path form a chain. `parents` walks that chain from the deepest directory up and
`deepest` is the first directory of the walk a partial map knows.
-/

namespace DuckGlue.Segments

variable {α β : Type*}

/-- The path without its trailing separators. -/
def trimEnd [DecidableEq α] (sep : α) (p : List α) : List α := p.rdropWhile (· = sep)

/-- `p` lies at some depth below the directory `d`. -/
def Below (sep : α) (d p : List α) : Prop := d ++ [sep] <+: p

/-- The directories of a path, deepest first. -/
def parents [DecidableEq α] (sep : α) : List α → List (List α)
  | [] => []
  | c :: cs => (parents sep cs).map (c :: ·) ++ if c = sep then [[]] else []

/-- The segments between separators; a trailing separator ends the last segment
and opens no empty one after it. -/
def split [DecidableEq α] (sep : α) : List α → List (List α)
  | [] => []
  | c :: cs =>
      if c = sep then [] :: split sep cs
      else match split sep cs with
        | [] => [[c]]
        | w :: ws => (c :: w) :: ws

/-- The first directory, walking up from the path, that `lookup` knows; only
directories of at least `shortest` symbols are asked for. -/
def deepest [DecidableEq α] (sep : α) (lookup : List α → Option β) (shortest : Nat) (p : List α) : Option β :=
  ((parents sep p).takeWhile (fun d => shortest ≤ d.length)).findSome? lookup

section TrimEnd

variable [DecidableEq α] {sep : α} {p q : List α}

@[simp] theorem trimEnd_nil : trimEnd sep [] = [] := rfl

theorem trimEnd_of_last (h : p.getLast? ≠ some sep) : trimEnd sep p = p := by
  rw [trimEnd, List.rdropWhile_eq_self_iff]
  intro nonempty last
  exact h (by rw [List.getLast?_eq_some_getLast nonempty]; simpa using last)

theorem trimEnd_last (p : List α) : (trimEnd sep p).getLast? ≠ some sep := by
  intro last
  have nonempty : trimEnd sep p ≠ [] := fun none => by simp [none] at last
  rw [List.getLast?_eq_some_getLast nonempty, Option.some.injEq] at last
  exact List.rdropWhile_last_not (fun c => decide (c = sep)) p nonempty (decide_eq_true last)

@[simp] theorem trimEnd_trimEnd : trimEnd sep (trimEnd sep p) = trimEnd sep p :=
  trimEnd_of_last (trimEnd_last p)

/-- Trimming stops inside a suffix that holds another symbol. -/
theorem trimEnd_append (h : ∃ c ∈ q, c ≠ sep) : trimEnd sep (p ++ q) = p ++ trimEnd sep q := by
  induction q using List.reverseRecOn with
  | nil => simp at h
  | append_singleton q c ih =>
      by_cases same : c = sep
      · subst same
        have tail : ∃ d ∈ q, d ≠ c := by
          obtain ⟨d, member, differs⟩ := h
          rcases List.mem_append.mp member with inside | last
          · exact ⟨d, inside, differs⟩
          · exact absurd (by simpa using last) differs
        simp only [trimEnd, ← List.append_assoc, List.rdropWhile_concat, decide_true, if_true] at ih ⊢
        exact ih tail
      · rw [← List.append_assoc]
        simp [trimEnd, same]

theorem trimEnd_cons {c : α} (differs : c ≠ sep) : trimEnd sep (c :: p) = c :: trimEnd sep p := by
  simp only [trimEnd, List.rdropWhile, List.reverse_cons, List.dropWhile_append]
  split_ifs with none
  · have all : ∀ x ∈ p, x = sep := by simpa using none
    simpa [differs] using all
  · simp

theorem trimEnd_prefix (p : List α) : trimEnd sep p <+: p := List.rdropWhile_prefix _ p

end TrimEnd

section Directories

variable {sep : α} {d e p : List α}

theorem Below.append (p : List α) : Below sep d (d ++ sep :: p) :=
  ⟨p, by simp⟩

theorem below_iff : Below sep d p ↔ ∃ rest, p = d ++ sep :: rest := by
  constructor
  · rintro ⟨rest, rfl⟩
    exact ⟨rest, by simp⟩
  · rintro ⟨rest, rfl⟩
    exact Below.append rest

theorem Below.length_lt (h : Below sep d p) : d.length < p.length := by
  have := h.length_le
  simp only [List.length_append, List.length_singleton] at this
  omega

theorem Below.trans (inner : Below sep d e) (outer : Below sep e p) : Below sep d p :=
  List.IsPrefix.trans inner ((List.prefix_append e [sep]).trans outer)

/-- A directory of `p` lies no deeper than the one that holds `p` itself. -/
theorem Below.length_le_of_plain {name : List α} (h : Below sep d (e ++ sep :: name)) (plain : sep ∉ name) :
    d.length ≤ e.length := by
  obtain ⟨rest, same⟩ := below_iff.mp h
  by_contra longer
  have at_ : (e ++ sep :: name)[d.length]? = some sep := by simp [same]
  rw [List.getElem?_append_right (by omega)] at at_
  obtain ⟨n, more⟩ : ∃ n, d.length - e.length = n + 1 := ⟨d.length - e.length - 1, by omega⟩
  rw [more, List.getElem?_cons_succ] at at_
  exact plain (List.mem_of_getElem? at_)

/-- Two directories of one path are the same or one lies in the other. -/
theorem Below.chain (hd : Below sep d p) (he : Below sep e p) (le : d.length ≤ e.length) :
    d = e ∨ Below sep d e := by
  obtain ⟨rest, rfl⟩ := below_iff.mp hd
  have whole : e <+: d ++ sep :: rest := (List.prefix_append e [sep]).trans he
  rcases Nat.eq_or_lt_of_le le with same | shorter
  · exact .inl (List.prefix_of_prefix_length_le (List.prefix_append d _) whole le
      |>.eq_of_length same)
  · refine .inr (List.prefix_of_prefix_length_le (Below.append rest) whole ?_)
    simpa [Nat.succ_le_iff] using shorter

theorem Below.eq_of_length (hd : Below sep d p) (he : Below sep e p) (same : d.length = e.length) :
    d = e := by
  rcases hd.chain he same.le with equal | inside
  · exact equal
  · exact absurd inside.length_lt (by omega)

variable [DecidableEq α]

theorem mem_parents : d ∈ parents sep p ↔ Below sep d p := by
  induction p generalizing d with
  | nil => simp [parents, Below]
  | cons c cs ih =>
      cases d with
      | nil =>
          by_cases same : c = sep
          · simp [parents, Below, same]
          · simp [parents, Below, same, Ne.symm same]
      | cons x xs =>
          have here : x :: xs ∈ parents sep (c :: cs) ↔ c = x ∧ xs ∈ parents sep cs := by
            by_cases same : c = sep <;> simp [parents, same, and_comm]
          have tail : Below sep (x :: xs) (c :: cs) ↔ x = c ∧ Below sep xs cs :=
            List.cons_prefix_cons
          rw [here, ih, tail, eq_comm]

theorem parents_sorted (sep : α) (p : List α) :
    (parents sep p).Pairwise (fun a b => b.length < a.length) := by
  induction p with
  | nil => simp [parents]
  | cons c cs ih =>
      have shifted : ((parents sep cs).map (c :: ·)).Pairwise (fun a b => b.length < a.length) := by
        simpa [List.pairwise_map] using ih
      by_cases same : c = sep
      · simp only [parents, same, if_true]
        rw [List.pairwise_append]
        refine ⟨by simpa [same] using shifted, by simp, ?_⟩
        intro a member b last
        obtain ⟨x, -, rfl⟩ := List.mem_map.mp member
        simp [List.mem_singleton.mp last]
      · simpa [parents, same] using shifted

end Directories

section Deepest

variable [DecidableEq α] {sep : α} {lookup : List α → Option β} {shortest : Nat} {p : List α} {b : β}

theorem mem_takeWhile_parents {d : List α} :
    d ∈ (parents sep p).takeWhile (fun d => shortest ≤ d.length) ↔
      Below sep d p ∧ shortest ≤ d.length := by
  have sorted := parents_sorted sep p
  rw [← mem_parents]
  generalize parents sep p = ds at sorted ⊢
  induction ds with
  | nil => simp
  | cons x xs ih =>
      obtain ⟨shorter, rest⟩ := List.pairwise_cons.mp sorted
      by_cases long : shortest ≤ x.length
      · have tail := ih rest
        rw [List.takeWhile_cons_of_pos (by simpa using long)]
        simp only [List.mem_cons, tail]
        constructor
        · rintro (rfl | ⟨member, le⟩)
          · exact ⟨.inl rfl, long⟩
          · exact ⟨.inr member, le⟩
        · rintro ⟨rfl | member, le⟩
          · exact .inl rfl
          · exact .inr ⟨member, le⟩
      · rw [List.takeWhile_cons_of_neg (by simpa using long)]
        simp only [List.not_mem_nil, List.mem_cons, false_iff, not_and]
        rintro (rfl | member)
        · exact long
        · have := shorter d member
          omega

/-- The walk answers with the longest known directory that is long enough. -/
theorem deepest_eq_some_iff : deepest sep lookup shortest p = some b ↔
    ∃ d, Below sep d p ∧ shortest ≤ d.length ∧ lookup d = some b ∧
      ∀ e, Below sep e p → d.length < e.length → lookup e = none := by
  have sorted : ((parents sep p).takeWhile (fun d => shortest ≤ d.length)).Pairwise
      (fun a b => b.length < a.length) :=
    (parents_sorted sep p).sublist (List.takeWhile_sublist _)
  rw [deepest, List.findSome?_eq_some_iff]
  constructor
  · rintro ⟨front, d, back, shape, found, missed⟩
    have inside : ∀ e ∈ front ++ d :: back, Below sep e p ∧ shortest ≤ e.length := by
      intro e member
      rw [← shape] at member
      exact mem_takeWhile_parents.mp member
    obtain ⟨below, long⟩ := inside d (by simp)
    refine ⟨d, below, long, found, ?_⟩
    intro e hb longer
    have member : e ∈ front ++ d :: back := by
      rw [← shape]
      exact mem_takeWhile_parents.mpr ⟨hb, by omega⟩
    rw [shape, List.pairwise_append] at sorted
    rcases List.mem_append.mp member with early | late
    · exact missed e early
    · rcases List.mem_cons.mp late with rfl | later
      · omega
      · have := (List.pairwise_cons.mp sorted.2.1).1 e later
        omega
  · rintro ⟨d, below, long, found, missed⟩
    have member := mem_takeWhile_parents.mpr ⟨below, long⟩
    obtain ⟨front, back, shape⟩ := List.append_of_mem member
    refine ⟨front, d, back, shape, found, ?_⟩
    intro e early
    rw [shape, List.pairwise_append] at sorted
    have inside : e ∈ (parents sep p).takeWhile (fun d => shortest ≤ d.length) := by
      rw [shape]
      exact List.mem_append_left _ early
    exact missed e (mem_takeWhile_parents.mp inside).1 (sorted.2.2 e early d (by simp))

theorem deepest_eq_none_iff : deepest sep lookup shortest p = none ↔
    ∀ d, Below sep d p → shortest ≤ d.length → lookup d = none := by
  rw [deepest, List.findSome?_eq_none_iff]
  constructor
  · exact fun h d below long => h d (mem_takeWhile_parents.mpr ⟨below, long⟩)
  · intro h d member
    obtain ⟨below, long⟩ := mem_takeWhile_parents.mp member
    exact h d below long

end Deepest

section Split

variable [DecidableEq α] {sep : α} {p q : List α}

@[simp] theorem split_nil : split sep [] = [] := rfl

@[simp] theorem split_sep : split sep (sep :: p) = [] :: split sep p := by simp [split]

theorem split_ne_nil (sep : α) (h : p ≠ []) : split sep p ≠ [] := by
  cases p with
  | nil => exact absurd rfl h
  | cons c cs =>
      simp only [split]
      split
      · simp
      · split <;> simp

theorem split_cons (sep : α) {c : α} (differs : c ≠ sep) (nonempty : p ≠ []) :
    ∃ w ws, split sep p = w :: ws ∧ split sep (c :: p) = (c :: w) :: ws := by
  obtain ⟨w, ws, shape⟩ := List.exists_cons_of_ne_nil (split_ne_nil sep nonempty)
  refine ⟨w, ws, shape, ?_⟩
  rw [split, if_neg differs, shape]

/-- Splitting distributes over a separator when the left part has a last segment. -/
theorem split_append (h : p.getLast? ≠ some sep) (nonempty : p ≠ []) :
    split sep (p ++ sep :: q) = split sep p ++ split sep q := by
  induction p with
  | nil => exact absurd rfl nonempty
  | cons c cs ih =>
      by_cases single : cs = []
      · subst single
        have differs : c ≠ sep := by simpa using h
        obtain ⟨w, ws, shape, whole⟩ := split_cons sep (p := sep :: q) differs (by simp)
        rw [split_sep, List.cons.injEq] at shape
        obtain ⟨rfl, rfl⟩ := shape
        simp only [List.cons_append, List.nil_append, whole]
        simp [split, differs]
      · have last : cs.getLast? ≠ some sep := by
          rwa [List.getLast?_cons, List.getLast?_eq_some_getLast single, Option.getD_some,
            ← List.getLast?_eq_some_getLast single] at h
        by_cases same : c = sep
        · subst same
          simp only [List.cons_append, split_sep, ih last single]
        · obtain ⟨w, ws, shape, whole⟩ := split_cons sep same single
          obtain ⟨v, vs, shape', whole'⟩ :=
            split_cons sep (p := cs ++ sep :: q) same (by simp)
          rw [ih last single, shape, List.cons_append, List.cons.injEq] at shape'
          obtain ⟨rfl, rfl⟩ := shape'
          rw [List.cons_append, whole', whole, List.cons_append]

/-- The segments after a separator are the last ones of the whole path. -/
theorem split_below (sep : α) (p q : List α) : ∃ w ws, split sep (p ++ sep :: q) = w :: ws ++ split sep q := by
  induction p with
  | nil => exact ⟨[], [], by simp⟩
  | cons c cs ih =>
      obtain ⟨w, ws, shape⟩ := ih
      by_cases same : c = sep
      · exact ⟨[], w :: ws, by simp [same, shape]⟩
      · obtain ⟨v, vs, shape', whole⟩ := split_cons sep (p := cs ++ sep :: q) same (by simp)
        rw [shape, List.cons_append, List.cons.injEq] at shape'
        obtain ⟨rfl, rfl⟩ := shape'
        exact ⟨c :: w, ws, whole⟩

theorem plain_of_mem_split {w : List α} (member : w ∈ split sep p) : sep ∉ w := by
  induction p generalizing w with
  | nil => cases member
  | cons c cs ih =>
      by_cases same : c = sep
      · rw [same, split_sep] at member
        cases member with
        | head => simp
        | tail _ later => exact ih later
      · by_cases single : cs = []
        · have only : w = [c] := by simpa [split, same, single] using member
          simpa [only] using Ne.symm same
        · obtain ⟨v, vs, shape, whole⟩ := split_cons sep same single
          rw [whole] at member
          cases member with
          | head =>
              have first : sep ∉ v := ih (shape ▸ List.mem_cons_self)
              simp [first, Ne.symm same]
          | tail _ later => exact ih (shape ▸ List.mem_cons_of_mem v later)

theorem split_plain (nonempty : p ≠ []) (plain : sep ∉ p) : split sep p = [p] := by
  induction p with
  | nil => exact absurd rfl nonempty
  | cons c cs ih =>
      simp only [List.mem_cons, not_or] at plain
      by_cases single : cs = []
      · simp [split, single, Ne.symm plain.1]
      · rw [split, if_neg (Ne.symm plain.1), ih single plain.2]

/-- Joining the segments gives the path back, unless a trailing separator was lost. -/
theorem intercalate_split (h : p.getLast? ≠ some sep) : [sep].intercalate (split sep p) = p := by
  induction p with
  | nil => rfl
  | cons c cs ih =>
      by_cases single : cs = []
      · have differs : c ≠ sep := by simpa [single] using h
        simp [single, split, differs]
      · have last : cs.getLast? ≠ some sep := by
          rwa [List.getLast?_cons, List.getLast?_eq_some_getLast single, Option.getD_some,
            ← List.getLast?_eq_some_getLast single] at h
        by_cases same : c = sep
        · obtain ⟨w, ws, shape⟩ := List.exists_cons_of_ne_nil (split_ne_nil sep single)
          rw [same, split_sep, shape, List.intercalate_cons_cons, ← shape, ih last]
          simp
        · obtain ⟨w, ws, shape, whole⟩ := split_cons sep same single
          have rest := ih last
          rw [shape] at rest
          rw [whole]
          cases ws with
          | nil => simpa using rest
          | cons v vs =>
              rw [List.intercalate_cons_cons] at rest ⊢
              simpa using rest

/-- Splitting gives back nonempty segments that were joined. -/
theorem split_intercalate {parts : List (List α)} (plain : ∀ part ∈ parts, part ≠ [] ∧ sep ∉ part) :
    split sep ([sep].intercalate parts) = parts := by
  induction parts with
  | nil => rfl
  | cons part parts ih =>
      obtain ⟨⟨nonempty, here⟩, later⟩ := List.forall_mem_cons.mp plain
      cases parts with
      | nil => simpa using split_plain nonempty here
      | cons next rest =>
          have last : part.getLast? ≠ some sep := fun last => here (List.mem_of_getLast? last)
          rw [List.intercalate_cons_cons, List.append_assoc, List.singleton_append, split_append last nonempty,
            split_plain nonempty here, ih later]
          rfl

section Intercalate

variable {parts : List (List α)} (plain : ∀ part ∈ parts, part ≠ [] ∧ sep ∉ part)
include plain

omit [DecidableEq α] in
theorem intercalate_head : ([sep].intercalate parts).head? ≠ some sep := by
  cases parts with
  | nil => simp
  | cons part parts =>
      obtain ⟨nonempty, here⟩ := plain part List.mem_cons_self
      have first : part.head? ≠ some sep := fun first => here (List.mem_of_head? first)
      cases parts with
      | nil => simpa using first
      | cons next rest =>
          rwa [List.intercalate_cons_cons, List.append_assoc, List.head?_append_of_ne_nil _ nonempty]

theorem intercalate_ne_nil (some : parts ≠ []) : [sep].intercalate parts ≠ [] := by
  intro none
  have again := split_intercalate plain
  rw [none] at again
  exact some again.symm

theorem intercalate_last : ([sep].intercalate parts).getLast? ≠ some sep := by
  induction parts with
  | nil => simp
  | cons part parts ih =>
      obtain ⟨⟨-, here⟩, later⟩ := List.forall_mem_cons.mp plain
      cases parts with
      | nil =>
          intro last
          rw [List.intercalate_singleton] at last
          exact here (List.mem_of_getLast? last)
      | cons next rest =>
          rw [List.intercalate_cons_cons, List.getLast?_append_of_ne_nil _ (intercalate_ne_nil later (by simp))]
          exact ih later

end Intercalate

omit [DecidableEq α] in
/-- The first separator tells where the first segment ends. -/
theorem append_sep_inj {a b rest others : List α} (plain : sep ∉ a) (plain' : sep ∉ b)
    (same : a ++ sep :: rest = b ++ sep :: others) : a = b ∧ rest = others := by
  induction a generalizing b with
  | nil =>
      cases b with
      | nil => exact ⟨rfl, (List.cons.inj same).2⟩
      | cons c cs =>
          have first : sep = c := (List.cons.inj same).1
          exact absurd (first ▸ List.mem_cons_self) plain'
  | cons c cs ih =>
      cases b with
      | nil =>
          have first : c = sep := (List.cons.inj same).1
          exact absurd (first ▸ List.mem_cons_self) plain
      | cons c' cs' =>
          obtain ⟨rfl, later⟩ := List.cons.inj same
          rw [List.mem_cons, not_or] at plain plain'
          obtain ⟨rfl, rests⟩ := ih plain.2 plain'.2 later
          exact ⟨rfl, rests⟩

end Split

end DuckGlue.Segments
