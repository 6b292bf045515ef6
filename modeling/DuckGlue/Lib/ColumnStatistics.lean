import Mathlib.Order.Lattice
import Mathlib.Order.Defs.LinearOrder

/-! # Statistics of a column

Bounds and NULL flags that hold of every value of a column. The statistics of single
values are merged, and the values themselves collected in a set, so that what comes out
holds of all the values that went in.
-/

namespace DuckGlue

/-- What a planner computes with; NULL is no `Value`. -/
structure StatisticsOperations (Value Kind : Type) where
  Statistics : Type
  fromConstant : Kind → Option Value → Statistics
  /-- Expands the bounds of the first by those of the second. -/
  merge : Statistics → Statistics → Statistics
  setDistinctCount : Statistics → ℕ → Statistics
  distinctCount : Statistics → ℕ
  minimum : Statistics → Option Value
  maximum : Statistics → Option Value
  canHaveNull : Statistics → Bool
  canHaveValid : Statistics → Bool
  atMost : Value → Value → Prop
  /-- The equality of a set of values. -/
  same : Value → Value → Bool

namespace StatisticsOperations

variable {Value Kind : Type} (operations : StatisticsOperations Value Kind)

/-- Statistics that allow a value; a bound that is missing allows every value. -/
def Contains (statistics : operations.Statistics) : Option Value → Prop
  | none => operations.canHaveNull statistics = true
  | some value => operations.canHaveValid statistics = true ∧
      (∀ minimum, operations.minimum statistics = some minimum → operations.atMost minimum value) ∧
      ∀ maximum, operations.maximum statistics = some maximum → operations.atMost value maximum

def sameValue : Option Value → Option Value → Bool
  | none, none => true
  | some a, some b => operations.same a b
  | _, _ => false

/-- Adds a value to a set. -/
def insertValue (values : List (Option Value)) (value : Option Value) : List (Option Value) :=
  if values.any (operations.sameValue value) then values else value :: values

end StatisticsOperations

/-- The operations are sound: a constant is allowed by its statistics, what either side
allows is allowed after a merge, and the count is a count only. -/
structure StatisticsDomain (Value Kind : Type) extends StatisticsOperations Value Kind where
  fromConstant_contains : ∀ kind value,
    toStatisticsOperations.Contains (toStatisticsOperations.fromConstant kind value) value
  merge_contains : ∀ {a b value},
    toStatisticsOperations.Contains a value ∨ toStatisticsOperations.Contains b value →
      toStatisticsOperations.Contains (toStatisticsOperations.merge a b) value
  setDistinctCount_contains : ∀ {statistics count value},
    toStatisticsOperations.Contains statistics value →
      toStatisticsOperations.Contains (toStatisticsOperations.setDistinctCount statistics count) value
  distinctCount_set : ∀ statistics count,
    toStatisticsOperations.distinctCount (toStatisticsOperations.setDistinctCount statistics count) = count
  same_equivalence : Equivalence fun a b => toStatisticsOperations.same a b = true

namespace StatisticsDomain

variable {Value Kind : Type} {domain : StatisticsDomain Value Kind} {values : List (Option Value)}
  {a b c value : Option Value}

theorem sameValue_refl (value : Option Value) : domain.sameValue value value = true := by
  cases value with
  | none => rfl
  | some value => exact domain.same_equivalence.refl value

theorem sameValue_symm (same : domain.sameValue a b = true) : domain.sameValue b a = true := by
  cases a <;> cases b
  · rfl
  · cases same
  · cases same
  · exact domain.same_equivalence.symm same

theorem sameValue_trans (first : domain.sameValue a b = true) (second : domain.sameValue b c = true) :
    domain.sameValue a c = true := by
  cases b with
  | none =>
      cases a
      · exact second
      · cases first
  | some b =>
      cases a with
      | none => cases first
      | some a =>
          cases c with
          | none => cases second
          | some c => exact domain.same_equivalence.trans first second

/-- A set has every value that was added. -/
theorem mem_insertValue : ∃ member ∈ domain.insertValue values value, domain.sameValue value member = true := by
  unfold StatisticsOperations.insertValue
  split_ifs with known
  · obtain ⟨member, inside, same⟩ := List.any_eq_true.mp known
    exact ⟨member, inside, same⟩
  · exact ⟨value, List.mem_cons_self, sameValue_refl value⟩

theorem subset_insertValue : values ⊆ domain.insertValue values value := by
  unfold StatisticsOperations.insertValue
  split_ifs
  · exact List.Subset.refl values
  · exact List.subset_cons_self value values

/-- Values that differ have different members of a set that has them all. -/
theorem length_le_of_distinct {distinct : List (Option Value)}
    (covered : ∀ value ∈ distinct, ∃ member ∈ values, domain.sameValue value member = true)
    (differ : distinct.Pairwise fun a b => domain.sameValue a b = false) : distinct.length ≤ values.length := by
  induction distinct generalizing values with
  | nil => exact Nat.zero_le _
  | cons first distinct ih =>
      obtain ⟨here, later⟩ := List.forall_mem_cons.mp covered
      obtain ⟨other, differ⟩ := List.pairwise_cons.mp differ
      obtain ⟨member, inside, same⟩ := here
      obtain ⟨front, back, rfl⟩ := List.append_of_mem inside
      have rest : distinct.length ≤ (front ++ back).length := by
        apply ih
        · intro value there
          obtain ⟨own, ownInside, ownSame⟩ := later value there
          refine ⟨own, ?_, ownSame⟩
          rcases List.mem_append.mp ownInside with before | after
          · exact List.mem_append_left _ before
          · cases after with
            | head =>
                have equal := sameValue_trans same (sameValue_symm ownSame)
                rw [other value there] at equal
                cases equal
            | tail _ after => exact List.mem_append_right _ after
        · exact differ
      simp only [List.length_cons, List.length_append] at rest ⊢
      omega

end StatisticsDomain

/-! ## Bounds in a linear order -/

/-- Statistics of values that are ordered. -/
structure OrderedStatistics (Value : Type) where
  minimum : Option Value := none
  maximum : Option Value := none
  hasNull : Bool := false
  hasValid : Bool := false
  distinct : ℕ := 0

namespace OrderedStatistics

variable {Value : Type} [LinearOrder Value]

def ofConstant : Option Value → OrderedStatistics Value
  | none => { hasNull := true }
  | some value => { minimum := some value, maximum := some value, hasValid := true }

/-- The bound of both sides; one without a bound leaves none. -/
def mergeBound (choose : Value → Value → Value) : Option Value → Option Value → Option Value
  | some a, some b => some (choose a b)
  | _, _ => none

/-- A side without valid values does not count for the bounds. -/
def merge (a b : OrderedStatistics Value) : OrderedStatistics Value :=
  if !a.hasValid then { b with hasNull := a.hasNull || b.hasNull }
  else if !b.hasValid then { a with hasNull := a.hasNull || b.hasNull }
  else
    { minimum := mergeBound min a.minimum b.minimum, maximum := mergeBound max a.maximum b.maximum,
      hasNull := a.hasNull || b.hasNull, hasValid := true }

variable (Value) in
def operations (Kind : Type) : StatisticsOperations Value Kind where
  Statistics := OrderedStatistics Value
  fromConstant _ := ofConstant
  merge := merge
  setDistinctCount statistics count := { statistics with distinct := count }
  distinctCount := distinct
  minimum := minimum
  maximum := maximum
  canHaveNull := hasNull
  canHaveValid := hasValid
  atMost a b := a ≤ b
  same a b := a = b

variable {Kind : Type} {a b : OrderedStatistics Value} {value : Option Value}

theorem merge_hasNull : (merge a b).hasNull = (a.hasNull || b.hasNull) := by
  unfold merge
  split_ifs <;> rfl

theorem merge_contains (either : (operations Value Kind).Contains a value ∨ (operations Value Kind).Contains b value) :
    (operations Value Kind).Contains (merge a b) value := by
  cases value with
  | none =>
      have null : (a.hasNull || b.hasNull) = true := (Bool.or_eq_true _ _).mpr either
      exact merge_hasNull.trans null
  | some value =>
      unfold merge
      split_ifs with noValid noOther
      · rcases either with ⟨valid, _⟩ | right
        · have absent : a.hasValid = false := by simpa using noValid
          exact absurd (absent.symm.trans valid) Bool.false_ne_true
        · exact right
      · rcases either with left | ⟨valid, _⟩
        · exact left
        · have absent : b.hasValid = false := by simpa using noOther
          exact absurd (absent.symm.trans valid) Bool.false_ne_true
      · refine ⟨rfl, fun bound least => ?_, fun bound greatest => ?_⟩
        · change mergeBound min a.minimum b.minimum = some bound at least
          unfold mergeBound at least
          split at least
          · rename_i one other first second
            cases least
            rcases either with ⟨_, above, _⟩ | ⟨_, above, _⟩
            · exact (min_le_left one other).trans (above one first)
            · exact (min_le_right one other).trans (above other second)
          · cases least
        · change mergeBound max a.maximum b.maximum = some bound at greatest
          unfold mergeBound at greatest
          split at greatest
          · rename_i one other first second
            cases greatest
            rcases either with ⟨_, _, below⟩ | ⟨_, _, below⟩
            · exact (below one first).trans (le_max_left one other)
            · exact (below other second).trans (le_max_right one other)
          · cases greatest

variable (Value Kind) in
def domain : StatisticsDomain Value Kind where
  toStatisticsOperations := operations Value Kind
  fromConstant_contains kind value := by
    cases value with
    | none => rfl
    | some value =>
        refine ⟨rfl, fun bound least => ?_, fun bound greatest => ?_⟩
        · cases least
          exact le_refl value
        · cases greatest
          exact le_refl value
  merge_contains := merge_contains
  setDistinctCount_contains {_ _ value} contained := by
    cases value with
    | none => exact contained
    | some value => exact contained
  distinctCount_set _ _ := rfl
  same_equivalence := by
    constructor
    · exact fun value => decide_eq_true rfl
    · exact fun same => decide_eq_true (of_decide_eq_true same).symm
    · exact fun first second => decide_eq_true ((of_decide_eq_true first).trans (of_decide_eq_true second))

end OrderedStatistics

end DuckGlue
