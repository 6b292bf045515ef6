import Mathlib.Data.List.Basic
import Mathlib.Tactic.Common

/-! # A cache that answers by keys

Requests are answered with what was computed for an earlier request of the same key, if
anything was. The answers are right as long as requests of one key want the same.
-/

namespace DuckGlue.KeyedCache

variable {Request Key Value ε : Type} [DecidableEq Key] (key : Request → Key) (compute : Request → Except ε Value)

/-- What is kept under a key. -/
def find (cache : List (Key × Value)) (wanted : Key) : Option Value :=
  (cache.find? fun entry => entry.1 = wanted).map (·.2)

/-- One request: what fails is not kept. -/
def ask (cache : List (Key × Value)) (request : Request) : Except ε Value × List (Key × Value) :=
  match find cache (key request) with
  | some value => (.ok value, cache)
  | none =>
      match compute request with
      | .error failed => (.error failed, cache)
      | .ok value => (.ok value, cache ++ [(key request, value)])

/-- The requests with their answers and the cache after them. -/
inductive Served : List (Request × Except ε Value) → List (Key × Value) → Prop
  | nil : Served [] []
  | ask {answers : List (Request × Except ε Value)} {cache : List (Key × Value)} (served : Served answers cache)
      (request : Request) :
      Served (answers ++ [(request, (ask key compute cache request).1)]) (ask key compute cache request).2

variable {key compute} {cache : List (Key × Value)} {answers : List (Request × Except ε Value)} {request : Request}

theorem find_append {wanted : Key} {more : List (Key × Value)} :
    find (cache ++ more) wanted = (find cache wanted).or (find more wanted) := by
  unfold find
  rw [List.find?_append]
  cases cache.find? fun entry => entry.1 = wanted <;> rfl

theorem find_single {wanted : Key} {value : Value} : find [(wanted, value)] wanted = some value := by
  simp [find]

theorem mem_of_find {wanted : Key} {value : Value} (found : find cache wanted = some value) : (wanted, value) ∈ cache := by
  obtain ⟨entry, here, rfl⟩ := Option.map_eq_some_iff.mp found
  have same : entry.1 = wanted := by simpa using List.find?_some here
  subst same
  exact List.mem_of_find?_eq_some here

/-- What is kept stays. -/
theorem find_ask {wanted : Key} {value : Value} (found : find cache wanted = some value) :
    find (ask key compute cache request).2 wanted = some value := by
  unfold ask
  cases find cache (key request) with
  | some _ => exact found
  | none =>
      cases compute request with
      | error _ => exact found
      | ok _ => rw [find_append, found, Option.some_or]

/-- An answer is kept under the key of its request. -/
theorem find_of_answer {value : Value} (answer : (ask key compute cache request).1 = .ok value) :
    find (ask key compute cache request).2 (key request) = some value := by
  unfold ask at answer ⊢
  cases known : find cache (key request) with
  | some kept =>
      rw [known] at answer
      cases answer
      exact known
  | none =>
      rw [known] at answer
      cases computed : compute request with
      | error failed =>
          rw [computed] at answer
          cases answer
      | ok fresh =>
          rw [computed] at answer
          cases answer
          simp only
          rw [find_append, known, Option.none_or, find_single]

/-- What can be computed is answered. -/
theorem ask_isOk {value : Value} (computed : compute request = .ok value) :
    ∃ given, (ask key compute cache request).1 = .ok given := by
  unfold ask
  rw [computed]
  cases find cache (key request) with
  | some kept => exact ⟨kept, rfl⟩
  | none => exact ⟨value, rfl⟩

theorem ask_of_find {value : Value} (found : find cache (key request) = some value) :
    (ask key compute cache request).1 = .ok value := by
  unfold ask
  rw [found]

theorem ask_of_find_none (missing : find cache (key request) = none) :
    (ask key compute cache request).1 = compute request := by
  unfold ask
  rw [missing]
  cases compute request <;> rfl

/-- What is kept was computed for some request of its key. -/
theorem Served.computed (served : Served key compute answers cache) {entry : Key × Value} (kept : entry ∈ cache) :
    ∃ request ∈ answers.map (·.1), key request = entry.1 ∧ compute request = .ok entry.2 := by
  induction served with
  | nil => cases kept
  | @ask answers cache served last ih =>
      rw [List.map_append]
      unfold KeyedCache.ask at kept
      cases known : find cache (key last) with
      | some value =>
          rw [known] at kept
          obtain ⟨request, member, made⟩ := ih kept
          exact ⟨request, List.mem_append_left _ member, made⟩
      | none =>
          rw [known] at kept
          cases computed : compute last with
          | error failed =>
              rw [computed] at kept
              obtain ⟨request, member, made⟩ := ih kept
              exact ⟨request, List.mem_append_left _ member, made⟩
          | ok value =>
              rw [computed] at kept
              rcases List.mem_append.mp kept with old | new
              · obtain ⟨request, member, made⟩ := ih old
                exact ⟨request, List.mem_append_left _ member, made⟩
              · cases List.mem_singleton.mp new
                exact ⟨last, List.mem_append_right _ List.mem_cons_self, rfl, computed⟩

/-- A request that was answered finds its answer. -/
theorem Served.find_answered (served : Served key compute answers cache) {value : Value}
    (member : (request, .ok value) ∈ answers) : find cache (key request) = some value := by
  induction served with
  | nil => cases member
  | @ask answers cache served last ih =>
      rcases List.mem_append.mp member with old | new
      · exact find_ask (ih old)
      · have same := List.mem_singleton.mp new
        obtain ⟨rfl, answer⟩ := Prod.mk.inj same
        exact find_of_answer answer.symm

theorem Served.answered (served : Served key compute answers cache) {value : Value} (asked : request ∈ answers.map (·.1))
    (computed : compute request = .ok value) : ∃ given, (request, .ok given) ∈ answers := by
  induction served with
  | nil => cases asked
  | @ask answers cache served last ih =>
      rw [List.map_append] at asked
      rcases List.mem_append.mp asked with old | new
      · obtain ⟨given, member⟩ := ih old
        exact ⟨given, List.mem_append_left _ member⟩
      · cases List.mem_singleton.mp new
        obtain ⟨given, answer⟩ := @ask_isOk _ _ _ _ _ key _ cache _ _ computed
        rw [answer]
        exact ⟨given, List.mem_append_right _ List.mem_cons_self⟩

/-- Where everything can be computed, a request is answered with what was computed for the
first one of its key. -/
theorem Served.first_of_key (served : Served key compute answers cache)
    (computes : ∀ request, ∃ value, compute request = .ok value) (wanted : Key) :
    find cache wanted = ((answers.map (·.1)).find? fun request => key request = wanted).bind fun request =>
      (compute request).toOption := by
  induction served with
  | nil => rfl
  | @ask answers cache served last ih =>
      rw [List.map_append, List.find?_append]
      unfold KeyedCache.ask
      by_cases same : key last = wanted
      · subst same
        have single : ([last].find? fun request => decide (key request = key last)) = some last := by simp
        rw [List.map_cons, List.map_nil, single]
        obtain ⟨value, computed⟩ := computes last
        cases first : (answers.map (·.1)).find? fun request => decide (key request = key last) with
        | some earlier =>
            rw [first] at ih
            obtain ⟨kept, made⟩ := computes earlier
            have known : find cache (key last) = some kept := by
              rw [ih, Option.bind_some, made]
              rfl
            rw [known]
            simp only [Option.some_or, Option.bind_some, made]
            exact known
        | none =>
            rw [first] at ih
            have missing : find cache (key last) = none := ih
            rw [missing, computed]
            simp only [Option.none_or, Option.bind_some, computed]
            rw [find_append, missing, Option.none_or, find_single]
            rfl
      · have single : ([last].find? fun request => decide (key request = wanted)) = none := by simp [same]
        rw [List.map_cons, List.map_nil, single, Option.or_none, ← ih]
        cases find cache (key last) with
        | some _ => rfl
        | none =>
            cases compute last with
            | error _ => rfl
            | ok value =>
                simp only
                rw [find_append]
                have other : find [(key last, value)] wanted = none := by simp [find, same]
                rw [other, Option.or_none]

/-- The later request wants what the earlier one did, if they have one key and something
was computed for the earlier one. -/
def Told (key : Request → Key) (compute : Request → Except ε Value) (Same : Request → Request → Prop)
    (earlier later : Request) : Prop :=
  ∀ value, compute earlier = .ok value → key earlier = key later → Same earlier later

/-- Every answer fits its request exactly when no two requests of one key differ. -/
theorem Served.fits_iff {Fits : Request → Value → Prop} {Same : Request → Request → Prop}
    (computed_fits : ∀ request value, compute request = .ok value → Fits request value)
    (same_of_fits : ∀ a b value, Fits a value → Fits b value → Same a b)
    (fits_of_same : ∀ a b value, Same a b → Fits a value → Fits b value) (served : Served key compute answers cache) :
    (∀ request value, (request, .ok value) ∈ answers → Fits request value) ↔
      (answers.map (·.1)).Pairwise (Told key compute Same) := by
  induction served with
  | nil =>
      apply iff_of_true
      · nofun
      · exact List.Pairwise.nil
  | @ask answers cache served last ih =>
      rw [List.map_append, List.pairwise_append]
      constructor
      · intro fits
        have before := ih.mp fun request value member => fits request value (List.mem_append_left _ member)
        refine ⟨before, List.pairwise_singleton _ _, ?_⟩
        intro earlier asked later isLast value computed sameKey
        cases List.mem_singleton.mp isLast
        obtain ⟨given, member⟩ := served.answered asked computed
        have kept := served.find_answered member
        rw [sameKey] at kept
        have lastFits : Fits last given := by
          apply fits
          rw [ask_of_find kept]
          exact List.mem_append_right _ List.mem_cons_self
        exact same_of_fits earlier last given (fits earlier given (List.mem_append_left _ member)) lastFits
      · intro ⟨before, _, across⟩ request value member
        rcases List.mem_append.mp member with old | new
        · exact ih.mpr before request value old
        · obtain ⟨rfl, answer⟩ := Prod.mk.inj (List.mem_singleton.mp new)
          cases found : find cache (key request) with
          | none =>
              rw [ask_of_find_none found] at answer
              exact computed_fits request value answer.symm
          | some kept =>
              rw [ask_of_find found] at answer
              cases answer
              obtain ⟨earlier, asked, sameKey, computed⟩ := served.computed (mem_of_find found)
              have told := across earlier asked request List.mem_cons_self value computed sameKey
              exact fits_of_same earlier request value told (computed_fits earlier value computed)

end DuckGlue.KeyedCache
