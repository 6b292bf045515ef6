import DuckGlue.Lib.BatchedRequests

/-! # Requests that are throttled for a while

A service that refuses nothing for good, and throttles fewer requests in a row than there
are attempts at a batch, settles every batch.
-/

namespace DuckGlue.BatchedRequests

variable {Item Failure State ε : Type}

/-- Of so many requests in a row one is not throttled. -/
def Patient (attempts : ℕ) (throttled : ℕ → Prop) : Prop := ∀ n, ∃ k < attempts, ¬ throttled (n + k)

theorem patient_never {attempts : ℕ} (some : 0 < attempts) : Patient attempts fun _ => False :=
  fun _ => ⟨0, some, id⟩

namespace Service

/-- The attempts are answered, and refuse single items for the moment only, when they are
throttled. `asked` is the number of the next request. -/
def Patiently (service : Service Item Failure State ε) (throttled : ℕ → Prop) (asked : State → ℕ)
    (Inv : ℕ → List Item → State → Prop) : Prop :=
  ∀ {batch number pending s}, pending ≠ [] → Inv batch pending s →
    ∃ s' failures, service.attempt batch number pending s = (s', .ok failures) ∧
      Inv batch (failures.map service.item) s' ∧ asked s' = asked s + 1 ∧
      (∀ failure ∈ failures, service.transient failure = true) ∧ (¬ throttled (asked s) → failures = [])

variable {service : Service Item Failure State ε} {throttled : ℕ → Prop} {asked : State → ℕ}
  {Inv : ℕ → List Item → State → Prop} {batch left number attempts : ℕ} {pending : List Item} {s : State}

theorem settle_nil : service.settle batch left number [] s = (s, .ok ()) := by
  cases left <;> simp [settle]

/-- A batch is settled where one of the attempts left is not throttled. -/
theorem settle_patiently (patiently : service.Patiently throttled asked Inv) (holds : Inv batch pending s)
    (soon : ∃ k ≤ left, ¬ throttled (asked s + k)) :
    ∃ s', service.settle batch left number pending s = (s', .ok ()) ∧ Inv batch [] s' := by
  induction left generalizing number pending s with
  | zero =>
      obtain ⟨k, bound, free⟩ := soon
      have first : k = 0 := by omega
      subst first
      cases pending with
      | nil => exact ⟨s, settle_nil, holds⟩
      | cons item rest =>
          obtain ⟨s', failures, answered, inv, _, _, settled⟩ :=
            @patiently batch number _ _ (List.cons_ne_nil item rest) holds
          have none : failures = [] := settled free
          subst none
          refine ⟨s', ?_, inv⟩
          unfold settle
          simp only [List.isEmpty_cons, Bool.false_eq_true, if_false, answered, List.find?_nil]
  | succ left ih =>
      cases pending with
      | nil => exact ⟨s, settle_nil, holds⟩
      | cons item rest =>
          obtain ⟨s', failures, answered, inv, next, transient, settled⟩ :=
            @patiently batch number _ _ (List.cons_ne_nil item rest) holds
          have none : (failures.find? fun failure => !service.transient failure || left + 1 = 0) = none := by
            rw [List.find?_eq_none]
            intro failure member
            simp [transient failure member]
          have unfolded : service.settle batch (left + 1) number (item :: rest) s =
              service.settle batch left (number + 1) (failures.map service.item) s' := by
            rw [settle]
            simp only [List.isEmpty_cons, Bool.false_eq_true, if_false, answered, none]
          rw [unfolded]
          obtain ⟨k, bound, free⟩ := soon
          cases k with
          | zero =>
              rw [settled free]
              rw [settled free] at inv
              exact ⟨s', settle_nil, inv⟩
          | succ k =>
              apply ih inv
              refine ⟨k, by omega, ?_⟩
              rw [next]
              rwa [Nat.add_assoc, Nat.add_comm 1 k]

/-- All batches are settled, one after another. -/
theorem settleAll_patiently (patiently : service.Patiently throttled asked Inv) (patient : Patient attempts throttled)
    {Between : ℕ → State → Prop} {items : List (List Item)}
    (enter : ∀ {n pending s}, items[n]? = some pending → Between n s → Inv n pending s)
    (leave : ∀ {n s}, Inv n [] s → Between (n + 1) s) (holds : Between 0 s) :
    ∃ s', service.settleAll attempts 0 items s = (s', .ok ()) ∧ Between items.length s' := by
  have from_ : ∀ (rest : List (List Item)) (n : ℕ) (s : State), items.drop n = rest → n ≤ items.length → Between n s →
      ∃ s', service.settleAll attempts n rest s = (s', .ok ()) ∧ Between items.length s' := by
    intro rest
    induction rest with
    | nil =>
        intro n s here bound holds
        rw [← length_of_drop_eq_nil here bound]
        exact ⟨s, rfl, holds⟩
    | cons pending rest ih =>
        intro n s here bound holds
        obtain ⟨first, later, inside⟩ := drop_eq_cons here
        obtain ⟨k, few, free⟩ := patient (asked s)
        obtain ⟨s', settled, inv⟩ := settle_patiently patiently (enter first holds) ⟨k, Nat.le_pred_of_lt few, free⟩
        obtain ⟨s'', rest_, last⟩ := ih (n + 1) s' later inside (leave inv)
        refine ⟨s'', ?_, last⟩
        unfold settleAll
        have done : service.settle n (attempts - 1) 0 pending s = (s', .ok ()) := settled
        rw [done]
        exact rest_
  exact from_ items 0 s rfl (Nat.zero_le _) holds

end Service

end DuckGlue.BatchedRequests
