import Mathlib.Data.List.Perm.Subperm

/-! # Batched requests

A service takes at most so many items in a request and refuses single ones of them. What
it refuses for the moment is sent again, a bounded number of times, before the next batch.
-/

namespace DuckGlue.BatchedRequests

variable {Item Failure State ε : Type}

/-- The items in batches of a size; the fuel bounds their number. -/
def batchesAux (size : ℕ) : ℕ → List Item → List (List Item)
  | 0, _ => []
  | fuel + 1, items => if items = [] then [] else items.take size :: batchesAux size fuel (items.drop size)

def batches (size : ℕ) (items : List Item) : List (List Item) := batchesAux size items.length items

section Batches

variable {size : ℕ} {items batch : List Item}

theorem batchesAux_flatten (positive : 0 < size) {fuel : ℕ} (enough : items.length ≤ fuel) :
    (batchesAux size fuel items).flatten = items := by
  induction fuel generalizing items with
  | zero =>
      have none : items = [] := List.length_eq_zero_iff.mp (by omega)
      rw [none]
      rfl
  | succ fuel ih =>
      unfold batchesAux
      split_ifs with none
      · rw [none]
        rfl
      · have some := List.length_pos_of_ne_nil none
        have rest : (items.drop size).length ≤ fuel := by
          rw [List.length_drop]
          omega
        rw [List.flatten_cons, ih rest, List.take_append_drop]

/-- Every item is in a batch, in order. -/
theorem batches_flatten (positive : 0 < size) : (batches size items).flatten = items :=
  batchesAux_flatten positive (Nat.le_refl _)

theorem length_of_mem_batches (member : batch ∈ batches size items) : batch.length ≤ size := by
  unfold batches at member
  generalize items.length = fuel at member
  induction fuel generalizing items with
  | zero => cases member
  | succ fuel ih =>
      unfold batchesAux at member
      split_ifs at member
      · cases member
      · rcases List.mem_cons.mp member with first | later
        · rw [first]
          exact List.length_take_le size items
        · exact ih later

/-- The next of the batches, which come one after another. -/
theorem drop_eq_cons {rest : List Item} {item : Item} {n : ℕ} (here : items.drop n = item :: rest) :
    items[n]? = some item ∧ items.drop (n + 1) = rest ∧ n < items.length := by
  have first : items[n]? = some item := by
    rw [← List.head?_drop, here]
    rfl
  have later : items.drop (n + 1) = rest := by
    rw [← List.tail_drop, here]
    rfl
  exact ⟨first, later, (List.getElem?_eq_some_iff.mp first).1⟩

theorem length_of_drop_eq_nil {n : ℕ} (here : items.drop n = []) (bound : n ≤ items.length) : n = items.length := by
  have none := List.drop_eq_nil_iff.mp here
  omega

end Batches

/-- A service, as one attempt at a batch and what may be done about what it refused. -/
structure Service (Item Failure State ε : Type) where
  /-- The number of the batch, that of the attempt, and the items it sends. -/
  attempt : ℕ → ℕ → List Item → State → State × Except ε (List Failure)
  transient : Failure → Bool
  item : Failure → Item
  refuse : Failure → ε

namespace Service

variable (service : Service Item Failure State ε)

/-- The attempts at a batch, from the given one on, with so many left after it. -/
def settle (batch : ℕ) : ℕ → ℕ → List Item → State → State × Except ε Unit
  | left, number, pending, s =>
      if pending.isEmpty then (s, .ok ())
      else
        match service.attempt batch number pending s with
        | (s, .error e) => (s, .error e)
        | (s, .ok failures) =>
            match failures.find? fun failure => !service.transient failure || left = 0 with
            | some failure => (s, .error (service.refuse failure))
            | none =>
                match left with
                | 0 => (s, .ok ())
                | left + 1 => settle batch left (number + 1) (failures.map service.item) s

/-- The batches from a number on, one after another, each with at most so many attempts. -/
def settleAll (attempts : ℕ) : ℕ → List (List Item) → State → State × Except ε Unit
  | _, [], s => (s, .ok ())
  | batch, items :: rest, s =>
      match service.settle batch (attempts - 1) 0 items s with
      | (s, .error e) => (s, .error e)
      | (s, .ok ()) => settleAll attempts (batch + 1) rest s

/-- An invariant of the attempts: `Inv` before each, `Between` the batches and `Stopped`
where the service gives up. -/
structure Keeps (attempts : ℕ) (Inv : ℕ → ℕ → List Item → State → Prop) (Stopped : State → Prop) : Prop where
  next : ∀ {batch number pending s s' failures}, number < attempts →
    service.attempt batch number pending s = (s', .ok failures) → Inv batch number pending s →
    Inv batch (number + 1) (failures.map service.item) s'
  stopped : ∀ {batch number pending s s' result}, number < attempts →
    service.attempt batch number pending s = (s', result) → Inv batch number pending s → Stopped s'

variable {service} {Inv : ℕ → ℕ → List Item → State → Prop} {Stopped : State → Prop} {attempts : ℕ}
  {s s' : State} {batch left number : ℕ} {pending : List Item} {result : Except ε Unit}

theorem settle_keeps (keeps : service.Keeps attempts Inv Stopped) (enough : number + left < attempts)
    (settled : service.settle batch left number pending s = (s', result)) (holds : Inv batch number pending s) :
    (result = .ok () ∧ ∃ last, Inv batch last [] s') ∨ ((∃ e, result = .error e) ∧ Stopped s') := by
  induction left generalizing number pending s with
  | zero =>
      unfold settle at settled
      split_ifs at settled with none
      · cases settled
        rw [List.isEmpty_iff.mp none] at holds
        exact .inl ⟨rfl, number, holds⟩
      · split at settled
        · rename_i answered
          cases settled
          exact .inr ⟨⟨_, rfl⟩, keeps.stopped enough answered holds⟩
        · rename_i failures answered
          split at settled
          · cases settled
            exact .inr ⟨⟨_, rfl⟩, keeps.stopped enough answered holds⟩
          · rename_i noFailure
            cases settled
            have empty : failures = [] := by
              apply List.eq_nil_iff_forall_not_mem.mpr
              intro failure member
              simpa using List.find?_eq_none.mp noFailure failure member
            subst empty
            exact .inl ⟨rfl, number + 1, keeps.next enough answered holds⟩
  | succ left ih =>
      have more : number < attempts := by omega
      unfold settle at settled
      split_ifs at settled with none
      · cases settled
        rw [List.isEmpty_iff.mp none] at holds
        exact .inl ⟨rfl, number, holds⟩
      · split at settled
        · rename_i answered
          cases settled
          exact .inr ⟨⟨_, rfl⟩, keeps.stopped more answered holds⟩
        · rename_i failures answered
          split at settled
          · cases settled
            exact .inr ⟨⟨_, rfl⟩, keeps.stopped more answered holds⟩
          · exact ih (by omega) settled (keeps.next more answered holds)

/-- The batches are settled one after another, or the service gives up at one. -/
theorem settleAll_keeps (keeps : service.Keeps attempts Inv Stopped) (some : 0 < attempts)
    {Between : ℕ → State → Prop} {items : List (List Item)}
    (enter : ∀ {n pending s}, items[n]? = .some pending → Between n s → Inv n 0 pending s)
    (leave : ∀ {n last s}, Inv n last [] s → Between (n + 1) s)
    (settled : service.settleAll attempts 0 items s = (s', result)) (holds : Between 0 s) :
    (result = .ok () ∧ Between items.length s') ∨ ((∃ e, result = .error e) ∧ Stopped s') := by
  have from_ : ∀ (rest : List (List Item)) (n : ℕ) (s : State), items.drop n = rest → n ≤ items.length →
      service.settleAll attempts n rest s = (s', result) → Between n s →
      (result = .ok () ∧ Between items.length s') ∨ ((∃ e, result = .error e) ∧ Stopped s') := by
    intro rest
    induction rest with
    | nil =>
        intro n s here bound settled holds
        cases settled
        rw [← length_of_drop_eq_nil here bound]
        exact .inl ⟨rfl, holds⟩
    | cons pending rest ih =>
        intro n s here bound settled holds
        obtain ⟨first, later, inside⟩ := drop_eq_cons here
        unfold settleAll at settled
        split at settled
        · rename_i refused
          cases settled
          rcases settle_keeps keeps (by omega) refused (enter first holds) with ⟨ok, _⟩ | stopped
          · cases ok
          · exact .inr stopped
        · rename_i done
          rcases settle_keeps keeps (by omega) done (enter first holds) with ⟨_, last, inv⟩ | ⟨⟨_, failed⟩, _⟩
          · exact ih (n + 1) _ later inside settled (leave inv)
          · cases failed
  exact from_ items 0 s rfl (Nat.zero_le _) settled holds

/-- What attempts at some of the items keep, where what is left of them was among what they
sent, is kept until the batches of the items are settled or the service gives up. -/
theorem settleAll_within {size : ℕ} (sized : 0 < size) (some : 0 < attempts) {items : List Item} {Kept : State → Prop}
    (attempted : ∀ {batch number pending s s' result}, service.attempt batch number pending s = (s', result) →
      pending ⊆ items → Kept s → Kept s' ∧ ∀ failures, result = .ok failures → failures.map service.item ⊆ pending)
    (settled : service.settleAll attempts 0 (batches size items) s = (s', result)) (kept : Kept s) : Kept s' := by
  have keeps : service.Keeps attempts (fun _ _ pending s => pending ⊆ items ∧ Kept s) Kept := by
    constructor
    · intro batch number pending s s' failures _ made inv
      obtain ⟨kept, left⟩ := attempted made inv.1 inv.2
      exact ⟨List.Subset.trans (left failures rfl) inv.1, kept⟩
    · intro batch number pending s s' result _ made inv
      exact (attempted made inv.1 inv.2).1
  have enter : ∀ {n : ℕ} {pending : List Item} {s : State},
      (batches size items)[n]? = .some pending → Kept s → pending ⊆ items ∧ Kept s := by
    intro n pending s own kept
    refine ⟨?_, kept⟩
    have part := (List.sublist_flatten_of_mem (List.mem_of_getElem? own)).subset
    rwa [batches_flatten sized] at part
  have ended := @settleAll_keeps _ _ _ _ _ _ _ _ _ _ _ keeps some (fun _ s => Kept s) _ enter
    (fun {_ _ _} inv => inv.2) settled kept
  rcases ended with ⟨_, kept⟩ | ⟨_, kept⟩
  · exact kept
  · exact kept

end Service

/-- A request for items of a batch, with its answer. -/
structure Call (Item Answer : Type) where
  batch : ℕ
  attempt : ℕ
  request : List Item
  answer : Answer

section Calls

variable {Answer : Type} (settles : Call Item Answer → Item → Prop) (size attempts : ℕ) (items : List Item)

def Settled (calls : List (Call Item Answer)) (item : Item) : Prop := ∃ call ∈ calls, settles call item

/-- The requests keep to the limits of the service, and to the order of the batches: none
is sent before every item of the batches before its own is settled. -/
structure Sent (calls : List (Call Item Answer)) : Prop where
  small : ∀ call ∈ calls, call.request.length ≤ size
  own : ∀ call ∈ calls, ∃ batch, (batches size items)[call.batch]? = some batch ∧ call.request ⊆ batch
  attempts : ∀ batch, (calls.filter (·.batch = batch)).length ≤ attempts
  inOrder : ∀ {before call after}, calls = before ++ call :: after → ∀ n < call.batch, ∀ batch ∈ (batches size items)[n]?,
    ∀ item ∈ batch, Settled settles before item

/-- The requests before an attempt at a batch. -/
structure Log (batch number : ℕ) (calls : List (Call Item Answer)) : Prop where
  earlierCalls : ∀ call ∈ calls, call.batch < batch ∨ call.batch = batch ∧ call.attempt < number
  increasing : calls.Pairwise fun a b => a.batch < b.batch ∨ a.batch = b.batch ∧ a.attempt < b.attempt
  inTime : ∀ call ∈ calls, call.attempt < attempts
  small : ∀ call ∈ calls, call.request.length ≤ size
  own : ∀ call ∈ calls, ∃ batch, (batches size items)[call.batch]? = some batch ∧ call.request ⊆ batch
  inOrder : ∀ {before call after}, calls = before ++ call :: after → ∀ n < call.batch, ∀ batch ∈ (batches size items)[n]?,
    ∀ item ∈ batch, Settled settles before item
  earlier : ∀ n < batch, ∀ batch ∈ (batches size items)[n]?, ∀ item ∈ batch, Settled settles calls item

/-- What is pending is left of the batch. -/
structure Sending (batch number : ℕ) (pending : List Item) (calls : List (Call Item Answer)) : Prop
    extends Log settles size attempts items batch number calls where
  current : ∀ own ∈ (batches size items)[batch]?, ∀ item ∈ own, item ∈ pending ∨ Settled settles calls item
  pendingOwn : ∃ own, (batches size items)[batch]? = some own ∧ pending ⊆ own
  pendingSmall : pending.length ≤ size

variable {settles size attempts items} {batch number : ℕ} {pending : List Item} {calls : List (Call Item Answer)}
  {call : Call Item Answer}

theorem Settled.append {item : Item} (settled : Settled settles calls item) (more : List (Call Item Answer)) :
    Settled settles (calls ++ more) item := by
  obtain ⟨call, member, here⟩ := settled
  exact ⟨call, List.mem_append_left _ member, here⟩

theorem Log.sent (log : Log settles size attempts items batch number calls) : Sent settles size attempts items calls where
  small := log.small
  own := log.own
  inOrder := log.inOrder
  attempts := by
    intro n
    have distinct : ((calls.filter (·.batch = n)).map (·.attempt)).Nodup := by
      rw [List.Nodup, List.pairwise_map]
      refine (log.increasing.filter _).imp_of_mem fun {a b} aMember bMember before => ?_
      have aHere : a.batch = n := by simpa using (List.mem_filter.mp aMember).2
      have bHere : b.batch = n := by simpa using (List.mem_filter.mp bMember).2
      omega
    have bounded : ((calls.filter (·.batch = n)).map (·.attempt)) ⊆ List.range attempts := by
      intro attempt member
      obtain ⟨call, inBatch, rfl⟩ := List.mem_map.mp member
      exact List.mem_range.mpr (log.inTime call (List.mem_filter.mp inBatch).1)
    have few := (List.subperm_of_subset distinct bounded).length_le
    rwa [List.length_map, List.length_range] at few

theorem Log.enter (log : Log settles size attempts items batch 0 calls)
    (own : (batches size items)[batch]? = some pending) : Sending settles size attempts items batch 0 pending calls where
  toLog := log
  current := by
    intro other same item member
    rw [own] at same
    cases same
    exact .inl member
  pendingOwn := ⟨pending, own, List.Subset.refl _⟩
  pendingSmall := length_of_mem_batches (List.mem_of_getElem? own)

theorem Sending.leave (sending : Sending settles size attempts items batch number [] calls) :
    Log settles size attempts items (batch + 1) 0 calls where
  earlierCalls := by
    intro call member
    have before := sending.earlierCalls call member
    omega
  increasing := sending.increasing
  inTime := sending.inTime
  small := sending.small
  own := sending.own
  inOrder := sending.inOrder
  earlier := by
    intro n before own here item member
    by_cases same : n = batch
    · subst same
      rcases sending.current own here item member with none | settled
      · cases none
      · exact settled
    · exact sending.earlier n (by omega) own here item member

/-- A request for some of what is pending. -/
theorem Sending.log (sending : Sending settles size attempts items batch number pending calls)
    (inTime : number < attempts) (ownBatch : call.batch = batch) (ownAttempt : call.attempt = number)
    (request : call.request ⊆ pending) (small : call.request.length ≤ size) :
    Log settles size attempts items batch (number + 1) (calls ++ [call]) where
  earlierCalls := by
    intro other member
    rcases List.mem_append.mp member with earlier | this
    · have before := sending.earlierCalls other earlier
      omega
    · rw [List.mem_singleton.mp this]
      omega
  increasing := by
    rw [List.pairwise_append]
    refine ⟨sending.increasing, List.pairwise_singleton _ _, ?_⟩
    intro earlier member other this
    rw [List.mem_singleton.mp this, ownBatch, ownAttempt]
    exact sending.earlierCalls earlier member
  inTime := by
    intro other member
    rcases List.mem_append.mp member with earlier | this
    · exact sending.inTime other earlier
    · rwa [List.mem_singleton.mp this, ownAttempt]
  small := by
    intro other member
    rcases List.mem_append.mp member with earlier | this
    · exact sending.small other earlier
    · rwa [List.mem_singleton.mp this]
  own := by
    intro other member
    rcases List.mem_append.mp member with earlier | this
    · exact sending.own other earlier
    · obtain ⟨own, here, pendingOwn⟩ := sending.pendingOwn
      rw [List.mem_singleton.mp this, ownBatch]
      exact ⟨own, here, List.Subset.trans request pendingOwn⟩
  inOrder := by
    intro before other after split
    rcases List.append_eq_append_iff.mp split with ⟨middle, rfl, tail⟩ | ⟨middle, rfl, tail⟩
    · cases middle with
      | nil =>
          cases tail
          rw [List.append_nil, ownBatch]
          exact sending.earlier
      | cons head middle => simp at tail
    · cases middle with
      | nil =>
          cases tail
          rw [ownBatch]
          intro n bound own here item member
          have settled := sending.earlier n bound own here item member
          rwa [List.append_nil] at settled
      | cons head middle =>
          cases tail
          exact sending.inOrder rfl
  earlier := fun n bound own here item member => (sending.earlier n bound own here item member).append _

/-- What is still pending after it is what it did not settle. -/
theorem Sending.next (sending : Sending settles size attempts items batch number pending calls)
    (inTime : number < attempts) (ownBatch : call.batch = batch) (ownAttempt : call.attempt = number)
    (request : call.request ⊆ pending) (small : call.request.length ≤ size) {rest : List Item} (restOwn : rest ⊆ pending)
    (restSmall : rest.length ≤ size) (settled : ∀ item ∈ pending, item ∈ rest ∨ settles call item) :
    Sending settles size attempts items batch (number + 1) rest (calls ++ [call]) where
  toLog := sending.log inTime ownBatch ownAttempt request small
  current := by
    intro own here item member
    rcases sending.current own here item member with waiting | done
    · rcases settled item waiting with later | now
      · exact .inl later
      · exact .inr ⟨call, List.mem_append_right _ List.mem_cons_self, now⟩
    · exact .inr (done.append _)
  pendingOwn := by
    obtain ⟨own, here, pendingOwn⟩ := sending.pendingOwn
    exact ⟨own, here, List.Subset.trans restOwn pendingOwn⟩
  pendingSmall := restSmall

/-- An attempt that sends nothing. -/
theorem Sending.wait (sending : Sending settles size attempts items batch number pending calls) :
    Sending settles size attempts items batch (number + 1) pending calls where
  toLog := { sending.toLog with
    earlierCalls := by
      intro call member
      have before := sending.earlierCalls call member
      omega }
  current := sending.current
  pendingOwn := sending.pendingOwn
  pendingSmall := sending.pendingSmall

theorem Log.start : Log settles size attempts items 0 0 [] where
  earlierCalls := by simp
  increasing := .nil
  inTime := by simp
  small := by simp
  own := by simp
  inOrder := by simp
  earlier := by simp

end Calls

end DuckGlue.BatchedRequests
