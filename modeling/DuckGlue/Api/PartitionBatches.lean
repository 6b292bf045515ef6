import DuckGlue.Core.GlueInfo
import DuckGlue.Lib.BatchedRequests
import DuckGlue.Lib.Fallible

/-! # Creating and deleting partitions in batches

Glue answers such a request with an error for each partition it refused. One that may
pass is sent again, the others end the statement, and a partition that is there already,
or is gone already, is accounted for by its error.
-/

namespace DuckGlue

open StringUtil Fallible BatchedRequests

/-- An error of one partition in a response. -/
structure PartitionError where
  values : List Text
  code : Text
  message : Text
  deriving Repr, DecidableEq

/-- The request failed, or single partitions of it. -/
abbrev PartitionAnswer := Except Exception (List PartitionError)

def isTransientPartitionError (code : Text) : Bool :=
  code = "ThrottlingException".toList || code = "InternalServiceException".toList ||
    code = "OperationTimeoutException".toList || code = "ConcurrentModificationException".toList

def partitionValuesToString (values : List Text) : Text := join values ", "

/-- A partition that is not there as it should be, with what is thrown of it. -/
structure PartitionFailure (Item : Type) where
  item : Item
  code : Text
  message : Text

/-- glue_debug_fail_partition_registration: the partition of an index and those after it
fail, at the first attempt only if the error is transient. -/
structure InjectedPartitionFailure where
  code : Text
  first : ℕ

def InjectedPartitionFailure.fails (injected : Option InjectedPartitionFailure) (index attempt : ℕ) : Bool :=
  injected.any fun injected => injected.first ≤ index && (attempt = 0 || !isTransientPartitionError injected.code)

namespace GlueAPI

/-- A partition of the list with its index. -/
abbrev IndexedPartition := GluePartitionInput × ℕ

structure CreateState where
  calls : List (Call IndexedPartition PartitionAnswer) := []
  alreadyExisting : List GluePartitionInput := []

section Create

variable (table : GlueTableInfo) (injected : Option InjectedPartitionFailure)
  (glue : ℕ → List GluePartitionInput → PartitionAnswer)

/-- The partition sent that an error is about. -/
def createError (sent : List IndexedPartition) (error : PartitionError) :
    Except Exception (IndexedPartition × PartitionError) :=
  match sent.find? fun item => item.1.values = error.values with
  | some item => .ok (item, error)
  | none => .error (.io ("Glue BatchCreatePartition '" ++ table.schemaName ++ "." ++ table.name ++
      "' failed for partition [" ++ partitionValuesToString error.values ++
      "], which is not among the partitions sent: " ++ error.message ++ " (" ++ error.code ++ ")"))

def isAlreadyExists (error : PartitionError) : Bool := error.code = "AlreadyExistsException".toList

/-- One request of `BatchCreatePartitions`; `glue` answers by the number of the request. -/
def createAttempt (batch attempt : ℕ) (pending : List IndexedPartition) (s : CreateState) :
    CreateState × Except Exception (List (PartitionFailure IndexedPartition)) :=
  let failing := pending.filter fun item => InjectedPartitionFailure.fails injected item.2 attempt
  let sent := pending.filter fun item => !InjectedPartitionFailure.fails injected item.2 attempt
  let injectedErrors := failing.map fun item => (⟨item, (injected.map (·.code)).getD [],
    "injected by glue_debug_fail_partition_registration"⟩ : PartitionFailure IndexedPartition)
  if sent.isEmpty then (s, .ok injectedErrors)
  else
    let answer := glue s.calls.length (sent.map (·.1))
    let s := { s with calls := s.calls ++ [⟨batch, attempt, sent, answer⟩] }
    match answer with
    | .error failed => (s, .error failed)
    | .ok errors =>
        match errors.mapM (createError table sent) with
        | .error unknown => (s, .error unknown)
        | .ok judged =>
            -- appending to an existing partition, or to one registered elsewhere: the caller tells
            ({ s with alreadyExisting := s.alreadyExisting ++
                (judged.filter fun entry => isAlreadyExists entry.2).map (·.1.1) },
              .ok (injectedErrors ++ (judged.filter fun entry => !isAlreadyExists entry.2).map fun entry =>
                ⟨entry.1, entry.2.code, entry.2.message⟩))

def createService : Service IndexedPartition (PartitionFailure IndexedPartition) CreateState Exception where
  attempt := createAttempt table injected glue
  transient failure := isTransientPartitionError failure.code
  item := (·.item)
  refuse failure := .io ("Glue BatchCreatePartition '" ++ table.schemaName ++ "." ++ table.name ++
    "' failed for partition [" ++ partitionValuesToString failure.item.1.values ++ "]: " ++ failure.code ++ ": " ++
    failure.message)

/-- `BatchCreatePartitions`, with the requests it made; `writable` is what `CheckWritable`
says, and a definition that was not fetched has no descriptor. -/
def batchCreatePartitions (writable : Except Exception Unit) (fetched : Bool) (partitions : List GluePartitionInput) :
    CreateState × Except Exception (List GluePartitionInput) :=
  match writable with
  | .error refused => ({}, .error refused)
  | .ok () =>
      if partitions.isEmpty then ({}, .ok [])
      else if !fetched then
        ({}, .error (.internal ("Table '" ++ table.schemaName ++ "." ++ table.name ++ "' was not fetched from Glue")))
      else
        match (createService table injected glue).settleAll 4 0 (batches 100 partitions.zipIdx) {} with
        | (s, .error thrown) => (s, .error thrown)
        | (s, .ok ()) => (s, .ok s.alreadyExisting)

end Create

/-- A partition whose request was answered without an error of it but this one. -/
def settlesUnless {Item : Type} (values : Item → List Text) (code : Text) (call : Call Item PartitionAnswer) (item : Item) :
    Prop :=
  item ∈ call.request ∧ ∃ errors, call.answer = .ok errors ∧
    ∀ error ∈ errors, error.values = values item → error.code = code

/-- What Glue created: everything sent that no error names. -/
def createdBy (calls : List (Call IndexedPartition PartitionAnswer)) : List GluePartitionInput :=
  calls.flatMap fun call =>
    match call.answer with
    | .error _ => []
    | .ok errors => (call.request.filter fun item => errors.all fun error => error.values ≠ item.1.values).map (·.1)

section Accounted

variable {table : GlueTableInfo} {sent : List IndexedPartition} {errors : List PartitionError}
  {judged : List (IndexedPartition × PartitionError)}

theorem createError_ok {error : PartitionError} {entry : IndexedPartition × PartitionError}
    (found : createError table sent error = .ok entry) :
    entry.1 ∈ sent ∧ entry.1.1.values = error.values ∧ entry.2 = error := by
  unfold createError at found
  split at found
  · rename_i item here
    cases found
    exact ⟨List.mem_of_find?_eq_some here, by simpa using List.find?_some here, rfl⟩
  · cases found

/-- The errors name the partitions sent that are not created. -/
theorem judged_perm (distinct : (sent.map (·.1.values)).Nodup) (once : (errors.map (·.values)).Nodup)
    (matched : errors.mapM (createError table sent) = .ok judged) :
    sent.Perm ((sent.filter fun item => errors.all fun error => error.values ≠ item.1.values) ++ judged.map (·.1)) := by
  have pairs := mapM_eq_ok.mp matched
  have values : judged.map (·.1.1.values) = errors.map (·.values) := by
    clear matched once
    induction pairs with
    | nil => rfl
    | cons here rest ih => rw [List.map_cons, List.map_cons, ih, (createError_ok here).2.1]
  have judgedDistinct : (judged.map (·.1)).Nodup := by
    apply List.Nodup.of_map (fun item : IndexedPartition => item.1.values)
    rw [List.map_map]
    exact values ▸ once
  have named : (sent.filter fun item => !errors.all fun error => error.values ≠ item.1.values).Perm (judged.map (·.1)) := by
    rw [List.perm_ext_iff_of_nodup ((List.Nodup.of_map _ distinct).filter _) judgedDistinct]
    intro item
    constructor
    · intro member
      obtain ⟨inSent, isNamed⟩ := List.mem_filter.mp member
      obtain ⟨error, inErrors, same⟩ : ∃ error ∈ errors, error.values = item.1.values := by simpa using isNamed
      obtain ⟨entry, inJudged, here⟩ := mem_mapM matched inErrors
      obtain ⟨entrySent, entryValues, _⟩ := createError_ok here
      have same : entry.1 = item := List.inj_on_of_nodup_map distinct entrySent inSent (entryValues.trans same)
      exact List.mem_map.mpr ⟨entry, inJudged, same⟩
    · intro member
      obtain ⟨entry, inJudged, rfl⟩ := List.mem_map.mp member
      obtain ⟨error, inErrors, here⟩ := mem_of_mapM matched inJudged
      obtain ⟨entrySent, entryValues, _⟩ := createError_ok here
      refine List.mem_filter.mpr ⟨entrySent, ?_⟩
      simpa using ⟨error, inErrors, entryValues.symm⟩
  exact (List.filter_append_perm _ sent).symm.trans (named.append_left _)

end Accounted

section Created

variable {table : GlueTableInfo} {injected : Option InjectedPartitionFailure}
  {glue : ℕ → List GluePartitionInput → PartitionAnswer} {batch attempt : ℕ} {pending : List IndexedPartition}
  {s s' : CreateState} {result : Except Exception (List (PartitionFailure IndexedPartition))}

/-- A request that was made, with what became of it. -/
structure Requested (table : GlueTableInfo) (glue : ℕ → List GluePartitionInput → PartitionAnswer) (batch attempt : ℕ)
    (pending failing : List IndexedPartition) (s s' : CreateState)
    (result : Except Exception (List (PartitionFailure IndexedPartition)))
    (call : Call IndexedPartition PartitionAnswer) : Prop where
  batch : call.batch = batch
  attempt : call.attempt = attempt
  split : (call.request ++ failing).Perm pending
  answer : call.answer = glue s.calls.length (call.request.map (·.1))
  calls : s'.calls = s.calls ++ [call]
  answered : ∀ failures, result = .ok failures → ∃ errors judged, call.answer = .ok errors ∧
    errors.mapM (createError table call.request) = .ok judged ∧
    s'.alreadyExisting = s.alreadyExisting ++ (judged.filter fun entry => isAlreadyExists entry.2).map (·.1.1) ∧
    failures.map (·.item) = failing ++ (judged.filter fun entry => !isAlreadyExists entry.2).map (·.1)

/-- An attempt makes one request, or none if every partition of it is made to fail. -/
theorem createAttempt_cases (made : createAttempt table injected glue batch attempt pending s = (s', result)) :
    (s' = s ∧ ∃ failures, result = .ok failures ∧ failures.map (·.item) = pending) ∨
      ∃ failing call, Requested table glue batch attempt pending failing s s' result call := by
  unfold createAttempt at made
  dsimp only at made
  generalize same : (fun item : IndexedPartition => InjectedPartitionFailure.fails injected item.2 attempt) = fails at made
  have rest : (fun item : IndexedPartition => !InjectedPartitionFailure.fails injected item.2 attempt) =
      fun item => !fails item := by
    rw [← same]
  rw [rest] at made
  have items : ∀ list : List IndexedPartition, (list.map fun item => (⟨item, (injected.map (·.code)).getD [],
      "injected by glue_debug_fail_partition_registration"⟩ : PartitionFailure IndexedPartition)).map (·.item) = list := by
    intro list
    rw [List.map_map]
    exact List.map_id list
  by_cases none : (pending.filter fun item => !fails item).isEmpty = true
  · rw [if_pos none] at made
    cases made
    have all : pending.filter fails = pending := by
      rw [List.filter_eq_self]
      intro item member
      simpa using List.filter_eq_nil_iff.mp (List.isEmpty_iff.mp none) item member
    refine .inl ⟨rfl, _, rfl, ?_⟩
    rw [items, all]
  · rw [if_neg none] at made
    right
    have split : ((pending.filter fun item => !fails item) ++ pending.filter fails).Perm pending :=
      List.perm_append_comm.trans (List.filter_append_perm fails pending)
    have requested : s'.calls = s.calls ++ [⟨batch, attempt, pending.filter fun item => !fails item,
        glue s.calls.length ((pending.filter fun item => !fails item).map (·.1))⟩] := by
      split at made
      · cases made
        rfl
      · split at made <;> cases made <;> rfl
    refine ⟨pending.filter fails, _, rfl, rfl, split, rfl, requested, ?_⟩
    intro failures ok
    split at made
    · cases made
      cases ok
    · rename_i errors answered
      split at made
      · cases made
        cases ok
      · rename_i judged matched
        cases made
        cases ok
        refine ⟨errors, judged, answered, matched, rfl, ?_⟩
        rw [List.map_append, items, List.map_map]
        rfl

namespace Requested

variable {failing : List IndexedPartition} {call : Call IndexedPartition PartitionAnswer}
  {failures : List (PartitionFailure IndexedPartition)}

theorem subset (requested : Requested table glue batch attempt pending failing s s' result call) :
    call.request ⊆ pending := by
  intro item member
  exact requested.split.subset (List.mem_append_left _ member)

theorem small (requested : Requested table glue batch attempt pending failing s s' result call) {size : ℕ}
    (bounded : pending.length ≤ size) : call.request.length ≤ size := by
  have length := requested.split.length_eq
  rw [List.length_append] at length
  omega

/-- What was pending is created, exists already, or is pending still. -/
theorem perm (requested : Requested table glue batch attempt pending failing s s' (.ok failures) call)
    (once : ∀ n request errors, glue n request = .ok errors → (errors.map (·.values)).Nodup)
    (distinct : (pending.map (·.1.values)).Nodup) : ∃ errors judged, call.answer = .ok errors ∧
      errors.mapM (createError table call.request) = .ok judged ∧ (errors.map (·.values)).Nodup ∧
      s'.alreadyExisting = s.alreadyExisting ++ (judged.filter fun entry => isAlreadyExists entry.2).map (·.1.1) ∧
      failures.map (·.item) = failing ++ (judged.filter fun entry => !isAlreadyExists entry.2).map (·.1) ∧
      pending.Perm ((call.request.filter fun item => errors.all fun error => error.values ≠ item.1.values) ++
        ((judged.filter fun entry => isAlreadyExists entry.2).map (·.1) ++ failures.map (·.item))) := by
  obtain ⟨errors, judged, answer, matched, existing, rest⟩ := requested.answered failures rfl
  have errorsOnce := once _ _ _ (requested.answer.symm.trans answer)
  have requestDistinct : (call.request.map (·.1.values)).Nodup := by
    have all := (requested.split.map (·.1.values)).nodup_iff.mpr distinct
    rw [List.map_append] at all
    exact all.of_append_left
  have judgedPerm := judged_perm requestDistinct errorsOnce matched
  have kinds := ((List.filter_append_perm (fun entry => isAlreadyExists entry.2) judged).map (·.1)).symm
  rw [List.map_append] at kinds
  refine ⟨errors, judged, answer, matched, errorsOnce, existing, rest, ?_⟩
  have all := requested.split.symm.trans ((judgedPerm.trans (kinds.append_left _)).append_right failing)
  rw [rest]
  rw [List.append_assoc, List.append_assoc] at all
  exact all.trans ((List.perm_append_comm.append_left _).append_left _)

/-- Each partition sent is created, exists already, or is pending still. -/
theorem settles (requested : Requested table glue batch attempt pending failing s s' (.ok failures) call)
    (once : ∀ n request errors, glue n request = .ok errors → (errors.map (·.values)).Nodup)
    (distinct : (pending.map (·.1.values)).Nodup) (item : IndexedPartition) (member : item ∈ pending) :
    item ∈ failures.map (·.item) ∨
      settlesUnless (fun item : IndexedPartition => item.1.values) "AlreadyExistsException" call item := by
  obtain ⟨errors, judged, answer, matched, errorsOnce, _, rest, perm⟩ := requested.perm once distinct
  have settled : item ∈ call.request → (∀ error ∈ errors, error.values = item.1.values → isAlreadyExists error = true) →
      settlesUnless (fun item : IndexedPartition => item.1.values) "AlreadyExistsException" call item := by
    intro inRequest exists_
    refine ⟨inRequest, errors, answer, fun error inErrors same => ?_⟩
    exact of_decide_eq_true (exists_ error inErrors same)
  rcases List.mem_append.mp (perm.subset member) with unnamed | named
  · obtain ⟨inRequest, none⟩ := List.mem_filter.mp unnamed
    right
    apply settled inRequest
    intro error inErrors same
    simp only [List.all_eq_true, decide_eq_true_eq] at none
    exact absurd same (none error inErrors)
  · rcases List.mem_append.mp named with existing | later
    · right
      obtain ⟨entry, inJudged, rfl⟩ := List.mem_map.mp existing
      obtain ⟨inJudged, isExisting⟩ := List.mem_filter.mp inJudged
      obtain ⟨error, inErrors, here⟩ := mem_of_mapM matched inJudged
      obtain ⟨inRequest, values, rfl⟩ := createError_ok here
      apply settled inRequest
      intro other inErrors' same
      rw [List.inj_on_of_nodup_map errorsOnce inErrors' inErrors (same.trans values)]
      exact isExisting
    · exact .inl later

end Requested

/-- Before an attempt every partition of the batches so far is created, exists already, or
is pending. -/
structure CreateInv (partitions : List GluePartitionInput) (batch attempt : ℕ) (pending : List IndexedPartition)
    (s : CreateState) : Prop where
  sending : Sending (settlesUnless (fun item : IndexedPartition => item.1.values) "AlreadyExistsException") 100 4
    partitions.zipIdx batch attempt pending s.calls
  accounted : ∀ own ∈ (batches 100 partitions.zipIdx)[batch]?,
    ((((batches 100 partitions.zipIdx).take batch).flatten ++ own).map (·.1)).Perm
      (createdBy s.calls ++ s.alreadyExisting ++ pending.map (·.1))
  distinct : (pending.map (·.1.values)).Nodup

variable {partitions : List GluePartitionInput}

theorem createdBy_append {call : Call IndexedPartition PartitionAnswer} {errors : List PartitionError}
    (calls : List (Call IndexedPartition PartitionAnswer)) (answer : call.answer = .ok errors) :
    createdBy (calls ++ [call]) = createdBy calls ++
      (call.request.filter fun item => errors.all fun error => error.values ≠ item.1.values).map (·.1) := by
  simp [createdBy, answer]

theorem batchPartitions_flatten : ((batches 100 partitions.zipIdx).flatten).map (·.1) = partitions := by
  rw [batches_flatten (by decide)]
  exact List.zipIdx_map_fst 0 partitions

/-- Before a batch every partition of the batches so far is created or exists already. -/
structure CreateBetween (partitions : List GluePartitionInput) (batch : ℕ) (s : CreateState) : Prop where
  log : Log (settlesUnless (fun item : IndexedPartition => item.1.values) "AlreadyExistsException") 100 4
    partitions.zipIdx batch 0 s.calls
  accounted : (((batches 100 partitions.zipIdx).take batch).flatten.map (·.1)).Perm
    (createdBy s.calls ++ s.alreadyExisting)

theorem CreateBetween.enter (between : CreateBetween partitions batch s) (distinct : (partitions.map (·.values)).Nodup)
    (own : (batches 100 partitions.zipIdx)[batch]? = some pending) : CreateInv partitions batch 0 pending s where
  sending := between.log.enter own
  accounted := by
    intro other same
    rw [own] at same
    cases same
    rw [List.map_append]
    exact between.accounted.append_right _
  distinct := by
    have part := ((List.sublist_flatten_of_mem (List.mem_of_getElem? own)).map (·.1)).map (·.values)
    rw [batchPartitions_flatten, List.map_map] at part
    exact distinct.sublist part

theorem CreateInv.leave (inv : CreateInv partitions batch attempt [] s) : CreateBetween partitions (batch + 1) s where
  log := inv.sending.leave
  accounted := by
    obtain ⟨own, here, _⟩ := inv.sending.pendingOwn
    have accounted := inv.accounted own here
    rw [List.map_nil, List.append_nil] at accounted
    rwa [List.take_add_one, here, Option.toList_some, List.flatten_append, List.flatten_singleton]

/-- What is returned is what was reported to exist. -/
theorem batchCreatePartitions_returned {writable : Except Exception Unit} {fetched : Bool}
    {existing : List GluePartitionInput}
    (run : batchCreatePartitions table injected glue writable fetched partitions = (s, .ok existing)) :
    existing = s.alreadyExisting := by
  unfold batchCreatePartitions at run
  split at run
  · cases run
  · split_ifs at run
    · cases run
      rfl
    · cases run
    · split at run
      · cases run
      · cases run
        rfl

/-- The partition is created or exists already; here a response may name it more than once. -/
def Covered (s : CreateState) (partition : GluePartitionInput) : Prop :=
  partition ∈ createdBy s.calls ∨ partition ∈ s.alreadyExisting

theorem createAttempt_covers (keyed : ∀ a ∈ pending, ∀ b ∈ pending, a.1.values = b.1.values → a = b)
    {failures : List (PartitionFailure IndexedPartition)}
    (made : createAttempt table injected glue batch attempt pending s = (s', .ok failures)) :
    failures.map (·.item) ⊆ pending ∧ (∀ partition, Covered s partition → Covered s' partition) ∧
      ∀ item ∈ pending, Covered s' item.1 ∨ item ∈ failures.map (·.item) := by
  rcases createAttempt_cases made with ⟨rfl, given, same, all⟩ | ⟨failing, call, requested⟩
  · cases same
    rw [all]
    exact ⟨List.Subset.refl _, fun _ covered => covered, fun _ member => .inr member⟩
  · obtain ⟨errors, judged, answer, matched, existing, items⟩ := requested.answered failures rfl
    have sent : ∀ entry ∈ judged, entry.1 ∈ call.request ∧ ∃ error ∈ errors,
        entry.1.1.values = error.values ∧ entry.2 = error := by
      intro entry member
      obtain ⟨error, inErrors, here⟩ := mem_of_mapM matched member
      obtain ⟨inRequest, values, same⟩ := createError_ok here
      exact ⟨inRequest, error, inErrors, values, same⟩
    have calls : createdBy s'.calls = createdBy s.calls ++
        (call.request.filter fun item => errors.all fun error => error.values ≠ item.1.values).map (·.1) := by
      rw [requested.calls, createdBy_append s.calls answer]
    refine ⟨?_, ?_, ?_⟩
    · rw [items]
      intro item member
      rcases List.mem_append.mp member with made | named
      · exact requested.split.subset (List.mem_append_right _ made)
      · obtain ⟨entry, inJudged, rfl⟩ := List.mem_map.mp named
        exact requested.subset (sent entry (List.mem_filter.mp inJudged).1).1
    · intro partition covered
      rcases covered with created | known
      · left
        rw [calls]
        exact List.mem_append_left _ created
      · right
        rw [existing]
        exact List.mem_append_left _ known
    · intro item member
      rcases List.mem_append.mp (requested.split.symm.subset member) with inRequest | made
      · by_cases named : ∃ error ∈ errors, error.values = item.1.values
        · obtain ⟨error, inErrors, values⟩ := named
          obtain ⟨entry, inJudged, here⟩ := mem_mapM matched inErrors
          obtain ⟨entrySent, entryValues, _⟩ := createError_ok here
          have own : entry.1 = item := keyed _ (requested.subset entrySent) _ member (entryValues.trans values)
          cases kind : isAlreadyExists entry.2 with
          | true =>
              left
              right
              rw [existing, ← own]
              apply List.mem_append_right
              exact List.mem_map.mpr ⟨entry, List.mem_filter.mpr ⟨inJudged, kind⟩, rfl⟩
          | false =>
              right
              rw [items, ← own]
              apply List.mem_append_right
              exact List.mem_map.mpr ⟨entry, List.mem_filter.mpr ⟨inJudged, by rw [kind]; rfl⟩, rfl⟩
        · left
          left
          rw [calls]
          apply List.mem_append_right
          refine List.mem_map.mpr ⟨item, List.mem_filter.mpr ⟨inRequest, ?_⟩, rfl⟩
          rw [List.all_eq_true]
          intro error inErrors
          apply decide_eq_true
          intro same
          exact named ⟨error, inErrors, same⟩
      · right
        rw [items]
        exact List.mem_append_left _ made

/-- Whatever the responses name, each partition is created or reported. -/
theorem batchCreatePartitions_covers {writable : Except Exception Unit} {fetched : Bool}
    {existing : List GluePartitionInput} (distinct : (partitions.map (·.values)).Nodup)
    (run : batchCreatePartitions table injected glue writable fetched partitions = (s, .ok existing)) :
    ∀ partition ∈ partitions, partition ∈ createdBy s.calls ∨ partition ∈ existing := by
  have indexed : (partitions.zipIdx.map (·.1.values)).Nodup := by
    have values := congrArg (List.map fun partition : GluePartitionInput => partition.values)
      (List.zipIdx_map_fst 0 partitions)
    rw [List.map_map] at values
    exact values.symm ▸ distinct
  have all : (batches 100 partitions.zipIdx).flatten = partitions.zipIdx := batches_flatten (by decide)
  have keeps : (createService table injected glue).Keeps 4
      (fun batch _ pending s => pending ⊆ partitions.zipIdx ∧
        ∀ item ∈ ((batches 100 partitions.zipIdx).take (batch + 1)).flatten, Covered s item.1 ∨ item ∈ pending)
      (fun _ => True) := by
    constructor
    · intro batch number pending s s' failures _ made inv
      have keyed : ∀ a ∈ pending, ∀ b ∈ pending, a.1.values = b.1.values → a = b :=
        fun a aMember b bMember same => List.inj_on_of_nodup_map indexed (inv.1 aMember) (inv.1 bMember) same
      obtain ⟨part, kept, covers⟩ := createAttempt_covers keyed made
      refine ⟨List.Subset.trans part inv.1, fun item member => ?_⟩
      rcases inv.2 item member with covered | waiting
      · exact .inl (kept _ covered)
      · exact covers item waiting
    · intros
      trivial
  unfold batchCreatePartitions at run
  split at run
  · cases run
  · split_ifs at run with none
    · cases run
      rw [List.isEmpty_iff.mp none]
      intro partition member
      cases member
    · cases run
    · split at run
      · cases run
      · rename_i s' settled
        cases run
        have enter : ∀ {n pending s}, (batches 100 partitions.zipIdx)[n]? = some pending →
            (∀ item ∈ ((batches 100 partitions.zipIdx).take n).flatten, Covered s item.1) →
            pending ⊆ partitions.zipIdx ∧
              ∀ item ∈ ((batches 100 partitions.zipIdx).take (n + 1)).flatten, Covered s item.1 ∨ item ∈ pending := by
          intro n pending s own covered
          constructor
          · rw [← all]
            exact (List.sublist_flatten_of_mem (List.mem_of_getElem? own)).subset
          · intro item member
            rw [List.take_add_one, own, List.flatten_append, List.mem_append] at member
            rcases member with earlier | here
            · exact .inl (covered item earlier)
            · exact .inr (by simpa using here)
        have leave : ∀ {n : ℕ} {s}, ([] ⊆ partitions.zipIdx ∧
            ∀ item ∈ ((batches 100 partitions.zipIdx).take (n + 1)).flatten, Covered s item.1 ∨ item ∈ []) →
            ∀ item ∈ ((batches 100 partitions.zipIdx).take (n + 1)).flatten, Covered s item.1 := by
          intro n s inv item member
          rcases inv.2 item member with covered | none
          · exact covered
          · cases none
        have ran := @Service.settleAll_keeps _ _ _ _ _ _ _ _ _ _ _ keeps (by decide)
          (fun n s => ∀ item ∈ ((batches 100 partitions.zipIdx).take n).flatten, Covered s item.1) _ enter
          (fun {_ _ _} inv => leave inv) settled (fun _ none => by cases none)
        rcases ran with ⟨_, covered⟩ | ⟨⟨_, thrown⟩, _⟩
        · rw [List.take_length, all] at covered
          intro partition member
          obtain ⟨index, inside, rfl⟩ := List.mem_iff_getElem.mp member
          exact covered (partitions[index], index) (List.mk_mem_zipIdx_iff_getElem?.mpr (List.getElem?_eq_getElem inside))
        · cases thrown

end Created

section Delete

variable (databaseName tableName : Text) (glue : ℕ → List (List Text) → PartitionAnswer)

/-- One request of `BatchDeletePartitions`; a partition that is gone is no failure. -/
def deleteAttempt (batch attempt : ℕ) (pending : List (List Text)) (calls : List (Call (List Text) PartitionAnswer)) :
    List (Call (List Text) PartitionAnswer) × Except Exception (List (PartitionFailure (List Text))) :=
  let answer := glue calls.length pending
  let calls := calls ++ [⟨batch, attempt, pending, answer⟩]
  match answer with
  | .error failed => (calls, .error failed)
  | .ok errors =>
      (calls, .ok ((errors.filter fun error => error.code ≠ "EntityNotFoundException".toList).map fun error =>
        ⟨error.values, error.code, error.message⟩))

def deleteService :
    Service (List Text) (PartitionFailure (List Text)) (List (Call (List Text) PartitionAnswer)) Exception where
  attempt := deleteAttempt glue
  transient failure := isTransientPartitionError failure.code
  item := (·.item)
  refuse failure := .io ("Glue BatchDeletePartition '" ++ databaseName ++ "." ++ tableName ++
    "' failed for partition [" ++ partitionValuesToString failure.item ++ "]: " ++ failure.code ++ ": " ++ failure.message)

/-- `BatchDeletePartitions`, with the requests it made. -/
def batchDeletePartitions (writable : Except Exception Unit) (partitions : List (List Text)) :
    List (Call (List Text) PartitionAnswer) × Except Exception Unit :=
  match writable with
  | .error refused => ([], .error refused)
  | .ok () => (deleteService databaseName tableName glue).settleAll 4 0 (batches 25 partitions) []

end Delete

section Deleted

variable {databaseName tableName : Text} {glue : ℕ → List (List Text) → PartitionAnswer} {batch attempt : ℕ}
  {partitions pending : List (List Text)} {calls calls' : List (Call (List Text) PartitionAnswer)}

theorem deleteAttempt_calls {result : Except Exception (List (PartitionFailure (List Text)))}
    (made : deleteAttempt glue batch attempt pending calls = (calls', result)) :
    calls' = calls ++ [⟨batch, attempt, pending, glue calls.length pending⟩] := by
  unfold deleteAttempt at made
  dsimp only at made
  split at made <;> cases made <;> rfl

end Deleted

end GlueAPI

end DuckGlue
