import DuckGlue.Catalog.AlterPartitions

/-! # What the partition statements leave alone

Whatever Glue answers, and wherever a request fails, before or after it is done, a statement
changes no partition but those its actions are about.
-/

namespace DuckGlue

open StringUtil BatchedRequests FailingRuns GluePartitionFunctions

variable {Target Rest : Type}

/-- Only the partitions of the names differ, and the table where it is meant. -/
structure Within (names : List (List Text)) (tableToo : Prop) (held : HeldTable Target Rest)
    (s : GlueState Target Rest) : Prop where
  partitions : ∀ values ∉ names, s.held.partitions values = held.partitions values
  table : ¬ tableToo → s.held.table = held.table

namespace Within

variable {names : List (List Text)} {tableToo : Prop} {held held' : HeldTable Target Rest}
  {s : GlueState Target Rest} {moment : ℕ}

theorem start : Within names tableToo s.held s := ⟨fun _ _ => rfl, fun _ => rfl⟩

theorem wait (within : Within names tableToo held s) : Within names tableToo held ⟨s.held, moment⟩ :=
  ⟨within.partitions, within.table⟩

/-- A change to partitions of the names. -/
theorem step (within : Within names tableToo held s) (table : held'.table = s.held.table)
    (partitions : ∀ values ∉ names, held'.partitions values = s.held.partitions values) :
    Within names tableToo held ⟨held', moment⟩ where
  partitions values other := (partitions values other).trans (within.partitions values other)
  table kept := table.trans (within.table kept)

theorem create {descriptor : AwsStorageDescriptor Rest} {created : List GluePartitionInput}
    (within : Within names tableToo held s) (own : ∀ partition ∈ created, partition.values ∈ names) :
    Within names tableToo held ⟨s.held.create descriptor created, moment⟩ := by
  refine Within.step within rfl ?_
  intro values other
  have none : (created.find? fun partition => partition.values = values) = none := by
    rw [List.find?_eq_none]
    intro partition member same
    exact other (of_decide_eq_true same ▸ own partition member)
  simp only [HeldTable.create, none]

theorem erase {erased : List (List Text)} (within : Within names tableToo held s) (own : erased ⊆ names) :
    Within names tableToo held ⟨s.held.erase erased, moment⟩ := by
  refine Within.step within rfl ?_
  intro values other
  exact if_neg fun member => other (own member)

theorem replace {key : List Text} {input : AwsPartition Rest} (within : Within names tableToo held s)
    (own : key ∈ names) (new : input.values ∈ names) :
    Within names tableToo held ⟨s.held.replace [key] input, moment⟩ := by
  refine Within.step within rfl ?_
  intro values other
  have differs : values ≠ input.values := fun same => other (same ▸ new)
  have apart : values ∉ [key] := fun member => other (List.mem_singleton.mp member ▸ own)
  simp only [HeldTable.replace, if_neg differs, if_neg apart]

end Within

section Batches

variable {table : GlueTableInfo} {injected : Option InjectedPartitionFailure}
  {glue : ℕ → List GluePartitionInput → PartitionAnswer} {writable : Except Exception Unit} {fetched : Bool}
  {partitions : List GluePartitionInput} {databaseName tableName : Text}
  {gone : ℕ → List (List Text) → PartitionAnswer} {values : List (List Text)}

/-- Nothing but the items was sent. -/
def SentFrom {Item : Type} (items : List Item) (calls : List (Call Item PartitionAnswer)) : Prop :=
  ∀ call ∈ calls, call.request ⊆ items

theorem SentFrom.nil {Item : Type} {items : List Item} : SentFrom items [] := by
  intro call none
  cases none

theorem SentFrom.append {Item : Type} {items : List Item} {calls : List (Call Item PartitionAnswer)}
    {call : Call Item PartitionAnswer} (sent : SentFrom items calls) (own : call.request ⊆ items) :
    SentFrom items (calls ++ [call]) := by
  intro other member
  cases List.mem_append.mp member with
  | inl before => exact sent other before
  | inr last => exact List.mem_singleton.mp last ▸ own

/-- What a request has refused was sent. -/
theorem SentFrom.refusedBy {Item : Type} {items : List Item} {calls : List (Call Item PartitionAnswer)}
    {key : Item → List Text} (sent : SentFrom items calls) : refusedBy key calls ⊆ items := by
  intro item member
  obtain ⟨call, inCalls, here⟩ := List.mem_flatMap.mp member
  apply sent call inCalls
  cases answer : call.answer with
  | error failed => simpa [answer] using here
  | ok errors =>
      simp only [answer] at here
      exact List.mem_of_mem_filter here

theorem SentFrom.deletedBy {calls : List (Call (List Text) PartitionAnswer)} (sent : SentFrom values calls) :
    deletedBy calls ⊆ values := by
  intro item member
  obtain ⟨call, inCalls, here⟩ := List.mem_flatMap.mp member
  apply sent call inCalls
  cases answer : call.answer with
  | error failed => simp [answer] at here
  | ok errors =>
      simp only [answer] at here
      exact List.mem_of_mem_filter here

theorem SentFrom.createdBy {items : List GlueAPI.IndexedPartition}
    {calls : List (Call GlueAPI.IndexedPartition PartitionAnswer)} (sent : SentFrom items calls) :
    GlueAPI.createdBy calls ⊆ items.map (·.1) := by
  intro partition member
  obtain ⟨call, inCalls, here⟩ := List.mem_flatMap.mp member
  cases answer : call.answer with
  | error failed => simp [answer] at here
  | ok errors =>
      simp only [answer] at here
      obtain ⟨item, kept, rfl⟩ := List.mem_map.mp here
      exact List.mem_map_of_mem (sent call inCalls (List.mem_of_mem_filter kept))

theorem createAttempt_within {batch number : ℕ} {items pending : List GlueAPI.IndexedPartition}
    {s s' : GlueAPI.CreateState} {result : Except Exception (List (PartitionFailure GlueAPI.IndexedPartition))}
    (made : GlueAPI.createAttempt table injected glue batch number pending s = (s', result))
    (own : pending ⊆ items) (sent : SentFrom items s.calls) :
    SentFrom items s'.calls ∧ ∀ failures, result = .ok failures → failures.map (·.item) ⊆ pending := by
  rcases GlueAPI.createAttempt_cases made with ⟨rfl, failures, rfl, all⟩ | ⟨failing, call, requested⟩
  · refine ⟨sent, fun given same => ?_⟩
    cases same
    rw [all]
    exact List.Subset.refl _
  · constructor
    · rw [requested.calls]
      exact sent.append (List.Subset.trans requested.subset own)
    · intro failures ok
      obtain ⟨errors, judged, _, matched, _, items⟩ := requested.answered failures ok
      rw [items]
      intro item member
      rcases List.mem_append.mp member with made | named
      · exact requested.split.subset (List.mem_append_right _ made)
      · obtain ⟨entry, inJudged, rfl⟩ := List.mem_map.mp named
        obtain ⟨error, _, here⟩ := Fallible.mem_of_mapM matched (List.mem_filter.mp inJudged).1
        exact requested.subset (GlueAPI.createError_ok here).1

/-- Only what is to be created is sent. -/
theorem createPartitions_within {s : GlueAPI.CreateState} {result : Except Exception (List GluePartitionInput)}
    (ran : GlueAPI.batchCreatePartitions table injected glue writable fetched partitions = (s, result)) :
    SentFrom partitions.zipIdx s.calls := by
  have start : SentFrom partitions.zipIdx ({} : GlueAPI.CreateState).calls := .nil
  have within : ∀ s' ended, (GlueAPI.createService table injected glue).settleAll 4 0 (batches 100 partitions.zipIdx) {} =
      (s', ended) → SentFrom partitions.zipIdx s'.calls := by
    intro s' ended settled
    exact @Service.settleAll_within _ _ _ _ _ _ _ _ _ 100 (by decide) (by decide) _
      (fun s => SentFrom partitions.zipIdx s.calls) createAttempt_within settled start
  unfold GlueAPI.batchCreatePartitions at ran
  split at ran
  · cases ran
    exact start
  · split_ifs at ran
    · cases ran
      exact start
    · cases ran
      exact start
    · split at ran
      · rename_i s' thrown settled
        cases ran
        exact within _ _ settled
      · rename_i s' settled
        cases ran
        exact within _ _ settled

theorem deleteAttempt_within {batch number : ℕ} {items pending : List (List Text)}
    {calls calls' : List (Call (List Text) PartitionAnswer)}
    {result : Except Exception (List (PartitionFailure (List Text)))}
    (askedFor : ∀ n request errors, gone n request = .ok errors → ∀ error ∈ errors, error.values ∈ request)
    (made : GlueAPI.deleteAttempt gone batch number pending calls = (calls', result))
    (own : pending ⊆ items) (sent : SentFrom items calls) :
    SentFrom items calls' ∧ ∀ failures, result = .ok failures → failures.map (·.item) ⊆ pending := by
  constructor
  · rw [GlueAPI.deleteAttempt_calls made]
    exact sent.append own
  · intro failures ok
    unfold GlueAPI.deleteAttempt at made
    dsimp only at made
    split at made
    · cases made
      cases ok
    · rename_i errors answered
      cases made
      cases ok
      intro item member
      obtain ⟨failure, inFailures, rfl⟩ := List.mem_map.mp member
      obtain ⟨error, inErrors, rfl⟩ := List.mem_map.mp inFailures
      exact askedFor _ _ _ answered error (List.mem_filter.mp inErrors).1

/-- Only what is to be deleted is sent, where errors are about what was sent. -/
theorem deletePartitions_within {calls : List (Call (List Text) PartitionAnswer)} {result : Except Exception Unit}
    (askedFor : ∀ n request errors, gone n request = .ok errors → ∀ error ∈ errors, error.values ∈ request)
    (ran : GlueAPI.batchDeletePartitions databaseName tableName gone writable values = (calls, result)) :
    SentFrom values calls := by
  unfold GlueAPI.batchDeletePartitions at ran
  split at ran
  · cases ran
    exact .nil
  · exact Service.settleAll_within (by decide) (by decide) (deleteAttempt_within askedFor) ran .nil

end Batches

section Runs

variable {server : GlueServer Target Rest} {access : GlueAccess} {schemaName tableName : Text}
  {target : GluePartitionTarget Target Rest} {names values : List (List Text)} {tableToo : Prop}
  {held : HeldTable Target Rest} {key : List Text} {details : GluePartitionDetails Rest}

theorem ask_within {α : Type} {answer : ℕ → HeldTable Target Rest → Except AwsError α} :
    Ensures (Within names tableToo held) (GlueRun.ask answer)
      (fun result s => Within names tableToo held s ∧ ∃ moment held, answer moment held = result)
      (Within names tableToo held) := by
  intro s within
  exact ⟨within.wait, s.moment, s.held, rfl⟩

/-- A request is done, refused, or done without an answer that says so. -/
theorem request_within {α : Type} {answer : ℕ → HeldTable Target Rest → Except AwsError α}
    {anyway : ℕ → HeldTable Target Rest → Option α} {after : HeldTable Target Rest → α → HeldTable Target Rest}
    (kept : ∀ s a, Within names tableToo held s → Within names tableToo held ⟨after s.held a, s.moment + 1⟩) :
    Ensures (Within names tableToo held) (GlueRun.request answer anyway after)
      (fun _ => Within names tableToo held) (Within names tableToo held) := by
  intro s within
  cases answered : answer s.moment s.held with
  | ok a =>
      rw [request_ok answered]
      exact kept s a within
  | error error =>
      cases done : anyway s.moment s.held with
      | none =>
          rw [request_refused answered done]
          exact within.wait
      | some a =>
          simp only [GlueRun.request, answered, done]
          exact kept s a within

theorem checked_within {check : Except Exception Unit} :
    Ensures (Within names tableToo held) (GlueRun.checked check) (fun _ => Within names tableToo held)
      (Within names tableToo held) := by
  intro s within
  cases check with
  | ok a => exact within
  | error refused => exact within

theorem getTable_within : Ensures (Within names tableToo held) (GlueRun.getTable server schemaName tableName)
    (fun _ => Within names tableToo held) (Within names tableToo held) := by
  unfold GlueRun.getTable
  apply ask_within.bind
  intro result
  cases result with
  | ok table => exact .pure fun _ within => within.1
  | error error =>
      dsimp only
      split_ifs
      · exact .pure fun _ within => within.1
      · exact .throw fun _ within => within.1

/-- A partition that is fetched is the one asked for. -/
theorem getPartition_within : Ensures (Within names tableToo held) (GlueRun.getPartition server schemaName tableName key)
    (fun result s => Within names tableToo held s ∧
      ∀ details, result = some details → details.values = key ∧ details.fetched.values = key)
    (Within names tableToo held) := by
  unfold GlueRun.getPartition
  apply ask_within.bind
  intro result
  cases result with
  | ok partition =>
      apply Ensures.pure
      intro s both
      refine ⟨both.1, fun details same => ?_⟩
      cases same
      obtain ⟨moment, held', answered⟩ := both.2
      have own := server.partitionAskedFor answered
      exact ⟨own, own⟩
  | error error =>
      dsimp only
      split_ifs
      · exact .pure fun _ both => ⟨both.1, fun details same => by cases same⟩
      · exact .throw fun _ both => both.1

theorem fetchPartition_within : Ensures (Within names tableToo held) (fetchPartition server target key)
    (fun details s => Within names tableToo held s ∧ details.values = key ∧ details.fetched.values = key)
    (Within names tableToo held) := by
  unfold fetchPartition
  apply getPartition_within.bind
  intro result
  cases result with
  | some details => exact .pure fun _ both => ⟨both.1, both.2 details rfl⟩
  | none => exact .throw fun _ both => both.1

theorem updatePartition_within {input : AwsPartition Rest} {shown : Text} (own : details.values ∈ names)
    (new : input.values ∈ names) :
    Ensures (Within names tableToo held) (GlueRun.updatePartition server access schemaName tableName details input shown)
      (fun _ => Within names tableToo held) (Within names tableToo held) := by
  unfold GlueRun.updatePartition
  apply checked_within.bind
  intro _
  apply (request_within fun s _ within => within.replace own new).bind
  intro result
  cases result with
  | ok _ => exact .pure fun _ within => within
  | error error => exact .throw fun _ within => within

theorem setPartitionLocation_within {location : Text} (own : details.values ∈ names)
    (new : details.fetched.values ∈ names) :
    Ensures (Within names tableToo held)
      (GlueRun.setPartitionLocation server access schemaName tableName details location)
      (fun _ => Within names tableToo held) (Within names tableToo held) :=
  updatePartition_within own new

theorem renamePartition_within {newValues : List Text} (own : details.values ∈ names) (new : newValues ∈ names) :
    Ensures (Within names tableToo held) (GlueRun.renamePartition server access schemaName tableName details newValues)
      (fun _ => Within names tableToo held) (Within names tableToo held) := by
  unfold GlueRun.renamePartition
  apply (updatePartition_within own new).bind
  intro _
  exact .pure fun _ within => within

theorem setTableLocation_within {bound : AwsTable Target Rest} {location : Text} (meant : tableToo) :
    Ensures (Within names tableToo held) (GlueRun.setTableLocation server access schemaName tableName bound location)
      (fun _ => Within names tableToo held) (Within names tableToo held) := by
  unfold GlueRun.setTableLocation
  apply checked_within.bind
  intro _
  refine Ensures.bind (request_within fun s given within => ?_) fun result => ?_
  · exact ⟨within.partitions, fun kept => absurd meant kept⟩
  · cases result with
    | ok _ => exact .pure fun _ within => within
    | error error =>
        dsimp only
        split_ifs
        · exact .throw fun _ within => within
        · exact .throw fun _ within => within

theorem createPartition_within {table : AwsTable Target Rest} {partition : GluePartitionInput} {ifNotExists : Bool}
    (own : partition.values ∈ names) :
    Ensures (Within names tableToo held)
      (GlueRun.createPartition server access schemaName tableName table partition ifNotExists)
      (fun _ => Within names tableToo held) (Within names tableToo held) := by
  unfold GlueRun.createPartition
  apply checked_within.bind
  intro _
  refine Ensures.bind (request_within fun s _ within => within.create fun created member => ?_) fun result => ?_
  · rw [List.mem_singleton.mp member]
    exact own
  · cases result with
    | ok _ => exact .pure fun _ within => within
    | error error =>
        dsimp only
        split_ifs
        · exact .pure fun _ within => within
        · exact .throw fun _ within => within
        · exact .throw fun _ within => within

theorem deletePartition_within (own : key ∈ names) :
    Ensures (Within names tableToo held) (GlueRun.deletePartition server access schemaName tableName key)
      (fun _ => Within names tableToo held) (Within names tableToo held) := by
  unfold GlueRun.deletePartition
  apply checked_within.bind
  intro _
  refine Ensures.bind (request_within fun s _ within => within.erase fun item member => ?_) fun result => ?_
  · rw [List.mem_singleton.mp member]
    exact own
  · cases result with
    | ok _ => exact .pure fun _ within => within
    | error error =>
        dsimp only
        split_ifs
        · exact .pure fun _ within => within
        · exact .throw fun _ within => within

theorem existing_within : Ensures (Within names tableToo held)
    (GlueRun.existingPartitions server schemaName tableName values) (fun _ => Within names tableToo held)
    (Within names tableToo held) := by
  intro s within
  unfold GlueRun.existingPartitions
  cases GlueAPI.partitionLocations schemaName tableName (server.batchGetPartition s.moment s.held)
      (4 * values.length + 1) values with
  | none => exact within.wait
  | some outcome =>
      obtain ⟨calls, result⟩ := outcome
      cases result with
      | ok existing => exact within.wait
      | error failed => exact within.wait

theorem batchCreate_within {table : AwsTable Target Rest} {partitions : List GluePartitionInput}
    (own : partitions.map (·.values) ⊆ names) :
    Ensures (Within names tableToo held) (GlueRun.batchCreatePartitions server access schemaName table partitions)
      (fun _ => Within names tableToo held) (Within names tableToo held) := by
  intro s within
  unfold GlueRun.batchCreatePartitions
  cases ran : GlueAPI.batchCreatePartitions (toTableInfo table schemaName) access.injected
      (server.batchCreatePartition s.moment s.held) (checkWritable access "BatchCreatePartition") true partitions with
  | mk sent result =>
      have sentFrom := createPartitions_within ran
      have items : partitions.zipIdx.map (·.1) = partitions := List.zipIdx_map_fst 0 partitions
      have created : GlueAPI.createdBy sent.calls ⊆ partitions := items ▸ sentFrom.createdBy
      have refused : (refusedBy (·.1.values) sent.calls).map (·.1) ⊆ partitions := by
        intro partition member
        rw [← items]
        exact List.map_subset _ sentFrom.refusedBy member
      -- what was created, and what was although its answer was an error
      have after : Within names tableToo held ⟨s.held.create table.storageDescriptor (GlueAPI.createdBy sent.calls ++
          ((refusedBy (·.1.values) sent.calls).map (·.1)).filter fun partition =>
            server.changedAnyway s.moment s.held partition.values), s.moment + 1⟩ := by
        apply within.create
        intro partition member
        apply own
        apply List.mem_map_of_mem
        cases List.mem_append.mp member with
        | inl made => exact created made
        | inr anyway => exact refused (List.mem_of_mem_filter anyway)
      cases result with
      | ok existing => exact after
      | error failed => exact after

theorem batchDelete_within (own : values ⊆ names) :
    Ensures (Within names tableToo held) (GlueRun.batchDeletePartitions server access schemaName tableName values)
      (fun _ => Within names tableToo held) (Within names tableToo held) := by
  intro s within
  unfold GlueRun.batchDeletePartitions
  cases ran : GlueAPI.batchDeletePartitions schemaName tableName (server.batchDeletePartition s.moment s.held)
      (checkWritable access "BatchDeletePartition") values with
  | mk calls result =>
      have sentFrom := deletePartitions_within (fun _ _ _ answered => server.errorsAskedFor answered) ran
      have after : Within names tableToo held ⟨s.held.erase (deletedBy calls ++
          (refusedBy id calls).filter (server.changedAnyway s.moment s.held)), s.moment + 1⟩ := by
        apply within.erase
        intro item member
        apply own
        cases List.mem_append.mp member with
        | inl gone => exact sentFrom.deletedBy gone
        | inr anyway => exact sentFrom.refusedBy (List.mem_of_mem_filter anyway)
      cases result with
      | ok done => exact after
      | error failed => exact after

end Runs

section Steps

variable {server : GlueServer Target Rest} {access : GlueAccess} {target : GluePartitionTarget Target Rest}
  {names existing : List (List Text)} {tableToo : Prop} {held : HeldTable Target Rest} {step : GlueAlterStep}
  {steps : List GlueAlterStep} {progress : AlterProgress}

/-- A partition an action rewrites is the one it is about. -/
def FetchedFor (step : GlueAlterStep) (checked : Option (GluePartitionDetails Rest)) : Prop :=
  ∀ details, checked = some details → details.values = step.values ∧ details.fetched.values = step.values

theorem fetchedFor_none : FetchedFor step (none : Option (GluePartitionDetails Rest)) := fun details same => by cases same

theorem checkStep_within : Ensures (Within names tableToo held) (checkStep server target existing step)
    (fun checked s => Within names tableToo held s ∧ FetchedFor step checked) (Within names tableToo held) := by
  cases step with
  | add values location ifNotExists =>
      simp only [checkStep]
      split_ifs
      · exact .throw fun _ within => within
      · exact .pure fun _ within => ⟨within, fetchedFor_none⟩
  | drop values ifExists =>
      simp only [checkStep]
      split_ifs
      · exact .throw fun _ within => within
      · exact .pure fun _ within => ⟨within, fetchedFor_none⟩
  | rename values newValues =>
      simp only [checkStep]
      apply fetchPartition_within.bind
      intro details
      split_ifs
      · exact .throw fun _ both => both.1
      · refine .pure fun _ both => ⟨both.1, fun other same => ?_⟩
        cases same
        exact both.2
  | setPartitionLocation values location ifExists =>
      simp only [checkStep]
      split_ifs
      · exact .pure fun _ within => ⟨within, fetchedFor_none⟩
      · apply fetchPartition_within.bind
        intro details
        refine .pure fun _ both => ⟨both.1, fun other same => ?_⟩
        cases same
        exact both.2
  | setTableLocation location => exact .pure fun _ within => ⟨within, fetchedFor_none⟩

/-- What is pending is about the names too. -/
structure PendingWithin (names : List (List Text)) (tableToo : Prop) (held : HeldTable Target Rest)
    (progress : AlterProgress) (s : GlueState Target Rest) : Prop where
  within : Within names tableToo held s
  adds : progress.pendingAdds.map (·.values) ⊆ names
  drops : progress.pendingDrops ⊆ names

theorem flushAdds_within : Ensures (PendingWithin names tableToo held progress) (flushAdds server access target progress)
    (PendingWithin names tableToo held) (Within names tableToo held) := by
  intro s pending
  unfold flushAdds
  split_ifs
  · exact pending
  · apply Ensures.bind (batchCreate_within pending.adds) _ s pending.within
    intro _
    exact .pure fun _ within => ⟨within, List.nil_subset _, pending.drops⟩

theorem flushDrops_within : Ensures (PendingWithin names tableToo held progress) (flushDrops server access target progress)
    (PendingWithin names tableToo held) (Within names tableToo held) := by
  intro s pending
  unfold flushDrops
  split_ifs
  · exact pending
  · apply Ensures.bind (batchDelete_within pending.drops) _ s pending.within
    intro _
    exact .pure fun _ within => ⟨within, pending.adds, List.nil_subset _⟩

theorem fetched_within {checked : Option (GluePartitionDetails Rest)} (fetched : FetchedFor step checked) :
    Ensures (Within names tableToo held) (fetchedFor server target step.values checked)
      (fun details s => Within names tableToo held s ∧ details.values = step.values ∧ details.fetched.values = step.values)
      (Within names tableToo held) := by
  cases checked with
  | some details => exact .pure fun _ within => ⟨within, fetched details rfl⟩
  | none => exact fetchPartition_within

theorem performStep_within {checked : Option (GluePartitionDetails Rest)} (fetched : FetchedFor step checked)
    (own : step.names ⊆ names) (table : ∀ location, step = .setTableLocation location → tableToo) :
    Ensures (PendingWithin names tableToo held progress) (performStep server access target progress checked step)
      (PendingWithin names tableToo held) (Within names tableToo held) := by
  intro s pending
  cases step with
  | add values location ifNotExists =>
      refine ⟨pending.within, ?_, pending.drops⟩
      rw [List.map_append]
      exact List.append_subset.mpr ⟨pending.adds, own⟩
  | drop values ifExists =>
      simp only [performStep]
      split_ifs
      · exact pending
      · exact ⟨pending.within, pending.adds, List.append_subset.mpr ⟨pending.drops, own⟩⟩
  | rename values newValues =>
      simp only [performStep]
      apply Ensures.bind (fetched_within fetched) _ s pending.within
      intro details s' both
      have there : details.values ∈ names := by
        rw [both.2.1]
        exact own List.mem_cons_self
      apply Ensures.bind (renamePartition_within there (own (List.mem_cons_of_mem _ List.mem_cons_self))) _ s' both.1
      intro _
      exact .pure fun _ within => ⟨within, pending.adds, pending.drops⟩
  | setPartitionLocation values location ifExists =>
      simp only [performStep]
      apply Ensures.bind (fetched_within fetched) _ s pending.within
      intro details s' both
      have there : values ∈ names := own List.mem_cons_self
      apply Ensures.bind (setPartitionLocation_within (both.2.1 ▸ there) (both.2.2 ▸ there)) _ s' both.1
      intro _
      exact .pure fun _ within => ⟨within, pending.adds, pending.drops⟩
  | setTableLocation location =>
      simp only [performStep]
      have bound : Ensures (Within names tableToo held) (tableToUpdate server target progress.tableUpdated)
          (fun _ => Within names tableToo held) (Within names tableToo held) := by
        unfold tableToUpdate
        split_ifs
        · exact .pure fun _ within => within
        · apply getTable_within.bind
          intro result
          cases result with
          | some table => exact .pure fun _ within => within
          | none => exact .throw fun _ within => within
      apply Ensures.bind bound _ s pending.within
      intro bound
      apply (setTableLocation_within (table location rfl)).bind
      intro _
      exact .pure fun _ within => ⟨within, pending.adds, pending.drops⟩

theorem applyStep_within {checked : Option (GluePartitionDetails Rest)} (fetched : FetchedFor step checked)
    (own : step.names ⊆ names) (table : ∀ location, step = .setTableLocation location → tableToo) :
    Ensures (PendingWithin names tableToo held progress) (applyStep server access target progress (step, checked))
      (PendingWithin names tableToo held) (Within names tableToo held) := by
  unfold applyStep
  have first : Ensures (PendingWithin names tableToo held progress) (flushAddsBefore server access target step progress)
      (PendingWithin names tableToo held) (Within names tableToo held) := by
    unfold flushAddsBefore
    split_ifs
    · exact .pure fun _ pending => pending
    · exact flushAdds_within
  apply first.bind
  intro progress₁
  have second : Ensures (PendingWithin names tableToo held progress₁) (flushDropsBefore server access target step progress₁)
      (PendingWithin names tableToo held) (Within names tableToo held) := by
    unfold flushDropsBefore
    split_ifs
    · exact .pure fun _ pending => pending
    · exact flushDrops_within
  apply second.bind
  intro progress₂
  apply (performStep_within fetched own table).bind
  intro progress₃
  exact .pure fun _ pending => ⟨pending.within, pending.adds, pending.drops⟩

theorem glueAlterTableApply_within (own : ∀ step ∈ steps, step.names ⊆ names)
    (table : ∀ location, .setTableLocation location ∈ steps → tableToo) :
    Ensures (Within names tableToo held) (glueAlterTableApply server access target steps)
      (fun _ => Within names tableToo held) (Within names tableToo held) := by
  unfold glueAlterTableApply
  apply existing_within.bind
  intro existing
  apply (Ensures.mapM fun step _ => checkStep_within).bind
  intro checked s both
  obtain ⟨within, fetched⟩ := both
  have loop : Ensures (PendingWithin names tableToo held {}) ((steps.zip checked).foldlM (applyStep server access target) {})
      (PendingWithin names tableToo held) (Within names tableToo held) := by
    apply Ensures.foldlM
    intro action member progress
    obtain ⟨step, details⟩ := action
    have inSteps := (List.of_mem_zip member).1
    have its : FetchedFor step details := (List.forall₂_iff_zip.mp fetched).2 member
    exact applyStep_within its (own step inSteps) fun location same => table location (same ▸ inSteps)
  apply Ensures.bind loop _ s ⟨within, List.nil_subset _, List.nil_subset _⟩
  intro progress
  apply flushAdds_within.bind
  intro progress'
  apply flushDrops_within.bind
  intro progress''
  exact .pure fun _ pending => pending.within

theorem singleStatement_within (own : step.names ⊆ names) (table : ∀ location, step = .setTableLocation location → tableToo) :
    Ensures (Within names tableToo held) (singleStatement server access target step)
      (fun _ => Within names tableToo held) (Within names tableToo held) := by
  cases step with
  | add values location ifNotExists =>
      unfold singleStatement glueAddPartitionScan
      have there : values ∈ names := own List.mem_cons_self
      refine Ensures.bind (Ensures.bind (createPartition_within there) fun _ => ?_) fun _ => .pure fun _ within => within
      exact .pure fun _ within => within
  | drop values ifExists =>
      unfold singleStatement glueDropPartitionScan
      refine Ensures.bind ((deletePartition_within (own List.mem_cons_self)).bind fun dropped => ?_) fun _ =>
        .pure fun _ within => within
      split_ifs
      · exact .throw fun _ within => within
      · exact .pure fun _ within => within
  | rename values newValues =>
      unfold singleStatement glueRenamePartitionScan
      refine Ensures.bind (fetchPartition_within.bind fun details => ?_) fun _ => .pure fun _ within => within
      have free : Ensures (Within names tableToo held) (throwIfPartitionExists server target newValues)
          (fun _ => Within names tableToo held) (Within names tableToo held) := by
        unfold throwIfPartitionExists
        apply getPartition_within.bind
        intro result
        cases result with
        | some _ => exact .throw fun _ both => both.1
        | none => exact .pure fun _ both => both.1
      intro s both
      apply Ensures.bind free _ s both.1
      intro _
      exact renamePartition_within (both.2.1 ▸ own List.mem_cons_self) (own (List.mem_cons_of_mem _ List.mem_cons_self))
  | setPartitionLocation values location ifExists =>
      unfold singleStatement glueSetPartitionLocationScan
      refine Ensures.bind (fetchPartition_within.bind fun details => ?_) fun _ => .pure fun _ within => within
      intro s both
      have there : values ∈ names := own List.mem_cons_self
      apply Ensures.bind (setPartitionLocation_within (both.2.1 ▸ there) (both.2.2 ▸ there)) _ s both.1
      exact fun _ => .pure fun _ within => within
  | setTableLocation location =>
      unfold singleStatement glueSetTableLocationScan
      refine Ensures.bind (Ensures.bind (setTableLocation_within (table location rfl)) fun _ => ?_) fun _ =>
        .pure fun _ within => within
      exact .pure fun _ within => within

/-- The partitions no action is about are as they were, and so is the table where none gives
it a location. -/
def LeavesOthers (steps : List GlueAlterStep) (s s' : GlueState Target Rest) : Prop :=
  (∀ values ∉ steps.flatMap GlueAlterStep.names, s'.held.partitions values = s.held.partitions values) ∧
    ((∀ location, .setTableLocation location ∉ steps) → s'.held.table = s.held.table)

theorem leavesOthers_final {α : Type} {run : GlueRun Target Rest α} {s : GlueState Target Rest}
    (kept : Ensures
      (Within (steps.flatMap GlueAlterStep.names) (∃ location, .setTableLocation location ∈ steps) s.held) run
      (fun _ => Within (steps.flatMap GlueAlterStep.names) (∃ location, .setTableLocation location ∈ steps) s.held)
      (Within (steps.flatMap GlueAlterStep.names) (∃ location, .setTableLocation location ∈ steps) s.held)) :
    LeavesOthers steps s (finalState (run s)) := by
  have within := kept.final .start
  refine ⟨within.partitions, fun none => within.table fun some => ?_⟩
  obtain ⟨location, member⟩ := some
  exact none location member

/-- Whatever Glue answers, also to what it has done, and however a statement ends, it changes
no partition but those its actions are about, and the table only to give it a location. -/
theorem partitionStatements_frame {s : GlueState Target Rest} :
    LeavesOthers steps s (finalState (glueAlterTableApply server access target steps s)) ∧
      LeavesOthers [step] s (finalState (singleStatement server access target step s)) := by
  constructor
  · apply leavesOthers_final
    apply glueAlterTableApply_within
    · exact fun step member values named => List.mem_flatMap.mpr ⟨step, member, named⟩
    · exact fun location member => ⟨location, member⟩
  · apply leavesOthers_final
    apply singleStatement_within
    · exact fun values named => List.mem_flatMap.mpr ⟨step, List.mem_singleton_self step, named⟩
    · exact fun location same => ⟨location, same ▸ List.mem_singleton_self step⟩

end Steps

end DuckGlue
