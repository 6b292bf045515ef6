import DuckGlue.Catalog.AlterPartitions

/-! # glue_alter_table applies all of its actions or none

Where the actions are about different partitions and Glue refuses only what is not so, a
statement does what its actions do one after another, and changes nothing when it throws.
-/

namespace DuckGlue

open StringUtil FailingRuns GluePartitionFunctions

variable {Target Rest : Type}

namespace GluePartitionFunctions

variable {server : GlueServer Target Rest} {access : GlueAccess} {target : GluePartitionTarget Target Rest}
  {held : HeldTable Target Rest} {s : GlueState Target Rest} {step : GlueAlterStep} {steps : List GlueAlterStep}
  {details : Option (GluePartitionDetails Rest)}

section Check

/-- What the check of an action has found. -/
def Checked (held : HeldTable Target Rest) (details : Option (GluePartitionDetails Rest)) : GlueAlterStep → Prop
  | .add values _ ifNotExists => ifNotExists = true ∨ ¬ held.registered values
  | .drop values ifExists => ifExists = true ∨ held.registered values
  | .rename values newValues => ¬ held.registered newValues ∧
      ∃ partition, held.partitions values = some partition ∧ details = some (toPartitionDetails partition)
  | .setPartitionLocation values _ ifExists =>
      if ifExists then details = none
      else ∃ partition, held.partitions values = some partition ∧ details = some (toPartitionDetails partition)
  | .setTableLocation _ => True

/-- A new location for a partition whose existence is not checked. -/
def Unchecked (step : GlueAlterStep) : Prop := ∃ values location, step = .setPartitionLocation values location true

theorem registered_iff {values : List Text} : held.registered values ↔ ∃ partition, held.partitions values = some partition :=
  Option.isSome_iff_exists

theorem unregistered_iff {values : List Text} : ¬ held.registered values ↔ held.partitions values = none := by
  rw [HeldTable.registered, Bool.not_eq_true, Option.isSome_eq_false_iff, Option.isNone_iff_eq_none]

variable (truthful : server.Truthful)

include truthful

theorem fetchPartition_found {values : List Text} {partition : AwsPartition Rest}
    (found : s.held.partitions values = some partition) :
    fetchPartition server target values s = .ok (toPartitionDetails partition) ⟨s.held, s.moment + 1⟩ := by
  unfold fetchPartition
  rw [bind_ok (getPartition_truthful truthful), found]
  rfl

theorem fetchPartition_missing {values : List Text} (missing : s.held.partitions values = none) :
    fetchPartition server target values s = .error (doesNotExist target values) ⟨s.held, s.moment + 1⟩ := by
  unfold fetchPartition
  rw [bind_ok (getPartition_truthful truthful), missing]
  rfl

/-- A check passes, or finds that the action can not be done. -/
theorem checkStep_truthful {looked existing : List (List Text)}
    (exist : ∀ item, item ∈ existing ↔ item ∈ looked ∧ s.held.registered item) (own : ∀ item ∈ step.lookup, item ∈ looked) :
    (∃ details moment, checkStep server target existing step s = .ok details ⟨s.held, moment⟩ ∧
        Checked s.held details step) ∨
      ∃ e moment, checkStep server target existing step s = .error e ⟨s.held, moment⟩ ∧
        step.effect s.held.contents = none := by
  cases step with
  | add values location ifNotExists =>
      cases ifNotExists with
      | true => exact .inl ⟨none, s.moment, rfl, .inl rfl⟩
      | false =>
          have there : values ∈ existing ↔ s.held.registered values := by
            rw [exist]
            exact and_iff_right (own values rfl)
          by_cases known : values ∈ existing
          · right
            refine ⟨alreadyExists target values, s.moment, ?_, ?_⟩
            · simp only [checkStep, known, Bool.not_false, decide_true, Bool.and_self, if_true]
              rfl
            · have registered : (s.held.contents.partitions values).isSome = true := there.mp known
              simp [GlueAlterStep.effect, registered]
          · left
            refine ⟨none, s.moment, ?_, .inr fun registered => known (there.mpr registered)⟩
            simp only [checkStep, known, Bool.not_false, decide_false, Bool.and_false, Bool.false_eq_true, if_false]
            rfl
  | drop values ifExists =>
      cases ifExists with
      | true => exact .inl ⟨none, s.moment, rfl, .inl rfl⟩
      | false =>
          have there : values ∈ existing ↔ s.held.registered values := by
            rw [exist]
            exact and_iff_right (own values rfl)
          by_cases known : values ∈ existing
          · left
            refine ⟨none, s.moment, ?_, .inr (there.mp known)⟩
            simp only [checkStep, known, not_true, Bool.not_false, decide_false, Bool.and_false, Bool.false_eq_true,
              if_false]
            rfl
          · right
            refine ⟨doesNotExist target values, s.moment, ?_, ?_⟩
            · simp only [checkStep, known, not_false_eq_true, Bool.not_false, decide_true, Bool.and_self, if_true]
              rfl
            · have missing : s.held.contents.partitions values = none :=
                unregistered_iff.mp fun registered => known (there.mpr registered)
              simp [GlueAlterStep.effect, missing]
  | rename values newValues =>
      have there : newValues ∈ existing ↔ s.held.registered newValues := by
        rw [exist]
        exact and_iff_right (own newValues rfl)
      cases found : s.held.partitions values with
      | none =>
          right
          refine ⟨_, _, bind_error (fetchPartition_missing truthful found), ?_⟩
          simp [GlueAlterStep.effect, HeldTable.contents, found]
      | some partition =>
          have fetched : fetchPartition server target values s =
              .ok (toPartitionDetails partition) ⟨s.held, s.moment + 1⟩ := fetchPartition_found truthful found
          by_cases known : newValues ∈ existing
          · right
            refine ⟨alreadyExists target newValues, s.moment + 1, ?_, ?_⟩
            · simp only [checkStep]
              rw [bind_ok fetched, if_pos known]
              rfl
            · obtain ⟨other, taken⟩ := registered_iff.mp (there.mp known)
              simp [GlueAlterStep.effect, HeldTable.contents, found, taken]
          · left
            refine ⟨some (toPartitionDetails partition), s.moment + 1, ?_,
              fun registered => known (there.mpr registered), partition, found, rfl⟩
            simp only [checkStep]
            rw [bind_ok fetched, if_neg known]
            rfl
  | setPartitionLocation values location ifExists =>
      cases ifExists with
      | true => exact .inl ⟨none, s.moment, rfl, rfl⟩
      | false =>
          cases found : s.held.partitions values with
          | none =>
              right
              refine ⟨_, _, bind_error (fetchPartition_missing truthful found), ?_⟩
              simp [GlueAlterStep.effect, HeldTable.contents, found]
          | some partition =>
              left
              exact ⟨_, _, bind_ok (fetchPartition_found truthful found), partition, found, rfl⟩
  | setTableLocation location => exact .inl ⟨none, s.moment, rfl, trivial⟩

/-- All checks pass, or one finds an action that can not be done. -/
theorem checkSteps_truthful {looked existing : List (List Text)}
    (exist : ∀ item, item ∈ existing ↔ item ∈ looked ∧ s.held.registered item)
    (own : ∀ step ∈ steps, ∀ item ∈ step.lookup, item ∈ looked) :
    (∃ checked moment, steps.mapM (checkStep server target existing) s = .ok checked ⟨s.held, moment⟩ ∧
        List.Forall₂ (fun step details => Checked s.held details step) steps checked) ∨
      ∃ e moment, steps.mapM (checkStep server target existing) s = .error e ⟨s.held, moment⟩ ∧
        ∃ step ∈ steps, step.effect s.held.contents = none := by
  induction steps generalizing s with
  | nil => exact .inl ⟨[], s.moment, rfl, .nil⟩
  | cons step steps ih =>
      obtain ⟨ownStep, ownSteps⟩ := List.forall_mem_cons.mp own
      rw [List.mapM_cons]
      rcases @checkStep_truthful _ _ server target s step truthful looked existing exist ownStep with
        ⟨details, moment, ran, passed⟩ | ⟨e, moment, threw, disabled⟩
      · rcases @ih ⟨s.held, moment⟩ exist ownSteps with ⟨checked, later, rest, all⟩ | ⟨e, later, threw, other, member, disabled⟩
        · left
          refine ⟨details :: checked, later, ?_, .cons passed all⟩
          rw [bind_ok ran, bind_ok rest]
          rfl
        · right
          refine ⟨e, later, ?_, other, List.mem_cons_of_mem _ member, disabled⟩
          rw [bind_ok ran, bind_error threw]
      · right
        exact ⟨e, moment, bind_error threw, step, List.mem_cons_self, disabled⟩

end Check

section Apply

/-- What is pending makes the difference between what Glue holds and what the actions so far
do: `named` are the partitions they are about. -/
structure Applied (target : GluePartitionTarget Target Rest) (named : List (List Text)) (progress : AlterProgress)
    (s : GlueState Target Rest) (t : PartitionedTable Target Rest) : Prop where
  contents : progress.pendingDrops.foldl PartitionedTable.erase
    (progress.pendingAdds.foldl PartitionedTable.add s.held.contents) = t
  either : progress.pendingAdds = [] ∨ progress.pendingDrops = []
  distinct : (progress.pendingAdds.map (·.values)).Nodup
  own : progress.pendingAdds.map (·.values) ⊆ named
  descriptor : ∀ location, { target.table.storageDescriptor with location := location } =
    { s.held.table.storageDescriptor with location := location }
  current : progress.tableUpdated = false → target.table = s.held.table

variable {named : List (List Text)} {progress : AlterProgress} {t t' : PartitionedTable Target Rest}

theorem Applied.start (bound : target.table = s.held.table) : Applied target [] {} s s.held.contents where
  contents := rfl
  either := .inl rfl
  distinct := List.nodup_nil
  own := List.nil_subset _
  descriptor location := by rw [bound]
  current _ := bound

theorem Applied.mono {more : List (List Text)} (applied : Applied target named progress s t) (part : named ⊆ more) :
    Applied target more progress s t :=
  { applied with own := List.Subset.trans applied.own part }

theorem Applied.report (applied : Applied target named progress s t) (rows : List EmittedRow) :
    Applied target named { progress with rows := rows } s t :=
  { applied with }

variable (truthful : server.Truthful) (writable : access.readOnly = false)

include truthful writable

theorem flushAdds_truthful (uninjected : access.injected = none) (applied : Applied target named progress s t) :
    ∃ s', flushAdds server access target progress s = .ok { progress with pendingAdds := [] } s' ∧
      Applied target named { progress with pendingAdds := [] } s' t := by
  unfold flushAdds
  cases pending : progress.pendingAdds with
  | nil =>
      refine ⟨s, ?_, ?_⟩
      · cases progress
        cases pending
        rfl
      · cases progress
        cases pending
        exact applied
  | cons add adds =>
      obtain ⟨existing, held, moment, ran, table, contents⟩ := @batchCreate_truthful _ _ server access target.schemaName s
        truthful writable target.table progress.pendingAdds uninjected applied.distinct applied.descriptor
      refine ⟨⟨held, moment⟩, ?_, ?_⟩
      · rw [← pending, if_neg (by simp [pending]), bind_ok ran]
        rfl
      · constructor
        · rw [← applied.contents, ← contents]
          rfl
        · exact .inl rfl
        · exact List.nodup_nil
        · exact List.nil_subset _
        · intro location
          rw [table]
          exact applied.descriptor location
        · intro fresh
          rw [table]
          exact applied.current fresh

theorem flushDrops_truthful (applied : Applied target named progress s t) :
    ∃ s', flushDrops server access target progress s = .ok { progress with pendingDrops := [] } s' ∧
      Applied target named { progress with pendingDrops := [] } s' t := by
  unfold flushDrops
  cases pending : progress.pendingDrops with
  | nil =>
      refine ⟨s, ?_, ?_⟩
      · cases progress
        cases pending
        rfl
      · cases progress
        cases pending
        exact applied
  | cons drop drops =>
      have noAdds : progress.pendingAdds = [] := by
        rcases applied.either with none | none
        · exact none
        · rw [pending] at none
          cases none
      obtain ⟨held, moment, ran, table, contents⟩ := @batchDelete_truthful _ _ server access target.schemaName
        target.table.name s truthful writable progress.pendingDrops
      refine ⟨⟨held, moment⟩, ?_, ?_⟩
      · rw [← pending, if_neg (by simp [pending]), bind_ok ran]
        rfl
      · constructor
        · rw [← applied.contents, noAdds]
          exact contents
        · exact .inr rfl
        · rw [noAdds]
          exact List.nodup_nil
        · exact applied.own
        · intro location
          rw [table]
          exact applied.descriptor location
        · intro fresh
          rw [table]
          exact applied.current fresh

omit writable in
theorem tableToUpdate_truthful (applied : Applied target named progress s t) :
    ∃ moment, tableToUpdate server target progress.tableUpdated s = .ok s.held.table ⟨s.held, moment⟩ := by
  unfold tableToUpdate
  cases updated : progress.tableUpdated with
  | false => exact ⟨s.moment, by rw [← applied.current updated]; rfl⟩
  | true => exact ⟨s.moment + 1, by rw [if_neg (by decide), bind_ok (getTable_truthful truthful)]; rfl⟩

omit truthful writable in
theorem Applied.idle (applied : Applied target named progress s t) (adds : progress.pendingAdds = [])
    (drops : progress.pendingDrops = []) : s.held.contents = t := by
  rw [← applied.contents, adds, drops]
  rfl

omit truthful writable in
/-- What is done to Glue while nothing is pending. -/
theorem Applied.moved {s' : GlueState Target Rest} {progress' : AlterProgress}
    (applied : Applied target named progress s t) (adds : progress'.pendingAdds = [])
    (drops : progress'.pendingDrops = []) (contents : s'.held.contents = t')
    (descriptor : ∀ location, { s'.held.table.storageDescriptor with location := location } =
      { s.held.table.storageDescriptor with location := location })
    (current : progress'.tableUpdated = false → target.table = s'.held.table) :
    Applied target named progress' s' t' where
  contents := by
    rw [adds, drops]
    exact contents
  either := .inl adds
  distinct := by
    rw [adds]
    exact List.nodup_nil
  own := by
    rw [adds]
    exact List.nil_subset _
  descriptor location := by rw [descriptor, applied.descriptor]
  current := current

omit truthful writable in
theorem replace_contents {partition input : AwsPartition Rest} {values : List Text}
    (found : held.partitions values = some partition) :
    (held.replace [(toPartitionDetails partition).values] input).contents = held.contents.replace values input := by
  have key : (toPartitionDetails partition).values = values := held.keyed found
  unfold HeldTable.contents HeldTable.replace PartitionedTable.replace
  simp only [key, List.mem_singleton]

/-- A location is given to a partition that is there. -/
theorem setPartitionLocation_truthful {values : List Text} {partition : AwsPartition Rest} {location : Text}
    (found : s.held.partitions values = some partition) :
    ∃ held moment, GlueRun.setPartitionLocation server access target.schemaName target.table.name
        (toPartitionDetails partition) location s = .ok () ⟨held, moment⟩ ∧ held.table = s.held.table ∧
      (GlueAlterStep.setPartitionLocation values location false).effect s.held.contents = some held.contents := by
  have key : partition.values = values := s.held.keyed found
  subst key
  refine ⟨_, _, updatePartition_truthful truthful writable ?_ (.inl rfl), rfl, ?_⟩
  · exact registered_iff.mpr ⟨partition, found⟩
  · rw [replace_contents found]
    have there : s.held.contents.partitions partition.values = some partition := found
    simp only [GlueAlterStep.effect, there]
    rfl

/-- A partition that is there gets values that are free. -/
theorem renamePartition_truthful {values newValues : List Text} {partition : AwsPartition Rest}
    (found : s.held.partitions values = some partition) (free : ¬ s.held.registered newValues) :
    ∃ held moment, GlueRun.renamePartition server access target.schemaName target.table.name
        (toPartitionDetails partition) newValues s = .ok partition.storageDescriptor.location ⟨held, moment⟩ ∧
      held.table = s.held.table ∧
      (GlueAlterStep.rename values newValues).effect s.held.contents = some held.contents := by
  have key : partition.values = values := s.held.keyed found
  subst key
  have there : s.held.registered (toPartitionDetails partition).values := registered_iff.mpr ⟨partition, found⟩
  refine ⟨_, _, bind_ok (updatePartition_truthful truthful writable there (.inr free)), rfl, ?_⟩
  rw [replace_contents found]
  have before : s.held.contents.partitions partition.values = some partition := found
  have after : s.held.contents.partitions newValues = none := unregistered_iff.mp free
  simp only [GlueAlterStep.effect, before, after]
  rfl

/-- An action is done, or it gives a location to a partition that is not there. -/
theorem performStep_truthful (applied : Applied target named progress s t) (checked : Checked held details step)
    (agrees : step.Agrees held.contents t) (adds : step.isAdd = true ∨ progress.pendingAdds = [])
    (drops : step.isDrop = true ∨ progress.pendingDrops = []) (fresh : step.names.Disjoint named) :
    (∃ progress' s' t', performStep server access target progress details step s = .ok progress' s' ∧
        step.effect t = some t' ∧ Applied target (named ++ step.names) progress' s' t' ∧
        progress'.rows = progress.rows) ∨
      ∃ e s', performStep server access target progress details step s = .error e s' ∧ step.effect t = none ∧
        Unchecked step := by
  have more := applied.mono (List.subset_append_left named step.names)
  cases step with
  | add values location ifNotExists =>
      left
      have noDrops := drops.resolve_left Bool.false_ne_true
      have same := agrees.1 values (List.mem_singleton_self values)
      refine ⟨_, s, t.add ⟨values, location⟩, rfl, ?_, ?_, rfl⟩
      · simp only [GlueAlterStep.effect, same]
        rcases checked with excused | missing
        · simp [excused]
        · simp [HeldTable.contents, unregistered_iff.mp missing]
      · constructor
        · rw [← applied.contents, noDrops, List.foldl_append]
          rfl
        · exact .inr noDrops
        · rw [List.map_append]
          apply applied.distinct.append (List.nodup_singleton _)
          intro value pending new
          exact fresh new (applied.own pending)
        · rw [List.map_append]
          exact List.append_subset.mpr ⟨more.own, List.subset_append_right _ _⟩
        · exact applied.descriptor
        · exact applied.current
  | drop values ifExists =>
      left
      have noAdds := adds.resolve_left Bool.false_ne_true
      have same := agrees.1 values (List.mem_singleton_self values)
      have enabled : (GlueAlterStep.drop values ifExists).effect t = some (t.erase values) := by
        simp only [GlueAlterStep.effect, same]
        rcases checked with excused | there
        · simp [excused]
        · obtain ⟨partition, found⟩ := registered_iff.mp there
          simp [HeldTable.contents, found]
      by_cases twice : values ∈ progress.pendingDrops
      · refine ⟨progress, s, t.erase values, ?_, enabled, ?_, rfl⟩
        · simp only [performStep, if_pos twice]
          rfl
        · refine { more with contents := ?_ }
          have contents := applied.contents
          rw [PartitionedTable.foldl_erase] at contents ⊢
          rw [← contents]
          unfold PartitionedTable.erase
          simp only [PartitionedTable.mk.injEq, true_and]
          funext other
          by_cases here : other = values
          · simp [here, twice]
          · simp [here]
      · refine ⟨{ progress with pendingDrops := progress.pendingDrops ++ [values] }, s, t.erase values, ?_, enabled, ?_, rfl⟩
        · simp only [performStep, if_neg twice]
          rfl
        · refine { more with contents := ?_, either := .inl noAdds }
          rw [← applied.contents, List.foldl_append]
          rfl
  | rename values newValues =>
      left
      have noAdds := adds.resolve_left Bool.false_ne_true
      have noDrops := drops.resolve_left Bool.false_ne_true
      have idle := applied.idle noAdds noDrops
      obtain ⟨missing, partition, found, rfl⟩ := checked
      have foundNow : s.held.partitions values = some partition := by
        rw [← found]
        have same := agrees.1 values List.mem_cons_self
        rw [← idle] at same
        exact same
      have freeNow : ¬ s.held.registered newValues := by
        have same := agrees.1 newValues (List.mem_cons_of_mem _ List.mem_cons_self)
        rw [← idle] at same
        rw [unregistered_iff] at missing ⊢
        rw [← missing]
        exact same
      obtain ⟨held', moment, ran, table, effect⟩ :=
        @renamePartition_truthful _ _ server access target s truthful writable values newValues partition foundNow freeNow
      refine ⟨progress, ⟨held', moment⟩, held'.contents, ?_, by rw [← idle]; exact effect, ?_, rfl⟩
      · simp only [performStep, fetchedFor]
        exact bind_ok ran
      · exact more.moved noAdds noDrops rfl (fun _ => by rw [table]) fun fresh => by rw [table]; exact applied.current fresh
  | setPartitionLocation values location ifExists =>
      have noAdds := adds.resolve_left Bool.false_ne_true
      have noDrops := drops.resolve_left Bool.false_ne_true
      have idle := applied.idle noAdds noDrops
      have same : s.held.partitions values = held.partitions values := by
        have same := agrees.1 values (List.mem_singleton_self values)
        rw [← idle] at same
        exact same
      cases found : s.held.partitions values with
      | none =>
          right
          have exempt : ifExists = true := by
            cases ifExists with
            | true => rfl
            | false =>
                obtain ⟨partition, there, _⟩ := checked
                rw [← same, found] at there
                cases there
          subst exempt
          cases checked
          refine ⟨doesNotExist target values, ⟨s.held, s.moment + 1⟩, ?_, ?_, values, location, rfl⟩
          · exact bind_error (fetchPartition_missing truthful found)
          · rw [← idle]
            simp [GlueAlterStep.effect, HeldTable.contents, found]
      | some partition =>
          left
          have fetched : ∃ moment, fetchedFor server target values details s =
              .ok (toPartitionDetails partition) ⟨s.held, moment⟩ := by
            cases ifExists with
            | true =>
                cases checked
                exact ⟨_, fetchPartition_found truthful found⟩
            | false =>
                obtain ⟨other, there, rfl⟩ := checked
                rw [← same, found] at there
                cases there
                exact ⟨s.moment, rfl⟩
          obtain ⟨moment, fetched⟩ := fetched
          obtain ⟨held', later, ran, table, effect⟩ := @setPartitionLocation_truthful _ _ server access target
            ⟨s.held, moment⟩ truthful writable values partition location found
          refine ⟨progress, ⟨held', later⟩, held'.contents, ?_, ?_, ?_, rfl⟩
          · simp only [performStep]
            rw [bind_ok fetched]
            exact bind_ok ran
          · rw [← idle]
            exact effect
          · exact more.moved noAdds noDrops rfl (fun _ => by rw [table]) fun fresh => by rw [table]; exact applied.current fresh
  | setTableLocation location =>
      left
      have noAdds := adds.resolve_left Bool.false_ne_true
      have noDrops := drops.resolve_left Bool.false_ne_true
      have idle := applied.idle noAdds noDrops
      obtain ⟨moment, fetched⟩ := tableToUpdate_truthful truthful applied
      obtain ⟨held', later, ran, contents, _⟩ := @setTableLocation_truthful _ _ server access target.schemaName
        target.table.name ⟨s.held, moment⟩ location truthful writable
      refine ⟨{ progress with tableUpdated := true }, ⟨held', later⟩, held'.contents, ?_, ?_, ?_, rfl⟩
      · simp only [performStep]
        rw [bind_ok fetched, bind_ok ran]
        rfl
      · rw [← idle, contents]
        rfl
      · refine Applied.moved more noAdds noDrops rfl ?_ ?_
        · intro other
          have definition := congrArg (fun table => table.definition.storageDescriptor) contents
          change held'.table.storageDescriptor = { s.held.table.storageDescriptor with location := location } at definition
          rw [definition]
        · intro fresh
          cases fresh

/-- One action of the loop, with what had to go out before it. -/
theorem applyStep_truthful (uninjected : access.injected = none) (applied : Applied target named progress s t)
    (checked : Checked held details step) (agrees : step.Agrees held.contents t) (fresh : step.names.Disjoint named) :
    (∃ progress' s' t', applyStep server access target progress (step, details) s = .ok progress' s' ∧
        step.effect t = some t' ∧ Applied target (named ++ step.names) progress' s' t' ∧
        progress'.rows = progress.rows ++ [step.emittedRow]) ∨
      ∃ e s', applyStep server access target progress (step, details) s = .error e s' ∧ step.effect t = none ∧
        Unchecked step := by
  have first : ∃ p₁ s₁, flushAddsBefore server access target step progress s = .ok p₁ s₁ ∧
      Applied target named p₁ s₁ t ∧ p₁.rows = progress.rows ∧ (step.isAdd = true ∨ p₁.pendingAdds = []) := by
    unfold flushAddsBefore
    cases step.isAdd with
    | true => exact ⟨progress, s, rfl, applied, rfl, .inl rfl⟩
    | false =>
        obtain ⟨s₁, ran, applied₁⟩ := flushAdds_truthful truthful writable uninjected applied
        exact ⟨_, s₁, ran, applied₁, rfl, .inr rfl⟩
  obtain ⟨p₁, s₁, ran₁, applied₁, rows₁, adds₁⟩ := first
  have second : ∃ p₂ s₂, flushDropsBefore server access target step p₁ s₁ = .ok p₂ s₂ ∧
      Applied target named p₂ s₂ t ∧ p₂.rows = p₁.rows ∧
      (step.isAdd = true ∨ p₂.pendingAdds = []) ∧ (step.isDrop = true ∨ p₂.pendingDrops = []) := by
    unfold flushDropsBefore
    cases step.isDrop with
    | true => exact ⟨p₁, s₁, rfl, applied₁, rfl, adds₁, .inl rfl⟩
    | false =>
        obtain ⟨s₂, ran, applied₂⟩ := flushDrops_truthful truthful writable applied₁
        exact ⟨_, s₂, ran, applied₂, rfl, adds₁, .inr rfl⟩
  obtain ⟨p₂, s₂, ran₂, applied₂, rows₂, adds₂, drops₂⟩ := second
  rcases performStep_truthful truthful writable applied₂ checked agrees adds₂ drops₂ fresh with
    ⟨p₃, s₃, t', ran₃, effect, applied₃, rows₃⟩ | ⟨e, s₃, threw, disabled, unchecked⟩
  · left
    refine ⟨{ p₃ with rows := p₃.rows ++ [step.emittedRow] }, s₃, t', ?_, effect, applied₃.report _, ?_⟩
    · unfold applyStep
      rw [bind_ok ran₁, bind_ok ran₂, bind_ok ran₃]
      rfl
    · rw [rows₃, rows₂, rows₁]
  · right
    refine ⟨e, s₃, ?_, disabled, unchecked⟩
    unfold applyStep
    rw [bind_ok ran₁, bind_ok ran₂, bind_error threw]

omit truthful writable in
/-- What an action is about is not touched by the ones before it. -/
theorem agrees_of_outside (outside : ∀ values ∉ named, t.partitions values = held.contents.partitions values)
    (descriptor : ∀ location, { t.definition.storageDescriptor with location := location } =
      { held.contents.definition.storageDescriptor with location := location })
    (fresh : step.names.Disjoint named) : step.Agrees held.contents t :=
  ⟨fun values own => outside values fun there => fresh own there, descriptor⟩

/-- The loop does what the actions do one after another. -/
theorem applySteps_truthful (uninjected : access.injected = none) {checked : List (Option (GluePartitionDetails Rest))}
    (passed : List.Forall₂ (fun step details => Checked held details step) steps checked)
    (applied : Applied target named progress s t)
    (outside : ∀ values ∉ named, t.partitions values = held.contents.partitions values)
    (descriptor : ∀ location, { t.definition.storageDescriptor with location := location } =
      { held.contents.definition.storageDescriptor with location := location })
    (fresh : (steps.flatMap GlueAlterStep.names).Disjoint named) (apart : (steps.flatMap GlueAlterStep.names).Nodup) :
    (∃ progress' s' t' more, (steps.zip checked).foldlM (applyStep server access target) progress s = .ok progress' s' ∧
        steps.foldlM (fun t step => step.effect t) t = some t' ∧ Applied target more progress' s' t' ∧
        progress'.rows = progress.rows ++ steps.map GlueAlterStep.emittedRow) ∨
      ∃ e s', (steps.zip checked).foldlM (applyStep server access target) progress s = .error e s' ∧
        steps.foldlM (fun t step => step.effect t) t = none ∧
        ∃ step ∈ steps, Unchecked step ∧ step.effect held.contents = none := by
  induction passed generalizing progress s t named with
  | nil => exact .inl ⟨progress, s, t, named, rfl, rfl, applied, by simp⟩
  | @cons step details steps checked here _ ih =>
      rw [List.flatMap_cons] at fresh apart
      obtain ⟨ownFresh, laterFresh⟩ := List.disjoint_append_left.mp fresh
      obtain ⟨_, laterApart, disjoint⟩ := List.nodup_append'.mp apart
      have agrees := agrees_of_outside outside descriptor ownFresh
      rw [List.zip_cons_cons, List.foldlM_cons, List.foldlM_cons, List.map_cons]
      rcases applyStep_truthful truthful writable uninjected applied here agrees ownFresh with
        ⟨progress', s', t', ran, effect, applied', rows⟩ | ⟨e, s', threw, disabled, unchecked⟩
      · have outside' : ∀ values ∉ named ++ step.names, t'.partitions values = held.contents.partitions values := by
          intro values other
          obtain ⟨notNamed, notOwn⟩ := not_or.mp (mt List.mem_append.mpr other)
          rw [GlueAlterStep.effect_frame effect notOwn, outside values notNamed]
        have descriptor' : ∀ location, { t'.definition.storageDescriptor with location := location } =
            { held.contents.definition.storageDescriptor with location := location } := by
          intro location
          rw [GlueAlterStep.effect_definition effect, GlueAlterStep.definitionAfter_descriptor, descriptor]
        have fresh' : (steps.flatMap GlueAlterStep.names).Disjoint (named ++ step.names) :=
          List.disjoint_append_right.mpr ⟨laterFresh, disjoint.symm⟩
        rw [bind_ok ran, effect]
        rcases ih applied' outside' descriptor' fresh' laterApart with
          ⟨last, s'', t'', more, rest, effects, done, lastRows⟩ | ⟨e, s'', threw, disabled, other, member, missing⟩
        · left
          refine ⟨last, s'', t'', more, rest, effects, done, ?_⟩
          rw [lastRows, rows, List.append_assoc]
          rfl
        · right
          exact ⟨e, s'', threw, disabled, other, List.mem_cons_of_mem _ member, missing⟩
      · right
        refine ⟨e, s', bind_error threw, ?_, step, List.mem_cons_self, unchecked, ?_⟩
        · rw [disabled]
          rfl
        · have enabled := agrees.enabled
          rw [disabled] at enabled
          rw [← Option.not_isSome_iff_eq_none]
          intro can
          cases enabled.mpr can

/-- The statement returns where its actions can be done one after another, with what these
leave; where it throws it has changed nothing, unless the partition of a SET LOCATION IF
EXISTS is not there. -/
theorem glueAlterTableApply_truthful (uninjected : access.injected = none) (bound : target.table = s.held.table)
    (apart : (steps.flatMap GlueAlterStep.names).Nodup) :
    (∃ s', glueAlterTableApply server access target steps s = .ok (steps.map GlueAlterStep.emittedRow) s' ∧
        steps.foldlM (fun t step => step.effect t) s.held.contents = some s'.held.contents) ∨
      ∃ e s', glueAlterTableApply server access target steps s = .error e s' ∧
        steps.foldlM (fun t step => step.effect t) s.held.contents = none ∧
        (s'.held = s.held ∨ ∃ step ∈ steps, Unchecked step ∧ step.effect s.held.contents = none) := by
  obtain ⟨existing, lookedUp, exist⟩ := @existing_truthful _ _ server target.schemaName target.table.name s truthful
    (lookups steps)
  have own : ∀ step ∈ steps, ∀ item ∈ step.lookup, item ∈ lookups steps := by
    intro step member item looked
    rw [lookups, List.mem_insertionSort, List.mem_dedup]
    exact List.mem_filterMap.mpr ⟨step, member, looked⟩
  have undisturbed : steps.Pairwise (Undisturbed fun (t : PartitionedTable Target Rest) step => step.effect t) := by
    have disjoint := (List.nodup_flatMap.mp apart).2
    refine disjoint.imp fun {a b} apart => ?_
    intro t t' done
    exact (GlueAlterStep.agrees_after apart done).enabled
  unfold glueAlterTableApply
  rw [bind_ok lookedUp]
  rcases @checkSteps_truthful _ _ server target ⟨s.held, s.moment + 1⟩ steps truthful (lookups steps) existing exist own with
    ⟨checked, moment, ran, passed⟩ | ⟨e, moment, threw, step, member, disabled⟩
  · rw [bind_ok ran]
    have start : Applied target [] {} ⟨s.held, moment⟩ s.held.contents := .start bound
    rcases applySteps_truthful truthful writable uninjected passed start (fun _ _ => rfl) (fun _ => rfl)
      (List.disjoint_nil_right _) apart with
      ⟨progress, s₁, t, more, applied, effects, done, rows⟩ | ⟨e, s₁, threw, disabled, missing⟩
    · left
      obtain ⟨s₂, flushed, done₂⟩ := flushAdds_truthful truthful writable uninjected done
      obtain ⟨s₃, flushed', done₃⟩ := flushDrops_truthful truthful writable done₂
      refine ⟨s₃, ?_, ?_⟩
      · rw [bind_ok applied, bind_ok flushed, bind_ok flushed']
        change EStateM.Result.ok progress.rows s₃ = _
        rw [rows]
        rfl
      · rw [effects]
        congr 1
        exact (done₃.idle rfl rfl).symm
    · right
      exact ⟨e, s₁, bind_error threw, disabled, .inr missing⟩
  · right
    refine ⟨e, _, bind_error threw, ?_, .inl rfl⟩
    rw [← Option.not_isSome_iff_eq_none, Undisturbed.foldlM_isSome_iff undisturbed]
    intro all
    have can := all step member
    rw [disabled] at can
    cases can

end Apply

section Statements

variable (server access) (schemaName tableName : Text)

/-- Statements of their own, each on the table as it is bound. -/
def statements : List GlueAlterStep → GlueRun Target Rest Unit
  | [] => return ()
  | step :: steps => do
      match ← GlueRun.getTable server schemaName tableName with
      | none => throw (.catalog ("Table '" ++ schemaName ++ "." ++ tableName ++ "' does not exist in Glue catalog '" ++
          access.name ++ "'"))
      | some table =>
          singleStatement server access ⟨table, schemaName⟩ step
          statements steps

variable {server access schemaName tableName}
variable (truthful : server.Truthful) (writable : access.readOnly = false)

include truthful writable

omit truthful writable in
/-- An action whose existence is not checked and that can not be done is about a partition
that is not there. -/
theorem missing_of_disabled
    (disabled : ∃ step ∈ steps, Unchecked step ∧ step.effect s.held.contents = none) :
    ∃ step ∈ steps, Unchecked step ∧ ¬ s.held.registered step.values := by
  obtain ⟨step, member, ⟨values, location, rfl⟩, disabled⟩ := disabled
  refine ⟨_, member, ⟨values, location, rfl⟩, unregistered_iff.mpr ?_⟩
  exact Option.map_eq_none_iff.mp disabled

/-- Partitions `5` and `6` of a table at `s3://bucket/events`. -/
def eventsHeld : HeldTable Unit Unit where
  table :=
    { name := "events", storageDescriptor := { location := "s3://bucket/events", rest := () }, versionId := some "1".toList }
  partitions values :=
    if values = ["5".toList] ∨ values = ["6".toList] then
      some { values, storageDescriptor := { location := "s3://bucket/events/day=".toList ++ values.flatten, rest := () } }
    else none
  keyed := by
    intro values partition found
    split_ifs at found
    cases found
    rfl

/-- A partition is added, the table moved, a partition renamed and one dropped. -/
def eventsSteps : List GlueAlterStep :=
  [.add ["7"] "s3://bucket/events/day=7" false, .setTableLocation "s3://bucket/moved", .rename ["5"] ["8"],
    .drop ["6"] false]

/-- The order of the actions of a statement decides neither whether it returns nor what the
table holds after that; in either order it changes nothing when it throws, unless the
partition of a SET LOCATION IF EXISTS is not there. -/
theorem glueAlterTable_perm (uninjected : access.injected = none) (bound : target.table = s.held.table)
    (apart : steps.Pairwise GlueAlterStep.Apart) (eachApart : ∀ step ∈ steps, step.names.Nodup)
    {steps' : List GlueAlterStep} (perm : steps.Perm steps') :
    (∃ s₁ s₂, glueAlterTableApply server access target steps s = .ok (steps.map GlueAlterStep.emittedRow) s₁ ∧
        glueAlterTableApply server access target steps' s = .ok (steps'.map GlueAlterStep.emittedRow) s₂ ∧
        s₁.held.contents = s₂.held.contents) ∨
      ∃ e s₁ e' s₂, glueAlterTableApply server access target steps s = .error e s₁ ∧
        glueAlterTableApply server access target steps' s = .error e' s₂ ∧
        (s₁.held = s.held ∧ s₂.held = s.held ∨ ∃ step ∈ steps, Unchecked step ∧ ¬ s.held.registered step.values) := by
  have distinct : (steps.flatMap GlueAlterStep.names).Nodup :=
    List.nodup_flatMap.mpr ⟨eachApart, apart.imp fun apart => apart.1⟩
  have distinct' : (steps'.flatMap GlueAlterStep.names).Nodup := (perm.flatMap_right _).nodup_iff.mp distinct
  have order : steps.foldlM (fun t step => step.effect t) s.held.contents =
      steps'.foldlM (fun t step => step.effect t) s.held.contents :=
    Independent.foldlM_perm (apart.imp GlueAlterStep.Apart.independent) perm
  rcases glueAlterTableApply_truthful truthful writable uninjected bound distinct with
    ⟨s₁, applied, effects⟩ | ⟨e, s₁, threw, stopped, unchanged⟩
  · rcases glueAlterTableApply_truthful truthful writable uninjected bound distinct' with
      ⟨s₂, applied', effects'⟩ | ⟨e', s₂, _, stopped', _⟩
    · left
      rw [order, effects'] at effects
      exact ⟨s₁, s₂, applied, applied', (Option.some.inj effects).symm⟩
    · rw [order, stopped'] at effects
      cases effects
  · rcases glueAlterTableApply_truthful truthful writable uninjected bound distinct' with
      ⟨s₂, _, effects'⟩ | ⟨e', s₂, threw', _, unchanged'⟩
    · rw [order, effects'] at stopped
      cases stopped
    · refine .inr ⟨e, s₁, e', s₂, threw, threw', ?_⟩
      cases unchanged with
      | inr disabled => exact .inr (missing_of_disabled disabled)
      | inl same =>
          apply unchanged'.imp (fun same' => ⟨same, same'⟩)
          intro disabled
          obtain ⟨step, member, missing⟩ := missing_of_disabled disabled
          exact ⟨step, perm.mem_iff.mpr member, missing⟩

omit truthful writable in
theorem glueAlterTable_perm_events : ∃ s₁ s₂ : GlueState Unit Unit,
    glueAlterTableApply honestServer ⟨"glue", false, none⟩ ⟨eventsHeld.table, "db"⟩ eventsSteps ⟨eventsHeld, 0⟩ =
        .ok (eventsSteps.map GlueAlterStep.emittedRow) s₁ ∧
      glueAlterTableApply honestServer ⟨"glue", false, none⟩ ⟨eventsHeld.table, "db"⟩ eventsSteps.reverse
        ⟨eventsHeld, 0⟩ = .ok (eventsSteps.reverse.map GlueAlterStep.emittedRow) s₂ ∧
      s₁.held.contents = s₂.held.contents := by
  have apart : eventsSteps.Pairwise GlueAlterStep.Apart := by
    simp [eventsSteps, GlueAlterStep.Apart, GlueAlterStep.names]
  have order := @glueAlterTable_perm Unit Unit honestServer ⟨"glue", false, none⟩ ⟨eventsHeld.table, "db"⟩
    ⟨eventsHeld, 0⟩ eventsSteps honestServer_truthful rfl rfl rfl apart (by decide) _ (List.reverse_perm _).symm
  rcases order with both | ⟨e, s₁, e', s₂, threw, _⟩
  · exact both
  · have ran : ∃ s, glueAlterTableApply honestServer ⟨"glue", false, none⟩ ⟨eventsHeld.table, "db"⟩ eventsSteps
        ⟨eventsHeld, 0⟩ = .ok (eventsSteps.map GlueAlterStep.emittedRow) s := ⟨_, rfl⟩
    obtain ⟨s, ran⟩ := ran
    rw [ran] at threw
    cases threw

end Statements

end GluePartitionFunctions

end DuckGlue
