import Mathlib.Data.Char
import DuckGlue.Lib.KeyOrder
import DuckGlue.Planning.ListingSample
import DuckGlue.Planning.OwningPartition

/-! # Which partitions a sample holds whole

The sample of a root's listing ends where the pages fetched end or behind the directory of
the first partition read, and leaves out the last run of files of one partition. Where the
files of a partition lie around those of partitions nested in it, this may cut it in two.
-/

namespace DuckGlue

open StringUtil KeyOrder

namespace HiveListing

variable (env : HiveListing)

/-- A data file of the root's listing. -/
def isRootData (file : OpenFileInfo) : Bool := isDataFile file (rtrim env.scan.rootLocation '/' ++ ['/'])

/-- The partition a file of the root's listing is a data file of. -/
def rootOwner (file : OpenFileInfo) : Option env.Index :=
  if env.isRootData file then
    env.owningPartition file.path ((comparableLocation (rtrim env.scan.rootLocation '/')).length + 1)
  else none

/-- The data files of partitions, with the partitions. -/
def owned (files : List OpenFileInfo) : List (OpenFileInfo × env.Index) :=
  files.filterMap fun file => (env.rootOwner file).map (file, ·)

/-- The first partition read that files of a listing are found of. -/
def firstRead (reading : List env.Index) (files : List OpenFileInfo) : Option env.Index :=
  ((env.owned files).find? fun found => decide (found.2 ∈ reading)).map (·.2)

/-- A file below the location of a partition. -/
def isInside (index : env.Index) (file : OpenFileInfo) : Bool :=
  startsWith (comparableLocation file.path) (env.locationOf index ++ ['/'])

/-- The partition of the last file. -/
def lastOwner (found : List (OpenFileInfo × env.Index)) : Option env.Index := found.getLast?.map (·.2)

/-- The files before the last run of files of one partition. -/
def beforeLastRun (found : List (OpenFileInfo × env.Index)) : List (OpenFileInfo × env.Index) :=
  found.rdropWhile fun one => decide (env.lastOwner found = some one.2)

/-- The last data file, if any, is below the location of the first partition read. -/
def EndsInside (reading : List env.Index) (files : List OpenFileInfo) : Prop :=
  ∀ index, env.firstRead reading files = some index →
    (files.filter env.isRootData).getLast?.any (env.isInside index) = true

section Files

variable {env} {files more : List OpenFileInfo} {file : OpenFileInfo} {reading : List env.Index} {owner : env.Index}

theorem owned_append : env.owned (files ++ more) = env.owned files ++ env.owned more := List.filterMap_append

theorem owned_single (here : env.rootOwner file = some owner) : env.owned [file] = [(file, owner)] := by
  simp [owned, here]

theorem owned_single_none (here : env.rootOwner file = none) : env.owned [file] = [] := by
  simp [owned, here]

theorem mem_owned {found : OpenFileInfo × env.Index} :
    found ∈ env.owned files ↔ found.1 ∈ files ∧ env.rootOwner found.1 = some found.2 := by
  obtain ⟨file, owner⟩ := found
  simp only [owned, List.mem_filterMap, Option.map_eq_some_iff, Prod.mk.injEq]
  constructor
  · rintro ⟨file', member, owner', here, rfl, rfl⟩
    exact ⟨member, here⟩
  · intro ⟨member, here⟩
    exact ⟨file, member, owner, here, rfl, rfl⟩

theorem rootOwner_eq_some (here : env.rootOwner file = some owner) : env.isRootData file = true ∧
    env.owningPartition file.path ((comparableLocation (rtrim env.scan.rootLocation '/')).length + 1) = some owner := by
  unfold rootOwner at here
  split_ifs at here with data
  exact ⟨data, here⟩

/-- A partition holds its files. -/
theorem isInside_of_owner (here : env.rootOwner file = some owner) : env.isInside owner file = true := by
  obtain ⟨deepest, -, -⟩ := owningPartition_eq_some.mp (rootOwner_eq_some here).2
  exact startsWith_iff.mpr deepest.holds

theorem firstRead_append : env.firstRead reading (files ++ more) =
    (env.firstRead reading files).or (env.firstRead reading more) := by
  unfold firstRead
  rw [owned_append, List.find?_append]
  cases (env.owned files).find? _ <;> rfl

theorem firstRead_single (here : env.rootOwner file = some owner) :
    env.firstRead reading [file] = if owner ∈ reading then some owner else none := by
  unfold firstRead
  rw [owned_single here, List.find?_singleton]
  by_cases read : owner ∈ reading <;> simp [read]

theorem firstRead_single_none (here : env.rootOwner file = none) : env.firstRead reading [file] = none := by
  unfold firstRead
  rw [owned_single_none here]
  rfl

theorem firstRead_append_of_some (found : env.firstRead reading files = some owner) :
    env.firstRead reading (files ++ more) = some owner := by
  rw [firstRead_append, found, Option.some_or]

theorem firstRead_eq_some (found : env.firstRead reading files = some owner) :
    owner ∈ reading ∧ ∃ file, (file, owner) ∈ env.owned files := by
  obtain ⟨⟨file, _⟩, here, rfl⟩ := Option.map_eq_some_iff.mp found
  exact ⟨by simpa using List.find?_some here, file, List.mem_of_find?_eq_some here⟩

theorem lastOwner_concat {found : List (OpenFileInfo × env.Index)} {one : OpenFileInfo × env.Index} :
    env.lastOwner (found ++ [one]) = some one.2 := by
  simp [lastOwner]

/-- One more file of the last partition belongs to its run. -/
theorem beforeLastRun_same {found : List (OpenFileInfo × env.Index)} (same : env.lastOwner found = some owner) :
    env.beforeLastRun (found ++ [(file, owner)]) = env.beforeLastRun found := by
  unfold beforeLastRun
  rw [lastOwner_concat, same, List.rdropWhile_concat_pos _ _ _ (by simp)]

/-- The first file of another partition starts a run. -/
theorem beforeLastRun_other {found : List (OpenFileInfo × env.Index)} (other : env.lastOwner found ≠ some owner) :
    env.beforeLastRun (found ++ [(file, owner)]) = found := by
  unfold beforeLastRun
  rw [lastOwner_concat, List.rdropWhile_concat_pos _ _ _ (by simp), List.rdropWhile_eq_self_iff]
  intro nonempty same
  apply other
  rw [lastOwner, List.getLast?_eq_some_getLast nonempty]
  have equal : owner = (found.getLast nonempty).2 := by simpa using same
  rw [equal]
  rfl

theorem beforeLastRun_front {found : List (OpenFileInfo × env.Index)} : env.beforeLastRun found <+: found :=
  List.rdropWhile_prefix _ _

end Files

end HiveListing

namespace HiveMultiFileList

open HiveListing

variable {env : HiveListing}

/-- What the loop remembers of the files it went through. -/
structure Remembers (reading : List env.Index) (done : List OpenFileInfo) (state : SampleState env) : Prop where
  files : state.files = env.owned done
  sampled : state.sampled = env.firstRead reading done
  lastPartition : state.lastPartition = env.lastOwner (env.owned done)
  lastPartitionStart : state.lastPartitionStart = (env.beforeLastRun (env.owned done)).length

/-- The same, with what it goes on by. -/
structure Scanned (reading : List env.Index) (done : List OpenFileInfo) (state : SampleState env) : Prop
    extends Remembers reading done state where
  sampledPrefix : ∀ index, state.sampled = some index → state.sampledPrefix = env.locationOf index ++ ['/']
  inSampled : ∀ index, state.sampled = some index →
    state.inSampled = (done.filter env.isRootData).getLast?.any (env.isInside index)
  listedAll : state.listedAll = false

section Loop

variable {reading : List env.Index} {done : List OpenFileInfo} {file : OpenFileInfo} {state : SampleState env}

theorem scanned_start : Scanned reading [] ({} : SampleState env) where
  files := rfl
  sampled := rfl
  lastPartition := rfl
  lastPartitionStart := rfl
  sampledPrefix := nofun
  inSampled := nofun
  listedAll := rfl

/-- How to fetch makes no difference to what is remembered. -/
theorem Scanned.fetch (scanned : Scanned reading done state) (alwaysFetch : Bool) :
    Scanned reading done { state with alwaysFetch } :=
  ⟨⟨scanned.files, scanned.sampled, scanned.lastPartition, scanned.lastPartitionStart⟩, scanned.sampledPrefix,
    scanned.inSampled, scanned.listedAll⟩

/-- Whether a data file is in the sampled partition's directory. -/
def isInSampled (file : OpenFileInfo) (state : SampleState env) : Bool :=
  state.sampled.isSome && startsWith (comparableLocation file.path) state.sampledPrefix

/-- Whether a file ends the loop. -/
def stopsAt (file : OpenFileInfo) (state : SampleState env) : Bool :=
  env.isRootData file && state.alwaysFetch && state.sampled.isSome && !isInSampled file state

theorem sampleFile_other (other : env.isRootData file = false) : sampleFile reading file state = (state, true) := by
  unfold isRootData at other
  simp [sampleFile, other]

theorem sampleFile_stops (stops : stopsAt file state = true) :
    sampleFile reading file state = ({ state with inSampled := isInSampled file state }, false) := by
  simp only [stopsAt, Bool.and_eq_true] at stops
  obtain ⟨⟨⟨data, always⟩, sampled⟩, outside⟩ := stops
  unfold isRootData at data
  unfold sampleFile
  dsimp only
  rw [if_neg (by rw [data]; exact Bool.false_ne_true), if_pos]
  · rfl
  · change (state.alwaysFetch && state.sampled.isSome && !isInSampled file state) = true
    rw [always, sampled, outside]
    rfl

theorem sampleFile_goes (data : env.isRootData file = true) (goes : stopsAt file state = false) :
    sampleFile reading file state =
      (match env.rootOwner file with
        | none => { state with inSampled := isInSampled file state }
        | some owner => sampleOwned reading file owner { state with inSampled := isInSampled file state }, true) := by
  have on : ¬(state.alwaysFetch && state.sampled.isSome && !isInSampled file state) = true := by
    intro stop
    rw [stopsAt, data, Bool.true_and, stop] at goes
    cases goes
  have owner : env.rootOwner file = env.owningPartition file.path
      ((comparableLocation (rtrim env.scan.rootLocation '/')).length + 1) := if_pos data
  unfold isRootData at data
  unfold isInSampled at on
  unfold sampleFile
  dsimp only
  rw [if_neg (by rw [data]; exact Bool.false_ne_true), if_neg on, owner]
  cases env.owningPartition file.path ((comparableLocation (rtrim env.scan.rootLocation '/')).length + 1) <;> rfl

theorem Scanned.isInSampled_eq (scanned : Scanned reading done state) {index : env.Index}
    (sampled : state.sampled = some index) : isInSampled file state = env.isInside index file := by
  unfold isInSampled isInside
  rw [sampled, scanned.sampledPrefix index sampled]
  rfl

section SampleOwned

variable {owner : env.Index}

theorem sampleOwned_files : (sampleOwned reading file owner state).files = state.files ++ [(file, owner)] := by
  unfold sampleOwned
  dsimp only
  split_ifs <;> rfl

theorem sampleOwned_lastPartition : (sampleOwned reading file owner state).lastPartition = some owner := by
  unfold sampleOwned
  dsimp only
  split_ifs with other first first
  · rfl
  · rfl
  · exact (not_not.mp other).symm
  · exact (not_not.mp other).symm

theorem sampleOwned_lastPartitionStart : (sampleOwned reading file owner state).lastPartitionStart =
    if some owner ≠ state.lastPartition then state.files.length else state.lastPartitionStart := by
  unfold sampleOwned
  dsimp only
  split_ifs <;> rfl

theorem sampleOwned_listedAll : (sampleOwned reading file owner state).listedAll = state.listedAll := by
  unfold sampleOwned
  dsimp only
  split_ifs <;> rfl

theorem sampleOwned_alwaysFetch : (sampleOwned reading file owner state).alwaysFetch = state.alwaysFetch := by
  unfold sampleOwned
  dsimp only
  split_ifs <;> rfl

/-- The first file of a partition read settles what is sampled. -/
theorem sampleOwned_first (first : state.sampled = none) (read : owner ∈ reading) :
    (sampleOwned reading file owner state).sampled = some owner ∧
      (sampleOwned reading file owner state).sampledPrefix = env.locationOf owner ++ ['/'] ∧
      (sampleOwned reading file owner state).inSampled = true := by
  unfold sampleOwned
  dsimp only
  split_ifs <;> simp_all

theorem sampleOwned_later (later : ¬(state.sampled = none ∧ owner ∈ reading)) :
    (sampleOwned reading file owner state).sampled = state.sampled ∧
      (sampleOwned reading file owner state).sampledPrefix = state.sampledPrefix ∧
      (sampleOwned reading file owner state).inSampled = state.inSampled := by
  unfold sampleOwned
  dsimp only
  split_ifs <;> simp_all

end SampleOwned

theorem getLast_data (data : env.isRootData file = true) : ((done ++ [file]).filter env.isRootData).getLast? = some file := by
  rw [List.filter_append, List.filter_singleton, data]
  exact List.getLast?_concat

/-- A file of a partition is remembered. -/
theorem Scanned.next_owned (scanned : Scanned reading done state) (data : env.isRootData file = true) {owner : env.Index}
    (here : env.rootOwner file = some owner) :
    Scanned reading (done ++ [file])
      (sampleOwned reading file owner { state with inSampled := isInSampled file state }) := by
  have ownedNow : env.owned (done ++ [file]) = env.owned done ++ [(file, owner)] := by
    rw [owned_append, owned_single here]
  have start : (sampleOwned reading file owner { state with inSampled := isInSampled file state }).lastPartitionStart =
      (env.beforeLastRun (env.owned (done ++ [file]))).length := by
    rw [sampleOwned_lastPartitionStart, ownedNow]
    dsimp only
    rw [scanned.lastPartition]
    split_ifs with other
    · rw [beforeLastRun_other (Ne.symm other), scanned.files]
    · rw [beforeLastRun_same (not_not.mp other).symm, scanned.lastPartitionStart]
  have remembered : ∀ sampled,
      (sampleOwned reading file owner { state with inSampled := isInSampled file state }).sampled = sampled →
      sampled = env.firstRead reading (done ++ [file]) →
      Remembers reading (done ++ [file]) (sampleOwned reading file owner { state with inSampled := isInSampled file state }) := by
    intro sampled is_ same
    refine ⟨?_, is_.trans same, ?_, start⟩
    · rw [sampleOwned_files, ownedNow, scanned.files]
    · rw [sampleOwned_lastPartition, ownedNow, lastOwner_concat]
  have unlisted := scanned.listedAll
  by_cases first : state.sampled = none ∧ owner ∈ reading
  · obtain ⟨sampled, sampledPrefix, inSampled⟩ :=
      @sampleOwned_first env reading file { state with inSampled := isInSampled file state } owner first.1 first.2
    refine ⟨remembered _ sampled ?_, ?_, ?_, ?_⟩
    · rw [firstRead_append, ← scanned.sampled, first.1, Option.none_or, firstRead_single here, if_pos first.2]
    · intro index isIndex
      cases sampled.symm.trans isIndex
      exact sampledPrefix
    · intro index isIndex
      cases sampled.symm.trans isIndex
      rw [inSampled, getLast_data data]
      exact (isInside_of_owner here).symm
    · rw [sampleOwned_listedAll]
      exact unlisted
  · obtain ⟨sampled, sampledPrefix, inSampled⟩ :=
      @sampleOwned_later env reading file { state with inSampled := isInSampled file state } owner first
    refine ⟨remembered _ sampled ?_, ?_, ?_, ?_⟩
    · dsimp only
      rw [firstRead_append, ← scanned.sampled, firstRead_single here]
      cases known : state.sampled with
      | some index => rfl
      | none =>
          rw [if_neg fun read => first ⟨known, read⟩]
          rfl
    · intro index isIndex
      rw [sampledPrefix]
      exact scanned.sampledPrefix index (sampled.symm.trans isIndex)
    · intro index isIndex
      rw [inSampled, getLast_data data]
      exact scanned.isInSampled_eq (sampled.symm.trans isIndex)
    · rw [sampleOwned_listedAll]
      exact unlisted

/-- A file of no partition changes nothing but where the loop is. -/
theorem Scanned.next_none (scanned : Scanned reading done state) (data : env.isRootData file = true)
    (here : env.rootOwner file = none) :
    Scanned reading (done ++ [file]) { state with inSampled := isInSampled file state } := by
  have ownedNow : env.owned (done ++ [file]) = env.owned done := by
    rw [owned_append, owned_single_none here, List.append_nil]
  have firstNow : env.firstRead reading (done ++ [file]) = env.firstRead reading done := by
    rw [firstRead_append, firstRead_single_none here, Option.or_none]
  refine ⟨⟨?_, ?_, ?_, ?_⟩, scanned.sampledPrefix, ?_, scanned.listedAll⟩
  · rw [ownedNow]
    exact scanned.files
  · rw [firstNow]
    exact scanned.sampled
  · rw [ownedNow]
    exact scanned.lastPartition
  · rw [ownedNow]
    exact scanned.lastPartitionStart
  · intro index isIndex
    rw [getLast_data data]
    exact scanned.isInSampled_eq isIndex

theorem Scanned.next_other (scanned : Scanned reading done state) (other : env.isRootData file = false) :
    Scanned reading (done ++ [file]) state := by
  have here : env.rootOwner file = none := if_neg (by rw [other]; exact Bool.false_ne_true)
  have ownedNow : env.owned (done ++ [file]) = env.owned done := by
    rw [owned_append, owned_single_none here, List.append_nil]
  have firstNow : env.firstRead reading (done ++ [file]) = env.firstRead reading done := by
    rw [firstRead_append, firstRead_single_none here, Option.or_none]
  have dataNow : (done ++ [file]).filter env.isRootData = done.filter env.isRootData := by
    rw [List.filter_append, List.filter_singleton, other]
    exact List.append_nil _
  refine ⟨⟨?_, ?_, ?_, ?_⟩, scanned.sampledPrefix, ?_, scanned.listedAll⟩
  · rw [ownedNow]
    exact scanned.files
  · rw [firstNow]
    exact scanned.sampled
  · rw [ownedNow]
    exact scanned.lastPartition
  · rw [ownedNow]
    exact scanned.lastPartitionStart
  · rw [dataNow]
    exact scanned.inSampled

/-- The loop goes on behind every file it does not stop at. -/
theorem Scanned.next (scanned : Scanned reading done state) (goes : stopsAt file state = false) :
    ∃ next, sampleFile reading file state = (next, true) ∧ Scanned reading (done ++ [file]) next ∧
      next.alwaysFetch = state.alwaysFetch := by
  by_cases data : env.isRootData file = true
  · rw [sampleFile_goes data goes]
    cases here : env.rootOwner file with
    | none => exact ⟨_, rfl, scanned.next_none data here, rfl⟩
    | some owner => exact ⟨_, rfl, scanned.next_owned data here, sampleOwned_alwaysFetch⟩
  · rw [Bool.not_eq_true] at data
    exact ⟨state, sampleFile_other data, scanned.next_other data, rfl⟩

end Loop

/-- How the loop ends: with everything listed, paused behind the files available, or
stopped at a file behind the directory sampled. -/
inductive SampleEnd (reading : List env.Index) (files : List OpenFileInfo) (available : ℕ) (state : SampleState env) : Prop
  | all (seen : Remembers reading files state) (listed : state.listedAll = true) (inside : env.EndsInside reading files)
  | paused {front back : List OpenFileInfo} {index : env.Index} (split : files = front ++ back)
      (seen : Remembers reading front state) (listed : state.listedAll = false)
      (sampled : env.firstRead reading front = some index)
      (outside : (front.filter env.isRootData).getLast?.any (env.isInside index) = false)
      (fetched : front = files.take available)
  | stopped {front back : List OpenFileInfo} {file : OpenFileInfo} {index : env.Index} (split : files = front ++ file :: back)
      (seen : Remembers reading front state) (listed : state.listedAll = false)
      (sampled : env.firstRead reading front = some index) (inside : env.EndsInside reading front)
      (data : env.isRootData file = true) (outside : env.isInside index file = false)
      (fetched : available ≤ front.length)

section Ends

variable {reading : List env.Index} {done : List OpenFileInfo} {file : OpenFileInfo} {state : SampleState env}
  {fetched : ℕ}

theorem Scanned.endsInside (scanned : Scanned reading done state) (goes : ¬(state.sampled.isSome && !state.inSampled) = true) :
    env.EndsInside reading done := by
  intro index first
  have sampled := scanned.sampled.trans first
  rw [← scanned.inSampled index sampled]
  rw [sampled, Option.isSome_some, Bool.true_and, Bool.not_eq_true', Bool.not_eq_false] at goes
  exact goes

/-- While the loop fetches, it stays in the directory sampled. -/
theorem Scanned.endsInside_next (scanned : Scanned reading done state) (always : state.alwaysFetch = true)
    (goes : stopsAt file state = false) (inside : env.EndsInside reading done) :
    env.EndsInside reading (done ++ [file]) := by
  intro index first
  by_cases data : env.isRootData file = true
  · rw [getLast_data data]
    cases before : env.firstRead reading done with
    | some earlier =>
        have same : earlier = index := by
          rw [firstRead_append_of_some before] at first
          exact Option.some.inj first
        subst same
        have sampled := scanned.sampled.trans before
        rw [stopsAt, data, always, sampled, scanned.isInSampled_eq sampled] at goes
        simpa using goes
    | none =>
        rw [firstRead_append, before, Option.none_or] at first
        obtain ⟨-, other, member⟩ := firstRead_eq_some first
        obtain ⟨isFile, here⟩ := mem_owned.mp member
        cases List.mem_singleton.mp isFile
        exact isInside_of_owner here
  · rw [Bool.not_eq_true] at data
    have here : env.rootOwner file = none := if_neg (by rw [data]; exact Bool.false_ne_true)
    rw [firstRead_append, firstRead_single_none here, Option.or_none] at first
    rw [List.filter_append, List.filter_singleton, data]
    have none_ : (bif false then [file] else []) = ([] : List OpenFileInfo) := rfl
    rw [none_, List.append_nil]
    exact inside index first

theorem sampleLoop_fetching (rest : List OpenFileInfo) (available : ℕ) (scanned : Scanned reading done state)
    (always : state.alwaysFetch = true) (inside : env.EndsInside reading done) (behind : fetched ≤ done.length) :
    SampleEnd reading (done ++ rest) fetched (sampleLoop reading rest available state) := by
  induction rest generalizing done state available with
  | nil =>
      unfold sampleLoop
      rw [always]
      rw [List.append_nil]
      exact .all ⟨scanned.files, scanned.sampled, scanned.lastPartition, scanned.lastPartitionStart⟩ rfl inside
  | cons file rest ih =>
      unfold sampleLoop
      have same : { state with alwaysFetch := state.alwaysFetch || decide (available = 0) } = state := by
        rw [always, Bool.true_or, ← always]
      rw [same, always]
      rw [if_neg (by rw [Bool.not_true, Bool.false_and, Bool.false_and, Bool.false_and]; exact Bool.false_ne_true)]
      dsimp only
      cases stops : stopsAt file state with
      | true =>
          rw [sampleFile_stops stops]
          simp only [stopsAt, Bool.and_eq_true] at stops
          obtain ⟨⟨⟨data, -⟩, some_⟩, outside⟩ := stops
          obtain ⟨index, sampled⟩ := Option.isSome_iff_exists.mp some_
          rw [scanned.isInSampled_eq sampled, Bool.not_eq_true'] at outside
          exact .stopped rfl ⟨scanned.files, scanned.sampled, scanned.lastPartition, scanned.lastPartitionStart⟩
            scanned.listedAll (scanned.sampled.symm.trans sampled) inside data outside behind
      | false =>
          obtain ⟨next, went, scannedNext, kept⟩ := scanned.next stops
          rw [went]
          dsimp only
          rw [if_pos rfl, List.append_cons]
          apply ih _ scannedNext (kept.trans always) (scanned.endsInside_next always stops inside)
          rw [List.length_append]
          omega

theorem sampleLoop_end (rest : List OpenFileInfo) (available : ℕ) (scanned : Scanned reading done state)
    (never : state.alwaysFetch = false) :
    SampleEnd reading (done ++ rest) (done.length + available) (sampleLoop reading rest available state) := by
  induction rest generalizing done state available with
  | nil =>
      unfold sampleLoop
      rw [never]
      rw [Bool.not_false, Bool.true_and]
      split_ifs with pauses
      · rw [Bool.and_eq_true, Bool.not_eq_true'] at pauses
        obtain ⟨some_, outside⟩ := pauses
        obtain ⟨index, sampled⟩ := Option.isSome_iff_exists.mp some_
        rw [scanned.inSampled index sampled] at outside
        refine .paused rfl scanned.toRemembers scanned.listedAll (scanned.sampled.symm.trans sampled) outside ?_
        rw [List.append_nil, List.take_of_length_le (by omega)]
      · rw [List.append_nil]
        exact .all ⟨scanned.files, scanned.sampled, scanned.lastPartition, scanned.lastPartitionStart⟩ rfl
          (scanned.endsInside pauses)
  | cons file rest ih =>
      cases available with
      | zero =>
          by_cases pauses : (state.sampled.isSome && !state.inSampled) = true
          · unfold sampleLoop
            rw [if_pos (by rw [never]; simpa using pauses)]
            rw [Bool.and_eq_true, Bool.not_eq_true'] at pauses
            obtain ⟨some_, outside⟩ := pauses
            obtain ⟨index, sampled⟩ := Option.isSome_iff_exists.mp some_
            rw [scanned.inSampled index sampled] at outside
            refine .paused rfl scanned.toRemembers scanned.listedAll (scanned.sampled.symm.trans sampled) outside ?_
            rw [Nat.add_zero, List.take_left]
          · have fetches : sampleLoop reading (file :: rest) 0 state =
                sampleLoop reading (file :: rest) 0 { state with alwaysFetch := true } := by
              unfold sampleLoop
              rw [if_neg (by rw [never]; simpa using pauses), if_neg (by simp)]
              simp
            rw [fetches]
            exact sampleLoop_fetching _ _ (scanned.fetch true) rfl (scanned.endsInside pauses) (by omega)
      | succ available =>
          have goes : stopsAt file state = false := by
            rw [stopsAt, never, Bool.and_false, Bool.false_and, Bool.false_and]
          have same : { state with alwaysFetch := state.alwaysFetch || decide (available + 1 = 0) } = state := by
            have positive : decide (available + 1 = 0) = false := rfl
            rw [positive, Bool.or_false]
          obtain ⟨next, went, scannedNext, kept⟩ := scanned.next goes
          unfold sampleLoop
          rw [same, if_neg (by simp)]
          dsimp only
          rw [went]
          dsimp only
          rw [if_pos rfl, List.append_cons, Nat.add_sub_cancel]
          have later := ih available scannedNext (kept.trans never)
          rw [List.length_append, List.length_singleton] at later
          rwa [Nat.add_comm available 1, ← Nat.add_assoc]

end Ends

end HiveMultiFileList

namespace HiveListing

variable (env : HiveListing)

/-- The listing of the table root. -/
def rootFiles : List OpenFileInfo := env.fs.list (rtrim env.scan.rootLocation '/')

/-- The store lists in the order of the keys. -/
def ListsInOrder : Prop := env.rootFiles.Pairwise fun a b => a.path < b.path

instance : Decidable env.ListsInOrder :=
  inferInstanceAs (Decidable (env.rootFiles.Pairwise fun a b => a.path < b.path))

/-- How much of the listing there is up to the last data file below a partition. -/
def upTo (index : env.Index) : ℕ :=
  (env.rootFiles.rdropWhile fun file => !(env.isRootData file && env.isInside index file)).length

/-- How much of the listing a sample of a partition looks at: the files fetched, and the
partition's directory. -/
def lookedAt (index : env.Index) (available : ℕ) : ℕ := max available (env.upTo index)

section Order

variable {env} {a b c file : OpenFileInfo} {index : env.Index}

/-- A data file of the root's listing by the path below the root. -/
theorem rootData_shape (listed : file ∈ env.rootFiles) (data : env.isRootData file = true) :
    ∃ rest, file.path = rtrim env.scan.rootLocation '/' ++ '/' :: rest ∧ isDataName rest = true ∧
      comparableLocation file.path = comparableLocation env.scan.rootLocation ++ '/' :: rtrim rest '/' := by
  obtain ⟨object, _, rest, _, rfl⟩ := env.fs.mem_list.mp listed
  have name : isDataName rest = true := by
    unfold isRootData isDataFile at data
    rw [Bool.and_eq_true, Bool.and_eq_true] at data
    have drop : (rtrim env.scan.rootLocation '/' ++ '/' :: rest).drop (rtrim env.scan.rootLocation '/' ++ ['/']).length =
        rest := by
      simp
    rw [drop] at data
    exact data.1.2
  exact ⟨rest, rfl, name, comparableLocation_listed name⟩

/-- A path below a directory, without its trailing slashes. -/
theorem below_rtrim {directory rest : Text} (last : directory.getLast? ≠ some '/') (nonempty : directory ≠ [])
    (data : isDataName rest = true) :
    directory ++ ['/'] <+: rtrim rest '/' ↔ directory ++ ['/'] <+: rest ∧ rest ≠ directory ++ ['/'] := by
  constructor
  · intro below
    refine ⟨below.trans (Segments.trimEnd_prefix rest), ?_⟩
    intro same
    have shorter := below.length_le
    have trimmed : rtrim (directory ++ ['/']) '/' = rtrim directory '/' := by
      unfold rtrim Segments.trimEnd
      rw [List.rdropWhile_concat_pos _ _ _ (by simp)]
    have within := (@Segments.trimEnd_prefix _ _ '/' directory).length_le
    rw [same, trimmed, List.length_append, List.length_singleton] at shorter
    change _ + 1 ≤ (Segments.trimEnd '/' directory).length at shorter
    omega
  · intro ⟨⟨s, shape⟩, proper⟩
    have some_ : s ≠ [] := by
      intro empty
      rw [empty, List.append_nil] at shape
      exact proper shape.symm
    have joined : rest = directory ++ '/' :: s := by rw [← shape, List.append_assoc, List.singleton_append]
    rw [joined, isDataName_append nonempty last some_, Bool.and_eq_true] at data
    obtain ⟨first, more, rfl, opens⟩ := isDataName_head data.2
    have kept : rtrim rest '/' = (directory ++ ['/']) ++ rtrim (first :: more) '/' := by
      rw [← shape]
      exact Segments.trimEnd_append ⟨first, List.mem_cons_self, opens⟩
    rw [kept]
    exact List.prefix_append _ _

/-- A partition with a data file in the root's listing lies below the root. -/
theorem location_of_owner (listed : file ∈ env.rootFiles) (here : env.rootOwner file = some index) :
    ∃ directory, env.locationOf index = comparableLocation env.scan.rootLocation ++ '/' :: directory ∧ directory ≠ [] ∧
      directory.getLast? ≠ some '/' := by
  obtain ⟨data, owns⟩ := rootOwner_eq_some here
  obtain ⟨rest, _, _, comparable⟩ := rootData_shape listed data
  obtain ⟨deepest, -, long⟩ := owningPartition_eq_some.mp owns
  rw [comparableLocation_rtrim] at long
  have holds := deepest.holds
  rw [comparable, List.append_cons] at holds
  have below : comparableLocation env.scan.rootLocation ++ ['/'] <+: env.locationOf index ++ ['/'] := by
    apply List.prefix_of_prefix_length_le (List.prefix_append _ _) holds
    rw [List.length_append, List.length_append, List.length_singleton]
    omega
  obtain ⟨tail, shape⟩ := below
  have last : (env.locationOf index).getLast? ≠ some '/' := comparableLocation_last _
  have nonempty : tail ≠ [] := by
    intro empty
    rw [empty, List.append_nil] at shape
    have lengths := congrArg List.length shape
    simp only [List.length_append, List.length_singleton] at lengths
    omega
  obtain ⟨directory, final, rfl⟩ := (List.eq_nil_or_concat' tail).resolve_left nonempty
  rw [← List.append_assoc] at shape
  obtain ⟨location, -⟩ := List.append_inj' shape rfl
  have whole : env.locationOf index = comparableLocation env.scan.rootLocation ++ '/' :: directory := by
    rw [← location, ← List.append_cons]
  rw [whole] at last
  refine ⟨directory, whole, ?_, ?_⟩
  · intro empty
    rw [empty] at last
    simp at last
  · intro slash
    apply last
    rw [List.getLast?_append, List.getLast?_cons, slash]
    rfl

theorem isInside_iff {directory rest : Text}
    (location : env.locationOf index = comparableLocation env.scan.rootLocation ++ '/' :: directory)
    (nonempty : directory ≠ []) (last : directory.getLast? ≠ some '/') (data : isDataName rest = true)
    (comparable : comparableLocation file.path = comparableLocation env.scan.rootLocation ++ '/' :: rtrim rest '/') :
    env.isInside index file = true ↔ directory ++ ['/'] <+: rest ∧ rest ≠ directory ++ ['/'] := by
  rw [← below_rtrim last nonempty data, isInside, startsWith_iff, location, comparable, List.append_assoc,
    List.prefix_append_right_inj, List.cons_append, List.cons_prefix_cons]
  exact and_iff_right rfl

/-- Between two files of a partition's directory the listing has only files of it. -/
theorem isInside_between (ofIndex : ∃ file ∈ env.rootFiles, env.rootOwner file = some index)
    (listed : a ∈ env.rootFiles ∧ b ∈ env.rootFiles ∧ c ∈ env.rootFiles)
    (data : env.isRootData a = true ∧ env.isRootData b = true ∧ env.isRootData c = true) (first : a.path < b.path)
    (second : b.path < c.path) (below : env.isInside index a = true) (above : env.isInside index c = true) :
    env.isInside index b = true := by
  obtain ⟨file, listedFile, here⟩ := ofIndex
  obtain ⟨directory, location, nonempty, last⟩ := location_of_owner listedFile here
  obtain ⟨restA, pathA, nameA, comparableA⟩ := rootData_shape listed.1 data.1
  obtain ⟨restB, pathB, nameB, comparableB⟩ := rootData_shape listed.2.1 data.2.1
  obtain ⟨restC, pathC, nameC, comparableC⟩ := rootData_shape listed.2.2 data.2.2
  have insideA := (isInside_iff location nonempty last nameA comparableA).mp below
  have insideC := (isInside_iff location nonempty last nameC comparableC).mp above
  rw [isInside_iff location nonempty last nameB comparableB]
  have start : ∀ {rest : Text}, directory ++ ['/'] <+: rest →
      rtrim env.scan.rootLocation '/' ++ '/' :: (directory ++ ['/']) <+: rtrim env.scan.rootLocation '/' ++ '/' :: rest := by
    intro rest within
    rw [List.prefix_append_right_inj, List.cons_prefix_cons]
    exact ⟨rfl, within⟩
  rw [pathA, pathB] at first
  rw [pathB, pathC] at second
  have between := prefix_between first second (start insideA.1) (start insideC.1)
  rw [List.prefix_append_right_inj, List.cons_prefix_cons] at between
  refine ⟨between.2, ?_⟩
  intro same
  rw [same] at first
  exact not_lt_prefix (start insideA.1) first

/-- Behind the directory of a partition there are no more files of it. -/
theorem of_mem_drop_upTo {n : ℕ} (behind : env.upTo index ≤ n) (member : file ∈ env.rootFiles.drop n)
    (data : env.isRootData file = true) : env.isInside index file = false := by
  have out := of_mem_drop behind member
  rw [data, Bool.true_and, Bool.not_eq_true'] at out
  exact out

/-- The directory is seen when the files behind are not in it. -/
theorem upTo_le {front back : List OpenFileInfo} (split : env.rootFiles = front ++ back)
    (outside : ∀ file ∈ back, env.isRootData file = true → env.isInside index file = false) :
    env.upTo index ≤ front.length := by
  unfold upTo
  have run : ∀ file ∈ back, (!(env.isRootData file && env.isInside index file)) = true := by
    intro file member
    cases data : env.isRootData file with
    | false => rfl
    | true =>
        rw [outside file member data]
        rfl
  rw [split, rdropWhile_append_of_all run]
  exact (List.rdropWhile_prefix _ front).length_le

/-- If the last data file is in the directory, there are none behind it. -/
theorem no_data_of_endsInside {front back : List OpenFileInfo} {n : ℕ} (split : env.rootFiles = front ++ back)
    (behind : env.upTo index ≤ n) (inside : (front.filter env.isRootData).getLast?.any (env.isInside index) = true) :
    ∀ file ∈ front.drop n, env.isRootData file = false := by
  intro file member
  by_contra data
  rw [Bool.not_eq_false] at data
  have some_ : (front.drop n).filter env.isRootData ≠ [] := List.ne_nil_of_mem (List.mem_filter.mpr ⟨member, data⟩)
  have last : (front.filter env.isRootData).getLast? = ((front.drop n).filter env.isRootData).getLast? := by
    conv_lhs => rw [← List.take_append_drop n front, List.filter_append]
    exact List.getLast?_append_of_ne_nil _ some_
  rw [last, List.getLast?_eq_some_getLast some_] at inside
  obtain ⟨dropped, isData⟩ := List.mem_filter.mp (List.getLast_mem some_)
  have within : ((front.drop n).filter env.isRootData).getLast some_ ∈ env.rootFiles.drop n := by
    rw [split, List.drop_append]
    exact List.mem_append_left _ dropped
  have out := of_mem_drop_upTo behind within isData
  rw [Option.any_some, out] at inside
  cases inside

/-- A file behind one of the directory, but not in it, is behind all of the directory. -/
theorem mem_drop_upTo (ordered : env.ListsInOrder) {found : OpenFileInfo} (listedFound : found ∈ env.rootFiles)
    (here : env.rootOwner found = some index) (listed : file ∈ env.rootFiles) (data : env.isRootData file = true)
    (outside : env.isInside index file = false) (behind : found.path < file.path) :
    file ∈ env.rootFiles.drop (env.upTo index) := by
  have split : env.rootFiles = env.rootFiles.take (env.upTo index) ++ env.rootFiles.drop (env.upTo index) :=
    (List.take_append_drop _ _).symm
  rw [split] at listed
  refine (List.mem_append.mp listed).resolve_left ?_
  intro before
  have directory : env.rootFiles.take (env.upTo index) =
      env.rootFiles.rdropWhile fun file => !(env.isRootData file && env.isInside index file) :=
    (List.prefix_iff_eq_take.mp (List.rdropWhile_prefix _ _)).symm
  rw [directory] at before
  have some_ := List.ne_nil_of_mem before
  have last := List.rdropWhile_last_not _ _ some_
  rw [Bool.not_eq_true, Bool.not_eq_false', Bool.and_eq_true] at last
  have prefixed := List.rdropWhile_prefix (fun file => !(env.isRootData file && env.isInside index file)) env.rootFiles
  have sorted := ordered.sublist prefixed.sublist
  have less := lt_getLast sorted some_ before fun same => by
    rw [same, last.2] at outside
    cases outside
  have inside := isInside_between ⟨found, listedFound, here⟩
    ⟨listedFound, prefixed.subset before, prefixed.subset (List.getLast_mem some_)⟩
    ⟨(rootOwner_eq_some here).1, data, last.1⟩ behind less (isInside_of_owner here) last.2
  rw [inside] at outside
  cases outside

end Order

/-- A partition with a file in the sample has all of its data files in it, and a partition
read is in it if one of them has a data file. -/
structure SamplesPartitions (reading : List env.Index) (sample : List (OpenFileInfo × env.Index)) : Prop where
  whole : ∀ found ∈ sample, ∀ other ∈ env.owned env.rootFiles, other.2 = found.2 → other ∈ sample
  read : (∃ found ∈ env.owned env.rootFiles, found.2 ∈ reading) → ∃ found ∈ sample, found.2 ∈ reading

/-- The data files behind what was seen are of other partitions, the last one seen apart;
and if that is not the one sampled, its files seen are one run. -/
structure EndsBetween (index : env.Index) (seen behind : List (OpenFileInfo × env.Index)) : Prop where
  others : ∀ found ∈ seen, ∀ later ∈ behind, later.2 = found.2 → env.lastOwner seen = some found.2
  last : ∀ owner, env.lastOwner seen = some owner → owner ≠ index →
    ∃ front run, seen = front ++ run ∧ (∀ found ∈ front, found.2 ≠ owner) ∧ ∀ found ∈ run, found.2 = owner

/-- What a sample looks at ends between partitions, or with the listing. -/
def SampleEndsBetween (reading : List env.Index) (available : ℕ) : Prop :=
  ∀ index, env.firstRead reading env.rootFiles = some index →
    (∃ file ∈ env.rootFiles.drop (env.upTo index), env.isRootData file = true) →
    env.EndsBetween index (env.owned (env.rootFiles.take (env.lookedAt index available)))
      (env.owned (env.rootFiles.drop (env.lookedAt index available)))

/-- No data file below a partition that has files is one of another partition. -/
def Unnested : Prop :=
  ∀ found ∈ env.owned env.rootFiles, ∀ file ∈ env.rootFiles, env.isRootData file = true →
    env.isInside found.2 file = true → env.rootOwner file = some found.2

/-- What is kept of the files seen. -/
def cutSample (index : env.Index) (seen : List (OpenFileInfo × env.Index)) : List (OpenFileInfo × env.Index) :=
  if env.lastOwner seen = some index then seen else env.beforeLastRun seen

end HiveListing

namespace HiveMultiFileList

open HiveListing

section Sample

variable {env : HiveListing} {reading : List env.Index} {available : ℕ} {index : env.Index}
  {front back : List OpenFileInfo} {file : OpenFileInfo} {state : SampleState env}

/-- The state of the loop behind the root's listing. -/
abbrev sampleState (env : HiveListing) (reading : List env.Index) (available : ℕ) : SampleState env :=
  sampleLoop reading env.rootFiles available {}

theorem sampledFiles_of_listedAll (seen : Remembers reading env.rootFiles (sampleState env reading available))
    (listed : (sampleState env reading available).listedAll = true) :
    sampledFiles reading available = env.owned env.rootFiles := by
  rw [← seen.files]
  unfold sampledFiles
  dsimp only
  rw [if_neg]
  · rfl
  · rw [Bool.and_eq_true, Bool.and_eq_true, Bool.not_eq_true']
    intro cut
    have unlisted : (sampleState env reading available).listedAll = false := cut.1.1
    rw [unlisted] at listed
    cases listed

theorem sampledFiles_of_cut (seen : Remembers reading front (sampleState env reading available))
    (listed : (sampleState env reading available).listedAll = false)
    (sampled : env.firstRead reading front = some index) :
    sampledFiles reading available = env.cutSample index (env.owned front) := by
  have start : (env.owned front).take (env.beforeLastRun (env.owned front)).length = env.beforeLastRun (env.owned front) :=
    (List.prefix_iff_eq_take.mp beforeLastRun_front).symm
  unfold sampledFiles cutSample
  dsimp only
  change (if (!(sampleState env reading available).listedAll && (sampleState env reading available).lastPartition.isSome &&
    decide ((sampleState env reading available).lastPartition ≠ (sampleState env reading available).sampled)) = true
    then (sampleState env reading available).files.take (sampleState env reading available).lastPartitionStart
    else (sampleState env reading available).files) = _
  rw [seen.files, seen.lastPartitionStart, seen.lastPartition, seen.sampled, listed, sampled, start]
  cases last : env.lastOwner (env.owned front) with
  | some owner =>
      by_cases same : owner = index
      · simp [same]
      · simp [same]
  | none =>
      have empty : env.owned front = [] := by simpa [lastOwner] using last
      rw [empty]
      rfl

/-- The first partition read has a data file among the files. -/
theorem exists_sampled (sampled : env.firstRead reading front = some index) :
    ∃ found ∈ front, env.rootOwner found = some index := by
  obtain ⟨-, found, member⟩ := firstRead_eq_some sampled
  obtain ⟨inFront, here⟩ := mem_owned.mp member
  exact ⟨found, inFront, here⟩

/-- A sample is the whole listing, or what is kept of the part looked at. -/
theorem sampledFiles_cases (ordered : env.ListsInOrder) (reading : List env.Index) (available : ℕ) :
    (sampledFiles reading available = env.owned env.rootFiles ∧
      ∀ index, env.firstRead reading env.rootFiles = some index →
        ∀ file ∈ env.rootFiles.drop (env.upTo index), env.isRootData file = false) ∨
    ∃ index, env.firstRead reading env.rootFiles = some index ∧
      (∃ file ∈ env.rootFiles.drop (env.upTo index), env.isRootData file = true) ∧
      sampledFiles reading available =
        env.cutSample index (env.owned (env.rootFiles.take (env.lookedAt index available))) := by
  have ends := sampleLoop_end env.rootFiles available (@scanned_start env reading) rfl
  rw [List.nil_append, List.length_nil, Nat.zero_add] at ends
  cases ends with
  | all seen listed inside =>
      refine .inl ⟨sampledFiles_of_listedAll seen listed, ?_⟩
      intro index first
      have whole : env.rootFiles = env.rootFiles ++ [] := (List.append_nil _).symm
      exact no_data_of_endsInside whole le_rfl (inside index first)
  | @paused front back index split seen listed sampled outside fetched =>
      obtain ⟨found, inFront, here⟩ := exists_sampled sampled
      have foundData : found ∈ front.filter env.isRootData := List.mem_filter.mpr ⟨inFront, (rootOwner_eq_some here).1⟩
      have some_ := List.ne_nil_of_mem foundData
      rw [List.getLast?_eq_some_getLast some_, Option.any_some] at outside
      obtain ⟨lastIn, lastData⟩ := List.mem_filter.mp (List.getLast_mem some_)
      have sorted : (front ++ back).Pairwise fun a b => a.path < b.path := split ▸ ordered
      have within : ∀ file ∈ front, file ∈ env.rootFiles := by
        intro file member
        rw [split]
        exact List.mem_append_left _ member
      have less := lt_getLast ((List.pairwise_append.mp sorted).1.sublist List.filter_sublist) some_ foundData fun same => by
        rw [← same, isInside_of_owner here] at outside
        cases outside
      have gone : ∀ file ∈ back, env.isRootData file = true → env.isInside index file = false := by
        intro file member data
        by_contra inside
        rw [Bool.not_eq_false] at inside
        have listedFile : file ∈ env.rootFiles := by
          rw [split]
          exact List.mem_append_right _ member
        have last := isInside_between ⟨found, within found inFront, here⟩
          ⟨within found inFront, within _ lastIn, listedFile⟩ ⟨(rootOwner_eq_some here).1, lastData, data⟩ less
          ((List.pairwise_append.mp sorted).2.2 _ lastIn file member) (isInside_of_owner here) inside
        rw [last] at outside
        cases outside
      have taken : env.rootFiles.take (env.lookedAt index available) = front := by
        have seenAll := upTo_le split gone
        rw [fetched, List.length_take] at seenAll
        have behind : env.upTo index ≤ available := seenAll.trans (Nat.min_le_left _ _)
        rw [lookedAt, Nat.max_eq_left behind, fetched]
      refine .inr ⟨index, ?_, ⟨_, mem_drop_upTo ordered (within found inFront) here (within _ lastIn) lastData outside less,
        lastData⟩, ?_⟩
      · rw [split]
        exact firstRead_append_of_some sampled
      · rw [taken]
        exact sampledFiles_of_cut seen listed sampled
  | @stopped front back file index split seen listed sampled inside data outside fetched =>
      obtain ⟨found, inFront, here⟩ := exists_sampled sampled
      have sorted : (front ++ file :: back).Pairwise fun a b => a.path < b.path := split ▸ ordered
      have within : ∀ file ∈ front, file ∈ env.rootFiles := by
        intro file member
        rw [split]
        exact List.mem_append_left _ member
      have listedFile : file ∈ env.rootFiles := by
        rw [split]
        exact List.mem_append_right _ List.mem_cons_self
      have less : found.path < file.path :=
        (List.pairwise_append.mp sorted).2.2 found inFront file List.mem_cons_self
      have gone : ∀ later ∈ file :: back, env.isRootData later = true → env.isInside index later = false := by
        intro later member laterData
        rcases List.mem_cons.mp member with rfl | further
        · exact outside
        · by_contra laterInside
          rw [Bool.not_eq_false] at laterInside
          have listedLater : later ∈ env.rootFiles := by
            rw [split]
            exact List.mem_append_right _ member
          have middle := isInside_between ⟨found, within found inFront, here⟩
            ⟨within found inFront, listedFile, listedLater⟩ ⟨(rootOwner_eq_some here).1, data, laterData⟩ less
            (List.rel_of_pairwise_cons (List.pairwise_append.mp sorted).2.1 further) (isInside_of_owner here) laterInside
          rw [middle] at outside
          cases outside
      have bound : env.lookedAt index available ≤ front.length := Nat.max_le.mpr ⟨fetched, upTo_le split gone⟩
      have taken : env.owned (env.rootFiles.take (env.lookedAt index available)) = env.owned front := by
        have rest : env.owned (front.drop (env.lookedAt index available)) = [] := by
          rw [owned, List.filterMap_eq_nil_iff]
          intro later member
          have other := no_data_of_endsInside split (Nat.le_max_right _ _) (inside index sampled) later member
          rw [rootOwner, other]
          rfl
        rw [split, List.take_append_of_le_length bound]
        conv_rhs => rw [← List.take_append_drop (env.lookedAt index available) front, owned_append, rest, List.append_nil]
      refine .inr ⟨index, ?_, ⟨file, mem_drop_upTo ordered (within found inFront) here listedFile data outside less, data⟩, ?_⟩
      · rw [split]
        exact firstRead_append_of_some sampled
      · rw [taken]
        exact sampledFiles_of_cut seen listed sampled

theorem owned_sorted (ordered : env.ListsInOrder) : (env.owned env.rootFiles).Pairwise fun a b => a.1.path < b.1.path := by
  apply List.Pairwise.filterMap _ _ ordered
  intro a b less found here other there
  obtain ⟨_, -, rfl⟩ := Option.map_eq_some_iff.mp here
  obtain ⟨_, -, rfl⟩ := Option.map_eq_some_iff.mp there
  exact less

/-- The last run of the files seen, cut off. -/
theorem lastRun_eq {seen : List (OpenFileInfo × env.Index)} {owner : env.Index} (last : env.lastOwner seen = some owner) :
    env.beforeLastRun seen = seen.rdropWhile fun one => decide (owner = one.2) := by
  unfold beforeLastRun
  rw [last]
  simp only [Option.some.injEq]

theorem cutSample_subset {seen : List (OpenFileInfo × env.Index)} {found : OpenFileInfo × env.Index}
    (member : found ∈ env.cutSample index seen) : found ∈ seen := by
  unfold cutSample at member
  split_ifs at member
  · exact member
  · exact beforeLastRun_front.subset member

/-- Files of another partition than the last one are kept. -/
theorem mem_cutSample {seen : List (OpenFileInfo × env.Index)} {found : OpenFileInfo × env.Index} (member : found ∈ seen)
    (other : env.lastOwner seen = some index ∨ env.lastOwner seen ≠ some found.2) : found ∈ env.cutSample index seen := by
  unfold cutSample
  split_ifs with own
  · exact member
  · exact mem_rdropWhile_of_not member (decide_eq_false (other.resolve_left own))

/-- A partition of which nothing was cut off, and nothing is left, is sampled whole. -/
theorem whole_of_endsBetween {seen behind : List (OpenFileInfo × env.Index)} (ends : env.EndsBetween index seen behind)
    (gone : ∀ later ∈ behind, later.2 ≠ index) {found other : OpenFileInfo × env.Index}
    (sampled : found ∈ env.cutSample index seen) (listed : other ∈ seen ++ behind) (same : other.2 = found.2) :
    other ∈ env.cutSample index seen := by
  have inSeen := cutSample_subset sampled
  cases last : env.lastOwner seen with
  | none =>
      have empty : seen = [] := by simpa [lastOwner] using last
      rw [empty] at inSeen
      cases inSeen
  | some owner =>
      have differs : owner = index ∨ found.2 ≠ owner := by
        by_cases own : owner = index
        · exact .inl own
        · right
          obtain ⟨front, run, rfl, apart, alike⟩ := ends.last owner last own
          unfold cutSample at sampled
          rw [last, if_neg fun equal => own (Option.some.inj equal), lastRun_eq last] at sampled
          have kept : ∀ one ∈ front, decide (owner = one.2) = false := by
            intro one member
            exact decide_eq_false fun equal => apart one member equal.symm
          have cut : ∀ one ∈ run, decide (owner = one.2) = true := by
            intro one member
            exact decide_eq_true (alike one member).symm
          rw [rdropWhile_of_split cut kept] at sampled
          exact apart found sampled
      rcases List.mem_append.mp listed with front | back
      · apply mem_cutSample front
        rw [last, same]
        rcases differs with own | differs
        · exact .inl (congrArg some own)
        · exact .inr fun equal => differs (Option.some.inj equal).symm
      · have atLast := ends.others found inSeen other back same
        rw [last] at atLast
        have isOwner : owner = found.2 := Option.some.inj atLast
        rcases differs with own | differs
        · exact absurd (same.trans (isOwner.symm.trans own)) (gone other back)
        · exact absurd isOwner.symm differs

/-- A sample of whole partitions ends between partitions. -/
theorem endsBetween_of_whole {seen behind : List (OpenFileInfo × env.Index)}
    (sorted : (seen ++ behind).Pairwise fun a b => a.1.path < b.1.path)
    (whole : ∀ found ∈ env.cutSample index seen, ∀ other ∈ seen ++ behind, other.2 = found.2 →
      other ∈ env.cutSample index seen) : env.EndsBetween index seen behind := by
  obtain ⟨sortedSeen, -, across⟩ := List.pairwise_append.mp sorted
  constructor
  · intro found inSeen later inBehind same
    by_contra other
    have sampled := mem_cutSample inSeen (.inr other : env.lastOwner seen = some index ∨ _)
    have back := cutSample_subset (whole found sampled later (List.mem_append_right _ inBehind) same)
    exact List.lt_irrefl _ (across later back later inBehind)
  · intro owner last other
    refine ⟨env.beforeLastRun seen, seen.rtakeWhile fun one => decide (owner = one.2), ?_, ?_, ?_⟩
    · rw [lastRun_eq last]
      exact List.rdropWhile_append_rtakeWhile.symm
    · intro found kept isOwner
      have cutOff : env.cutSample index seen = env.beforeLastRun seen := by
        unfold cutSample
        rw [last, if_neg fun equal => other (Option.some.inj equal)]
      have some_ : seen ≠ [] := List.ne_nil_of_mem (beforeLastRun_front.subset kept)
      have lastIs : (seen.getLast some_).2 = owner := by
        unfold lastOwner at last
        rw [List.getLast?_eq_some_getLast some_] at last
        exact Option.some.inj last
      rw [cutOff] at whole
      have back := whole found kept (seen.getLast some_) (List.mem_append_left _ (List.getLast_mem some_))
        (lastIs.trans isOwner.symm)
      have run := getLast_mem_rtakeWhile some_ (p := fun one => decide (owner = one.2)) (decide_eq_true lastIs.symm)
      rw [lastRun_eq last] at back
      rw [← List.rdropWhile_append_rtakeWhile (p := fun one => decide (owner = one.2)) (l := seen)] at sortedSeen
      exact List.lt_irrefl _ ((List.pairwise_append.mp sortedSeen).2.2 _ back _ run)
    · intro found run
      have isOwner := List.mem_rtakeWhile_imp run
      exact (of_decide_eq_true isOwner).symm

/-- A sample is of whole partitions exactly when what it looks at ends between partitions;
a partition read that has a data file is always in it. -/
theorem sampledFiles_iff (ordered : env.ListsInOrder) (reading : List env.Index) (available : ℕ) :
    env.SamplesPartitions reading (sampledFiles reading available) ↔ env.SampleEndsBetween reading available := by
  rcases sampledFiles_cases ordered reading available with ⟨all, nothing⟩ | ⟨index, first, beyond, sample⟩
  · rw [all]
    apply iff_of_true
    · exact ⟨fun _ _ other listed _ => listed, id⟩
    · intro index first ⟨file, member, data⟩
      rw [nothing index first file member] at data
      cases data
  · rw [sample]
    have split : env.owned env.rootFiles = env.owned (env.rootFiles.take (env.lookedAt index available)) ++
        env.owned (env.rootFiles.drop (env.lookedAt index available)) := by
      rw [← owned_append, List.take_append_drop]
    have gone : ∀ later ∈ env.owned (env.rootFiles.drop (env.lookedAt index available)), later.2 ≠ index := by
      intro later member isIndex
      obtain ⟨dropped, here⟩ := mem_owned.mp member
      have outside := of_mem_drop_upTo (Nat.le_max_right _ _) dropped (rootOwner_eq_some here).1
      rw [← isIndex, isInside_of_owner here] at outside
      cases outside
    constructor
    · intro samples index' first' _
      rw [first] at first'
      cases first'
      have sorted := owned_sorted ordered
      rw [split] at sorted
      have whole := samples.whole
      rw [split] at whole
      exact endsBetween_of_whole sorted whole
    · intro ends
      have between := ends index first beyond
      constructor
      · intro found sampled other listed same
        rw [split] at listed
        exact whole_of_endsBetween between gone sampled listed same
      · intro _
        obtain ⟨read, file, member⟩ := firstRead_eq_some first
        rw [split] at member
        have seen := (List.mem_append.mp member).resolve_right fun back => gone _ back rfl
        refine ⟨(file, index), mem_cutSample seen ?_, read⟩
        exact Classical.em (env.lastOwner _ = some index)

/-- A partition registered inside another one, whose files are on both sides of its own. -/
def partitionAround : HiveListing where
  scan := { tableName := "events", rootLocation := "s3://bucket/events", partitionKeys := ["day".toList] }
  partitions := [⟨["1".toList], "s3://bucket/events/day=1", [], [], ∅, []⟩,
    ⟨["2".toList], "s3://bucket/events/day=2", [], [], ∅, []⟩,
    ⟨["3".toList], "s3://bucket/events/day=2/late", [], [], ∅, []⟩]
  fs := .ofObjects [⟨"s3://bucket/events/day=1/a.parquet", some 10⟩, ⟨"s3://bucket/events/day=2/a.parquet", some 20⟩,
    ⟨"s3://bucket/events/day=2/late/b.parquet", some 30⟩, ⟨"s3://bucket/events/day=2/z.parquet", some 40⟩]
  db := ⟨fun _ => none⟩
  threads := 2

theorem sampled_whole_around :
    partitionAround.SamplesPartitions [⟨0, by decide⟩] (sampledFiles [⟨0, by decide⟩] 1) := by
  apply (sampledFiles_iff (by decide +kernel) [⟨0, by decide⟩] 1).mpr
  intro index first _
  have read : partitionAround.firstRead [⟨0, by decide⟩] partitionAround.rootFiles = some ⟨0, by decide⟩ := by
    decide +kernel
  cases read.symm.trans first
  constructor
  · decide +kernel
  · intro owner last other
    have sampled : partitionAround.lastOwner (partitionAround.owned (partitionAround.rootFiles.take
        (partitionAround.lookedAt ⟨0, by decide⟩ 1))) = some ⟨0, by decide⟩ := by
      decide +kernel
    exact absurd (Option.some.inj (last.symm.trans sampled)) other

theorem sampled_apart : ¬∀ (env : HiveListing), env.ListsInOrder → ∀ reading : List env.Index, reading ≠ [] →
    ∀ available, env.SamplesPartitions reading (sampledFiles reading available) := by
  intro always
  let reading : List partitionAround.Index := [⟨0, by decide⟩]
  let sample := sampledFiles reading 4
  let around : partitionAround.Index := ⟨1, by decide⟩
  have samples := always partitionAround (by decide +kernel) reading (by decide) 4
  have found : (⟨"s3://bucket/events/day=2/a.parquet", some 20⟩, around) ∈ sample := by decide +kernel
  have listed : (⟨"s3://bucket/events/day=2/z.parquet", some 40⟩, around) ∈ partitionAround.owned partitionAround.rootFiles := by
    decide +kernel
  have cut : (⟨"s3://bucket/events/day=2/z.parquet", some 40⟩, around) ∉ sample := by decide +kernel
  exact cut (samples.whole _ found _ listed rfl)

end Sample

section Unnested

variable {env : HiveListing} {index : env.Index}

/-- Seen and left files of one partition have only its files between them. -/
theorem owner_between (unnested : env.Unnested) {a b c : OpenFileInfo × env.Index}
    (listed : a ∈ env.owned env.rootFiles ∧ b ∈ env.owned env.rootFiles ∧ c ∈ env.owned env.rootFiles)
    (same : c.2 = a.2) (first : a.1.path < b.1.path) (second : b.1.path < c.1.path) : b.2 = a.2 := by
  obtain ⟨listedA, ownerA⟩ := mem_owned.mp listed.1
  obtain ⟨listedB, ownerB⟩ := mem_owned.mp listed.2.1
  obtain ⟨listedC, ownerC⟩ := mem_owned.mp listed.2.2
  rw [same] at ownerC
  have dataB := (rootOwner_eq_some ownerB).1
  have inside := isInside_between ⟨a.1, listedA, ownerA⟩ ⟨listedA, listedB, listedC⟩
    ⟨(rootOwner_eq_some ownerA).1, dataB, (rootOwner_eq_some ownerC).1⟩ first second
    (isInside_of_owner ownerA) (isInside_of_owner ownerC)
  have owner := unnested a listed.1 b.1 listedB dataB inside
  exact Option.some.inj (ownerB.symm.trans owner)

/-- Where no partition's files lie among another's, every sample ends between partitions. -/
theorem sampleEndsBetween_of_unnested (ordered : env.ListsInOrder) (unnested : env.Unnested) (reading : List env.Index)
    (available : ℕ) : env.SampleEndsBetween reading available := by
  intro index first beyond
  have split : env.owned env.rootFiles = env.owned (env.rootFiles.take (env.lookedAt index available)) ++
      env.owned (env.rootFiles.drop (env.lookedAt index available)) := by
    rw [← owned_append, List.take_append_drop]
  have sorted := owned_sorted ordered
  generalize env.owned (env.rootFiles.take (env.lookedAt index available)) = seen at split ⊢
  generalize env.owned (env.rootFiles.drop (env.lookedAt index available)) = behind at split ⊢
  have seenListed : ∀ found ∈ seen, found ∈ env.owned env.rootFiles := by
    intro found member
    rw [split]
    exact List.mem_append_left _ member
  rw [split] at sorted
  obtain ⟨sortedSeen, -, across⟩ := List.pairwise_append.mp sorted
  constructor
  · intro found inSeen later inBehind same
    have some_ := List.ne_nil_of_mem inSeen
    have lastIn := List.getLast_mem some_
    have lastIs : env.lastOwner seen = some (seen.getLast some_).2 := by
      rw [lastOwner, List.getLast?_eq_some_getLast some_]
      rfl
    rw [lastIs]
    by_cases last : found = seen.getLast some_
    · rw [← last]
    · have listedLater : later ∈ env.owned env.rootFiles := by
        rw [split]
        exact List.mem_append_right _ inBehind
      congr 1
      exact owner_between unnested ⟨seenListed _ inSeen, seenListed _ lastIn, listedLater⟩ same
        (lt_getLast sortedSeen some_ inSeen last) (across _ lastIn _ inBehind)
  · intro owner last _
    refine ⟨env.beforeLastRun seen, seen.rtakeWhile fun one => decide (owner = one.2), ?_, ?_, ?_⟩
    · rw [lastRun_eq last]
      exact List.rdropWhile_append_rtakeWhile.symm
    · intro found kept isOwner
      -- what ends the front is of another partition, between two files of the last one
      rw [lastRun_eq last] at kept
      have front := List.ne_nil_of_mem kept
      have other := List.rdropWhile_last_not _ _ front
      have frontIn := (List.rdropWhile_prefix _ _).subset (List.getLast_mem front)
      have some_ := List.ne_nil_of_mem frontIn
      have lastIs : (seen.getLast some_).2 = owner := by
        rw [lastOwner, List.getLast?_eq_some_getLast some_] at last
        exact Option.some.inj last
      apply other
      have before : found.1.path < (List.getLast _ front).1.path := by
        apply lt_getLast (sortedSeen.sublist (List.rdropWhile_prefix _ _).sublist) front kept
        intro equal
        rw [equal] at isOwner
        exact other (decide_eq_true isOwner.symm)
      have behind : (List.getLast _ front).1.path < (seen.getLast some_).1.path := by
        apply lt_getLast sortedSeen some_ frontIn
        intro equal
        rw [equal] at other
        exact other (decide_eq_true lastIs.symm)
      have between := owner_between unnested ⟨seenListed _ ((List.rdropWhile_prefix _ _).subset kept),
        seenListed _ frontIn, seenListed _ (List.getLast_mem some_)⟩ (lastIs.trans isOwner.symm) before behind
      exact decide_eq_true (isOwner.symm.trans between.symm)
    · intro found run
      have isOwner := List.mem_rtakeWhile_imp run
      exact (of_decide_eq_true isOwner).symm

end Unnested

end HiveMultiFileList

end DuckGlue
