import DuckGlue.Catalog.TableVersions
import DuckGlue.Lib.VersionedCell
import DuckGlue.Planning.InsertReadsBack

/-! # Updates of one table by many clients

Every update of a table names the version of the definition it was built from, and Glue
refuses it if the table has another. The clients are connections, of which those of one
DuckDB instance share the entry of the table; any of them acts between two steps of
another.
-/

namespace DuckGlue

open StringUtil GlueSchemaEntry GluePartitionFunctions Fallible VersionedCell

namespace TableUpdates

/-- Where a client is in its statement. -/
inductive Phase where
  | idle
  /-- ALTER TABLE found its entry, before `DefinitionForWrite`. -/
  | bound (tableName : Text) (info : AlterInfo) (entry : GlueTableInfo)
  /-- The checks passed; a stale definition is one the statement has itself replaced. -/
  | working (statement : TableStatement) (definition : GlueTableInfo) (stale : Bool) (work : List TableWork)

structure ClientState where
  connectionScoped : Bool := false
  transactionCache : Option GlueTableInfo := none
  connectionCache : Option GlueTableInfo := none
  phase : Phase := .idle
  /-- The statements begun so far. -/
  number : ℕ := 0

/-- An update Glue accepted. -/
structure LogEntry (Client : Type) where
  client : Client
  number : ℕ
  statement : TableStatement
  update : TableUpdate
  replaced : GlueTableInfo
  produced : GlueTableInfo

inductive Outcome where
  | succeeded
  /-- It threw before its checks had passed. -/
  | refused
  /-- It threw with this left to do, at the first of it. -/
  | failed (rest : List TableWork)
  /-- The answer of an update Glue accepted was lost. -/
  | unanswered (update : TableUpdate) (rest : List TableWork)

structure Finished (Client : Type) where
  client : Client
  number : ℕ
  statement : TableStatement
  outcome : Outcome

/-- Glue's definition of the table, the entries of the instances, the connections, and
what has happened. -/
structure UpdateState (Client Instance : Type) where
  glue : GlueTableInfo
  /-- The version ids Glue has given. -/
  versions : List Text
  entries : Instance → Option GlueTableInfo := fun _ => none
  clients : Client → ClientState := fun _ => {}
  log : List (LogEntry Client) := []
  finished : List (Finished Client) := []

variable {Client Instance : Type} [DecidableEq Client]

namespace UpdateState

variable (s : UpdateState Client Instance) (c : Client)

def setClient (client : ClientState) : UpdateState Client Instance :=
  { s with clients := Function.update s.clients c client }

def setPhase (phase : Phase) : UpdateState Client Instance := s.setClient c { s.clients c with phase }

def cached : Option GlueTableInfo :=
  if (s.clients c).connectionScoped then (s.clients c).connectionCache else (s.clients c).transactionCache

def setCached (definition : Option GlueTableInfo) : UpdateState Client Instance :=
  if (s.clients c).connectionScoped then s.setClient c { s.clients c with connectionCache := definition }
  else s.setClient c { s.clients c with transactionCache := definition }

/-- The statement of the client ends. -/
def finish (statement : TableStatement) (outcome : Outcome) : UpdateState Client Instance :=
  { s.setPhase c .idle with
    finished := s.finished ++ [⟨c, (s.clients c).number, statement, outcome⟩] }

/-- The statement goes on to its work if its checks passed. -/
def start (functions : StatementFunctions) (statement : TableStatement) (bound definition : GlueTableInfo) :
    UpdateState Client Instance :=
  match statement.check functions bound definition with
  | .ok work => s.setPhase c (.working statement definition false work)
  | .error _ => s.finish c statement .refused

/-- A new statement of the client. -/
def begin (phase : Phase) : UpdateState Client Instance :=
  s.setClient c { s.clients c with phase, number := (s.clients c).number + 1 }

/-- Glue accepts an update built from the definition. -/
def accept (statement : TableStatement) (definition : GlueTableInfo) (update : TableUpdate) (versionId : Text) :
    UpdateState Client Instance :=
  let produced := { update.apply definition with versionId }
  { s.setCached c none with
    glue := produced
    versions := versionId :: s.versions
    log := s.log ++ [⟨c, (s.clients c).number, statement, update, s.glue, produced⟩] }

/-- Glue has the definition, and no client knows it. -/
def initially (definition : GlueTableInfo) : UpdateState Client Instance where
  glue := definition
  versions := [definition.versionId]

variable [DecidableEq Instance] (home : Client → Instance)

def setEntry (definition : GlueTableInfo) : UpdateState Client Instance :=
  { s with entries := Function.update s.entries (home c) (some definition) }

/-- `GetEntry`: the entry of the version the cache has or Glue gives. -/
def getEntry : UpdateState Client Instance × GlueTableInfo :=
  let definition := (s.cached c).getD s.glue
  let s := s.setCached c (some definition)
  match s.entries (home c) with
  | some entry => if entry.isSameVersion definition then (s, entry) else (s.setEntry c home definition, definition)
  | none => (s.setEntry c home definition, definition)

/-- `DefinitionForWrite` -/
def definitionForWrite (entry : GlueTableInfo) : UpdateState Client Instance × GlueTableInfo :=
  if !(s.clients c).connectionScoped then (s, entry)
  else if entry.isSameVersion s.glue then (s, entry)
  else (s.setEntry c home s.glue, s.glue)

end UpdateState

open UpdateState GlueHiveInsert

/-- A statement that fetches the definition when it is bound. -/
def IsFunction : TableStatement → Prop
  | .alter _ _ => False
  | .replaceColumns _ _ _ | .setTableLocation _ | .alterTable _ => True

/-- A step of one client. -/
inductive Step [DecidableEq Instance] (functions : StatementFunctions) (home : Client → Instance) :
    UpdateState Client Instance → Client → UpdateState Client Instance → Prop where
  | setScope {s : UpdateState Client Instance} {c : Client} (idle : (s.clients c).phase = .idle) (connectionScoped : Bool) :
      Step functions home s c (s.setClient c { s.clients c with connectionScoped })
  /-- The transaction of the cache ended, or its definition expired. -/
  | forget {s : UpdateState Client Instance} {c : Client} : Step functions home s c (s.setCached c none)
  | lookup {s : UpdateState Client Instance} {c : Client} (idle : (s.clients c).phase = .idle) :
      Step functions home s c (s.getEntry c home).1
  | beginAlter {s : UpdateState Client Instance} {c : Client} (idle : (s.clients c).phase = .idle) (tableName : Text)
      (info : AlterInfo) :
      Step functions home s c ((s.getEntry c home).1.begin c (.bound tableName info (s.getEntry c home).2))
  | define {s : UpdateState Client Instance} {c : Client} {tableName : Text} {info : AlterInfo} {entry : GlueTableInfo}
      (bound : (s.clients c).phase = .bound tableName info entry) :
      Step functions home s c ((s.definitionForWrite c home entry).1.start c functions (.alter tableName info) entry
        (s.definitionForWrite c home entry).2)
  /-- The fetch of `DefinitionForWrite` fails. -/
  | defineFails {s : UpdateState Client Instance} {c : Client} {tableName : Text} {info : AlterInfo} {entry : GlueTableInfo}
      (bound : (s.clients c).phase = .bound tableName info entry) :
      Step functions home s c (s.finish c (.alter tableName info) .refused)
  | beginFunction {s : UpdateState Client Instance} {c : Client} (idle : (s.clients c).phase = .idle)
      {statement : TableStatement} (isFunction : IsFunction statement) :
      Step functions home s c ((s.begin c .idle).start c functions statement s.glue s.glue)
  | accepted {s : UpdateState Client Instance} {c : Client} {statement : TableStatement} {definition : GlueTableInfo}
      {update : TableUpdate} {rest : List TableWork}
      (next : (s.clients c).phase = .working statement definition false (.update update :: rest))
      (same : definition.versionId = s.glue.versionId) {versionId : Text} (some : versionId ≠ [])
      (fresh : versionId ∉ s.versions) (answered : Bool) :
      Step functions home s c
        (if answered then (s.accept c statement definition update versionId).setPhase c
          (.working statement definition true rest)
        else (s.accept c statement definition update versionId).finish c statement (.unanswered update rest))
  /-- A request fails, also an update of another version than Glue has. -/
  | fails {s : UpdateState Client Instance} {c : Client} {statement : TableStatement} {definition : GlueTableInfo}
      {stale : Bool} {work : List TableWork} (next : (s.clients c).phase = .working statement definition stale work) :
      Step functions home s c (s.finish c statement (.failed work))
  | refetch {s : UpdateState Client Instance} {c : Client} {statement : TableStatement} {definition : GlueTableInfo}
      {update : TableUpdate} {rest : List TableWork}
      (next : (s.clients c).phase = .working statement definition true (.update update :: rest)) :
      Step functions home s c (s.setPhase c (.working statement s.glue false (.update update :: rest)))
  | refresh {s : UpdateState Client Instance} {c : Client} {statement : TableStatement} {definition : GlueTableInfo}
      {stale : Bool} {rest : List TableWork}
      (next : (s.clients c).phase = .working statement definition stale (.refresh :: rest)) :
      Step functions home s c ((s.setEntry c home s.glue).setPhase c (.working statement definition stale rest))
  | partitions {s : UpdateState Client Instance} {c : Client} {statement : TableStatement} {definition : GlueTableInfo}
      {stale : Bool} {rest : List TableWork}
      (next : (s.clients c).phase = .working statement definition stale (.partitions :: rest)) :
      Step functions home s c (s.setPhase c (.working statement definition stale rest))
  | succeeds {s : UpdateState Client Instance} {c : Client} {statement : TableStatement} {definition : GlueTableInfo}
      {stale : Bool} (next : (s.clients c).phase = .working statement definition stale []) :
      Step functions home s c (s.finish c statement .succeeded)

/-- What Glue accepted of a client's statement, in order. -/
def madeBy (log : List (LogEntry Client)) (c : Client) (number : ℕ) : List (TableStatement × TableUpdate) :=
  (log.filter fun entry => entry.client = c && entry.number = number).map fun entry => (entry.statement, entry.update)

/-- The updates among the work of a statement. -/
def updatesBy (statement : TableStatement) (work : List TableWork) : List (TableStatement × TableUpdate) :=
  (TableWork.updates work).map (statement, ·)

theorem updatesBy_append {statement : TableStatement} {work more : List TableWork} :
    updatesBy statement (work ++ more) = updatesBy statement work ++ updatesBy statement more := by
  rw [updatesBy, TableStatement.updates_append, List.map_append]
  rfl

/-- An accepted update is one its statement makes of the version it replaced, with its
checks of that version. -/
structure Sound (functions : StatementFunctions) (entry : LogEntry Client) : Prop where
  checked : ∃ work, entry.statement.check functions entry.replaced entry.replaced = .ok work ∧
    .update entry.update ∈ work
  applied : entry.produced = { entry.update.apply entry.replaced with versionId := entry.produced.versionId }

/-- What the updates of a statement are, by how it ended. -/
def OutcomeSound (functions : StatementFunctions) (versions : List GlueTableInfo) (updates : List (TableStatement × TableUpdate))
    (statement : TableStatement) : Outcome → Prop
  | .succeeded => ∃ definition ∈ versions, ∃ work, statement.check functions definition definition = .ok work ∧
      updates = updatesBy statement work
  | .refused => updates = []
  | .failed rest => ∃ definition ∈ versions, ∃ done,
      statement.check functions definition definition = .ok (done ++ rest) ∧ updates = updatesBy statement done
  | .unanswered update rest => ∃ definition ∈ versions, ∃ done,
      statement.check functions definition definition = .ok (done ++ .update update :: rest) ∧
        updates = updatesBy statement done ++ [(statement, update)]

/-- Where a statement is, by the updates it has made. -/
def PhaseSound (functions : StatementFunctions) (versions : List GlueTableInfo) (updates : List (TableStatement × TableUpdate)) :
    Phase → Prop
  | .idle => True
  | .bound _ _ entry => entry ∈ versions ∧ updates = []
  | .working statement definition stale work => definition ∈ versions ∧ (stale = true → updates ≠ []) ∧
      ∃ done, statement.check functions definition definition = .ok (done ++ work) ∧ updates = updatesBy statement done

/-- The versions of the table, each made of the one before it. -/
structure History (functions : StatementFunctions) (initial glue : GlueTableInfo) (versions : List Text)
    (log : List (LogEntry Client)) : Prop where
  chain : Chain LogEntry.replaced LogEntry.produced initial log glue
  distinct : ((held LogEntry.produced initial log).map (·.versionId)).Nodup
  given : ∀ definition ∈ held LogEntry.produced initial log, definition.versionId ∈ versions
  versioned : ∀ definition ∈ held LogEntry.produced initial log, definition.versionId ≠ []
  evolves : ∀ definition ∈ held LogEntry.produced initial log, Evolves definition glue
  sound : ∀ entry ∈ log, Sound functions entry

structure ClientSound (functions : StatementFunctions) (versions : List GlueTableInfo) (log : List (LogEntry Client))
    (finished : List (Finished Client)) (c : Client) (client : ClientState) : Prop where
  transactionCache : ∀ definition ∈ client.transactionCache, definition ∈ versions
  connectionCache : ∀ definition ∈ client.connectionCache, definition ∈ versions
  phase : PhaseSound functions versions (madeBy log c client.number) client.phase
  logged : ∀ entry ∈ log, entry.client = c → entry.number ≤ client.number
  ended : ∀ done ∈ finished, done.client = c → done.number ≤ client.number
  active : client.phase ≠ .idle → ∀ done ∈ finished, done.client = c → done.number < client.number

/-- What holds in every state: whatever definition a client has is a version of the table. -/
structure Inv (functions : StatementFunctions) (initial : GlueTableInfo) (s : UpdateState Client Instance) : Prop where
  history : History functions initial s.glue s.versions s.log
  entries : ∀ i, ∀ definition ∈ s.entries i, definition ∈ held LogEntry.produced initial s.log
  clients : ∀ c, ClientSound functions (held LogEntry.produced initial s.log) s.log s.finished c (s.clients c)
  outcomes : ∀ done ∈ s.finished, OutcomeSound functions (held LogEntry.produced initial s.log)
    (madeBy s.log done.client done.number) done.statement done.outcome

section Invariant

variable {functions : StatementFunctions} {initial : GlueTableInfo} {home : Client → Instance}
  {s s' : UpdateState Client Instance} {c : Client}

theorem Inv.glue_held (inv : Inv functions initial s) : s.glue ∈ held LogEntry.produced initial s.log :=
  last_mem_held inv.history.chain

/-- Only what the client knows, and the entries, change. -/
structure Moves (initial : GlueTableInfo) (c : Client) (s s' : UpdateState Client Instance) : Prop where
  glue : s'.glue = s.glue
  versions : s'.versions = s.versions
  log : s'.log = s.log
  finished : s'.finished = s.finished
  others : ∀ other, other ≠ c → s'.clients other = s.clients other
  entries : ∀ i, s'.entries i = s.entries i ∨ ∃ definition ∈ held LogEntry.produced initial s.log,
    s'.entries i = some definition

/-- A client that has its statement sound keeps the invariant. -/
theorem Inv.moves (inv : Inv functions initial s) (moves : Moves initial c s s')
    (sound : ClientSound functions (held LogEntry.produced initial s.log) s.log s.finished c (s'.clients c)) :
    Inv functions initial s' := by
  constructor
  · rw [moves.glue, moves.versions, moves.log]
    exact inv.history
  · intro i definition known
    rw [moves.log]
    rcases moves.entries i with kept | ⟨given, isHeld, set⟩
    · rw [kept] at known
      exact inv.entries i definition known
    · rw [set] at known
      cases known
      exact isHeld
  · intro other
    rw [moves.log, moves.finished]
    by_cases same : other = c
    · rw [same]
      exact sound
    · rw [moves.others other same]
      exact inv.clients other
  · rw [moves.log, moves.finished]
    exact inv.outcomes

theorem moves_setClient (client : ClientState) : Moves initial c s (s.setClient c client) where
  glue := rfl
  versions := rfl
  log := rfl
  finished := rfl
  others := fun _ differs => Function.update_of_ne differs _ _
  entries := fun _ => .inl rfl

@[simp]
theorem clients_setClient (client : ClientState) : (s.setClient c client).clients c = client :=
  Function.update_self _ _ _

theorem Inv.setCached (inv : Inv functions initial s) {definition : Option GlueTableInfo}
    (known : ∀ given ∈ definition, given ∈ held LogEntry.produced initial s.log) :
    Inv functions initial (s.setCached c definition) := by
  have sound := inv.clients c
  unfold UpdateState.setCached
  split_ifs
  · apply inv.moves (moves_setClient _)
    rw [clients_setClient]
    exact { sound with connectionCache := known }
  · apply inv.moves (moves_setClient _)
    rw [clients_setClient]
    exact { sound with transactionCache := known }

theorem Inv.cached_held (inv : Inv functions initial s) :
    ∀ definition ∈ s.cached c, definition ∈ held LogEntry.produced initial s.log := by
  have sound := inv.clients c
  unfold UpdateState.cached
  split_ifs
  · exact sound.connectionCache
  · exact sound.transactionCache

@[simp]
theorem log_setCached (definition : Option GlueTableInfo) : (s.setCached c definition).log = s.log := by
  unfold UpdateState.setCached
  split_ifs <;> rfl

theorem madeBy_append (log : List (LogEntry Client)) (entry : LogEntry Client) (number : ℕ) :
    madeBy (log ++ [entry]) c number =
      madeBy log c number ++ if entry.client = c ∧ entry.number = number then [(entry.statement, entry.update)] else [] := by
  unfold madeBy
  rw [List.filter_append, List.map_append]
  congr 1
  by_cases here : entry.client = c ∧ entry.number = number
  · simp [here]
  · rw [if_neg here, List.filter_cons_of_neg (by simpa using here)]
    rfl

theorem madeBy_eq_nil {log : List (LogEntry Client)} {number : ℕ}
    (none : ∀ entry ∈ log, entry.client = c → entry.number ≠ number) : madeBy log c number = [] := by
  unfold madeBy
  rw [List.map_eq_nil_iff, List.filter_eq_nil_iff]
  intro entry member
  simpa using none entry member

/-- A new statement has made no update and is not over. -/
theorem Inv.begin (inv : Inv functions initial s) {phase : Phase}
    (sound : PhaseSound functions (held LogEntry.produced initial s.log) [] phase) :
    Inv functions initial (s.begin c phase) ∧ madeBy s.log c ((s.begin c phase).clients c).number = [] ∧
      ∀ done ∈ s.finished, done.client = c → done.number < ((s.begin c phase).clients c).number := by
  have client := inv.clients c
  have number : ((s.begin c phase).clients c).number = (s.clients c).number + 1 := by
    unfold UpdateState.begin
    rw [clients_setClient]
  have unwritten : madeBy s.log c ((s.clients c).number + 1) = [] := by
    apply madeBy_eq_nil
    intro entry member same
    have earlier := client.logged entry member same
    omega
  have unfinished : ∀ done ∈ s.finished, done.client = c → done.number < (s.clients c).number + 1 := by
    intro done member same
    have earlier := client.ended done member same
    omega
  rw [number]
  refine ⟨inv.moves (moves_setClient _) ?_, unwritten, unfinished⟩
  unfold UpdateState.begin
  rw [clients_setClient]
  constructor
  · exact client.transactionCache
  · exact client.connectionCache
  · dsimp only
    rwa [unwritten]
  · intro entry member same
    exact Nat.le_succ_of_le (client.logged entry member same)
  · intro done member same
    exact Nat.le_succ_of_le (client.ended done member same)
  · exact fun _ => unfinished

/-- A statement goes on. -/
theorem Inv.setPhase (inv : Inv functions initial s) {phase : Phase}
    (sound : PhaseSound functions (held LogEntry.produced initial s.log) (madeBy s.log c (s.clients c).number) phase)
    (unfinished : ∀ done ∈ s.finished, done.client = c → done.number < (s.clients c).number) :
    Inv functions initial (s.setPhase c phase) := by
  apply inv.moves (moves_setClient _)
  rw [clients_setClient]
  exact { inv.clients c with phase := sound, active := fun _ => unfinished }

/-- A statement ends. -/
theorem Inv.finish (inv : Inv functions initial s) {statement : TableStatement} {outcome : Outcome}
    (sound : OutcomeSound functions (held LogEntry.produced initial s.log) (madeBy s.log c (s.clients c).number)
      statement outcome) : Inv functions initial (s.finish c statement outcome) := by
  constructor
  · exact inv.history
  · exact inv.entries
  · intro other
    have client := inv.clients other
    by_cases same : other = c
    · subst same
      have idle : (s.finish other statement outcome).clients other = { s.clients other with phase := .idle } :=
        Function.update_self _ _ _
      rw [idle]
      refine { client with phase := trivial, ended := ?_, active := fun busy => absurd rfl busy }
      intro done member its
      rcases List.mem_append.mp member with earlier | this
      · exact client.ended done earlier its
      · rw [List.mem_singleton.mp this]
    · have kept : (s.finish c statement outcome).clients other = s.clients other := Function.update_of_ne same _ _
      have others : ∀ done ∈ (s.finish c statement outcome).finished, done.client = other → done ∈ s.finished := by
        intro done member its
        rcases List.mem_append.mp member with earlier | this
        · exact earlier
        · rw [List.mem_singleton.mp this] at its
          exact absurd its.symm same
      rw [kept]
      exact { client with
        ended := fun done member its => client.ended done (others done member its) its
        active := fun busy done member its => client.active busy done (others done member its) its }
  · intro done member
    rcases List.mem_append.mp member with earlier | this
    · exact inv.outcomes done earlier
    · rw [List.mem_singleton.mp this]
      exact sound

theorem PhaseSound.mono {versions later : List GlueTableInfo} {updates : List (TableStatement × TableUpdate)} {phase : Phase}
    (more : versions ⊆ later) (sound : PhaseSound functions versions updates phase) :
    PhaseSound functions later updates phase := by
  cases phase with
  | idle => trivial
  | bound => exact ⟨more sound.1, sound.2⟩
  | working => exact ⟨more sound.1, sound.2⟩

theorem OutcomeSound.mono {versions later : List GlueTableInfo} {updates : List (TableStatement × TableUpdate)}
    {statement : TableStatement} {outcome : Outcome} (more : versions ⊆ later)
    (sound : OutcomeSound functions versions updates statement outcome) :
    OutcomeSound functions later updates statement outcome := by
  cases outcome with
  | refused => exact sound
  | succeeded | failed | unanswered =>
      obtain ⟨definition, isHeld, made⟩ := sound
      exact ⟨definition, more isHeld, made⟩

/-- The checks passed, or the statement is refused. -/
theorem Inv.start (inv : Inv functions initial s) {statement : TableStatement} {bound definition : GlueTableInfo}
    (boundHeld : bound ∈ held LogEntry.produced initial s.log)
    (isHeld : definition ∈ held LogEntry.produced initial s.log)
    (unwritten : madeBy s.log c (s.clients c).number = [])
    (unfinished : ∀ done ∈ s.finished, done.client = c → done.number < (s.clients c).number) :
    Inv functions initial (s.start c functions statement bound definition) := by
  have view : bound.isView = definition.isView := by
    have boundType := (inv.history.evolves bound boundHeld).glueTableType
    have type := (inv.history.evolves definition isHeld).glueTableType
    simp only [GlueTableInfo.isView, ← boundType, ← type]
  unfold UpdateState.start
  rw [TableStatement.check_bound view]
  cases passed : statement.check functions definition definition with
  | ok work =>
      apply inv.setPhase _ unfinished
      exact ⟨isHeld, fun stale => absurd stale Bool.false_ne_true, [], passed, unwritten⟩
  | error refused => exact inv.finish unwritten

omit [DecidableEq Client] in
/-- An update that passed its checks of the version it replaces is one more version. -/
theorem History.append {glue : GlueTableInfo} {versions : List Text} {log : List (LogEntry Client)}
    (history : History functions initial glue versions log) {entry : LogEntry Client} (replaced : entry.replaced = glue)
    (sound : Sound functions entry) (given : entry.produced.versionId ≠ [])
    (fresh : entry.produced.versionId ∉ versions) :
    History functions initial entry.produced (entry.produced.versionId :: versions) (log ++ [entry]) := by
  have heldNow : ∀ definition ∈ held LogEntry.produced initial (log ++ [entry]),
      definition ∈ held LogEntry.produced initial log ∨ definition = entry.produced := by
    intro definition isHeld
    rw [held_append_singleton] at isHeld
    simpa using isHeld
  constructor
  · rw [chain_append_singleton, replaced]
    exact ⟨history.chain, rfl⟩
  · apply distinct_append_singleton history.distinct
    intro known
    obtain ⟨definition, isHeld, same⟩ := List.mem_map.mp known
    rw [← same] at fresh
    exact fresh (history.given definition isHeld)
  · intro definition isHeld
    rcases heldNow definition isHeld with earlier | this
    · exact List.mem_cons_of_mem _ (history.given definition earlier)
    · rw [this]
      exact List.mem_cons_self
  · intro definition isHeld
    rcases heldNow definition isHeld with earlier | this
    · exact history.versioned definition earlier
    · rwa [this]
  · have evolved : Evolves glue entry.produced := by
      obtain ⟨work, passed, member⟩ := sound.checked
      rw [sound.applied, ← replaced]
      exact apply_evolves (TableStatement.check_allowed passed member) _
    intro definition isHeld
    rcases heldNow definition isHeld with earlier | this
    · exact (history.evolves definition earlier).trans evolved
    · rw [this]
      exact .refl _
  · intro other member
    rcases List.mem_append.mp member with earlier | this
    · exact history.sound other earlier
    · rw [List.mem_singleton.mp this]
      exact sound

/-- The client of the new entry goes on with what it has left; the others have nothing new. -/
theorem Inv.append (inv : Inv functions initial s) {entry : LogEntry Client} (client : entry.client = c)
    (number : entry.number = (s.clients c).number) (replaced : entry.replaced = s.glue)
    (sound : Sound functions entry) (given : entry.produced.versionId ≠ []) (fresh : entry.produced.versionId ∉ s.versions)
    (unfinished : ∀ done ∈ s.finished, done.client = c → done.number < (s.clients c).number) {phase : Phase}
    (goesOn : PhaseSound functions (held LogEntry.produced initial (s.log ++ [entry]))
      (madeBy s.log c (s.clients c).number ++ [(entry.statement, entry.update)]) phase) :
    Inv functions initial ({ s with
      glue := entry.produced
      versions := entry.produced.versionId :: s.versions
      log := s.log ++ [entry] }.setPhase c phase) := by
  have more : held LogEntry.produced initial s.log ⊆ held LogEntry.produced initial (s.log ++ [entry]) := by
    rw [held_append_singleton]
    exact List.subset_append_left _ _
  have kept : ∀ {other : Client} {n : ℕ}, ¬(entry.client = other ∧ entry.number = n) →
      madeBy (s.log ++ [entry]) other n = madeBy s.log other n := by
    intro other n differs
    rw [madeBy_append, if_neg differs, List.append_nil]
  have inLog : ∀ {added : LogEntry Client}, added ∈ s.log ++ [entry] → added ∈ s.log ∨ added = entry := by
    intro added member
    simpa using member
  constructor
  · exact inv.history.append replaced sound given fresh
  · exact fun i definition known => more (inv.entries i definition known)
  · intro other
    have known := inv.clients other
    by_cases same : other = c
    · subst same
      have clients : ({ s with
          glue := entry.produced
          versions := entry.produced.versionId :: s.versions
          log := s.log ++ [entry] }.setPhase other phase).clients other = { s.clients other with phase } :=
        Function.update_self _ _ _
      rw [clients]
      constructor
      · exact fun definition cached => more (known.transactionCache definition cached)
      · exact fun definition cached => more (known.connectionCache definition cached)
      · dsimp only [UpdateState.setPhase, UpdateState.setClient]
        rwa [madeBy_append, if_pos ⟨client, number⟩]
      · intro added member its
        rcases inLog member with earlier | this
        · exact known.logged added earlier its
        · rw [this, number]
      · exact known.ended
      · exact fun _ => unfinished
    · have clients : ({ s with
          glue := entry.produced
          versions := entry.produced.versionId :: s.versions
          log := s.log ++ [entry] }.setPhase c phase).clients other = s.clients other :=
        Function.update_of_ne same _ _
      have foreign : entry.client ≠ other := by
        rw [client]
        exact Ne.symm same
      rw [clients]
      constructor
      · exact fun definition cached => more (known.transactionCache definition cached)
      · exact fun definition cached => more (known.connectionCache definition cached)
      · dsimp only [UpdateState.setPhase, UpdateState.setClient]
        rw [kept fun both => foreign both.1]
        exact known.phase.mono more
      · intro added member its
        rcases inLog member with earlier | this
        · exact known.logged added earlier its
        · rw [this] at its
          exact absurd its foreign
      · exact known.ended
      · exact known.active
  · intro done member
    dsimp only [UpdateState.setPhase, UpdateState.setClient]
    rw [kept]
    · exact (inv.outcomes done member).mono more
    · rintro ⟨its, last⟩
      have earlier := unfinished done member (its.symm.trans client)
      omega

theorem phase_setCached (definition : Option GlueTableInfo) :
    ((s.setCached c definition).clients c).phase = (s.clients c).phase ∧
      ((s.setCached c definition).clients c).number = (s.clients c).number := by
  unfold UpdateState.setCached
  split_ifs <;> simp

/-- A definition of the version Glue has is the one Glue has. -/
theorem Inv.current (inv : Inv functions initial s) {definition : GlueTableInfo}
    (isHeld : definition ∈ held LogEntry.produced initial s.log) (same : definition.versionId = s.glue.versionId) :
    definition = s.glue :=
  eq_of_version inv.history.distinct isHeld inv.glue_held same

theorem held_accept {statement : TableStatement} {definition : GlueTableInfo} {update : TableUpdate} {versionId : Text} :
    held LogEntry.produced initial s.log ⊆
      held LogEntry.produced initial (s.accept c statement definition update versionId).log := by
  unfold UpdateState.accept
  rw [held_append_singleton]
  exact List.subset_append_left _ _

theorem Inv.accept (inv : Inv functions initial s) {statement : TableStatement} {definition : GlueTableInfo}
    {update : TableUpdate} {rest : List TableWork}
    (next : (s.clients c).phase = .working statement definition false (.update update :: rest))
    (same : definition.versionId = s.glue.versionId) {versionId : Text} (given : versionId ≠ [])
    (fresh : versionId ∉ s.versions) {phase : Phase}
    (goesOn : PhaseSound functions (held LogEntry.produced initial (s.accept c statement definition update versionId).log)
      (madeBy s.log c (s.clients c).number ++ [(statement, update)]) phase) :
    Inv functions initial ((s.accept c statement definition update versionId).setPhase c phase) := by
  have client := inv.clients c
  have working := client.phase
  rw [next] at working
  obtain ⟨isHeld, _, done, passed, _⟩ := working
  have current := inv.current isHeld same
  subst current
  have forgotten : Inv functions initial (s.setCached c none) := by
    apply inv.setCached
    intro given none
    cases none
  have frame : (s.setCached c none).glue = s.glue ∧ (s.setCached c none).versions = s.versions ∧
      (s.setCached c none).finished = s.finished := by
    unfold UpdateState.setCached
    split_ifs <;> exact ⟨rfl, rfl, rfl⟩
  obtain ⟨glue, versions, finished⟩ := frame
  obtain ⟨_, number⟩ := phase_setCached (s := s) (c := c) none
  have busy : (s.clients c).phase ≠ .idle := by
    rw [next]
    simp
  let entry : LogEntry Client :=
    ⟨c, (s.clients c).number, statement, update, s.glue, { update.apply s.glue with versionId }⟩
  have sound : Sound functions entry := ⟨⟨_, passed, List.mem_append_right _ List.mem_cons_self⟩, rfl⟩
  have unfolded : s.accept c statement s.glue update versionId = { s.setCached c none with
      glue := entry.produced
      versions := entry.produced.versionId :: (s.setCached c none).versions
      log := (s.setCached c none).log ++ [entry] } := by
    rw [versions, log_setCached]
    rfl
  rw [unfolded]
  apply forgotten.append rfl
  · exact number.symm
  · exact glue.symm
  · exact sound
  · exact given
  · rwa [versions]
  · rw [finished, number]
    exact client.active busy
  · rw [log_setCached, number]
    exact goesOn

theorem Inv.answered (inv : Inv functions initial s) {statement : TableStatement} {definition : GlueTableInfo}
    {update : TableUpdate} {rest : List TableWork}
    (next : (s.clients c).phase = .working statement definition false (.update update :: rest))
    (same : definition.versionId = s.glue.versionId) {versionId : Text} (given : versionId ≠ [])
    (fresh : versionId ∉ s.versions) :
    Inv functions initial
      ((s.accept c statement definition update versionId).setPhase c (.working statement definition true rest)) := by
  have sound := (inv.clients c).phase
  rw [next] at sound
  obtain ⟨isHeld, _, done, passed, made⟩ := sound
  apply inv.accept next same given fresh
  refine ⟨held_accept isHeld, fun _ => by simp, done ++ [.update update], ?_, ?_⟩
  · rwa [List.append_assoc]
  · rw [updatesBy_append, made]
    rfl

/-- The statement ends without knowing that its update was accepted. -/
theorem Inv.unanswered (inv : Inv functions initial s) {statement : TableStatement} {definition : GlueTableInfo}
    {update : TableUpdate} {rest : List TableWork}
    (next : (s.clients c).phase = .working statement definition false (.update update :: rest))
    (same : definition.versionId = s.glue.versionId) {versionId : Text} (given : versionId ≠ [])
    (fresh : versionId ∉ s.versions) :
    Inv functions initial
      ((s.accept c statement definition update versionId).finish c statement (.unanswered update rest)) := by
  have sound := (inv.clients c).phase
  rw [next] at sound
  obtain ⟨isHeld, _, done, passed, made⟩ := sound
  have ended := inv.accept next same given fresh (show PhaseSound functions _ _ .idle from trivial)
  have number : (((s.accept c statement definition update versionId).setPhase c .idle).clients c).number =
      (s.clients c).number := by
    unfold UpdateState.setPhase
    rw [clients_setClient]
    exact (phase_setCached none).2
  have finished : (s.accept c statement definition update versionId).finish c statement (.unanswered update rest) =
      ((s.accept c statement definition update versionId).setPhase c .idle).finish c statement
        (.unanswered update rest) := by
    simp [UpdateState.finish, UpdateState.setPhase, UpdateState.setClient]
  rw [finished]
  apply ended.finish
  refine ⟨definition, held_accept isHeld, done, passed, ?_⟩
  rw [number, ← made]
  exact (madeBy_append s.log _ _).trans (by rw [if_pos ⟨rfl, rfl⟩])

/-- Work without an update changes only what is left of the statement. -/
theorem Inv.passes (inv : Inv functions initial s) {statement : TableStatement} {definition : GlueTableInfo}
    {stale : Bool} {item : TableWork} {rest : List TableWork}
    (next : (s.clients c).phase = .working statement definition stale (item :: rest))
    (none : updatesBy statement [item] = []) :
    Inv functions initial (s.setPhase c (.working statement definition stale rest)) := by
  have client := inv.clients c
  have sound := client.phase
  rw [next] at sound
  obtain ⟨isHeld, isStale, done, passed, made⟩ := sound
  apply inv.setPhase
  · refine ⟨isHeld, isStale, done ++ [item], ?_, ?_⟩
    · rwa [List.append_assoc]
    · rw [updatesBy_append, none, List.append_nil]
      exact made
  · apply client.active
    rw [next]
    simp

/-- A definition a statement has itself replaced is one of glue_alter_table, which binds to
the new one as it did. -/
theorem Inv.refetch (inv : Inv functions initial s) {statement : TableStatement} {definition : GlueTableInfo}
    {update : TableUpdate} {rest : List TableWork}
    (next : (s.clients c).phase = .working statement definition true (.update update :: rest)) :
    Inv functions initial (s.setPhase c (.working statement s.glue false (.update update :: rest))) := by
  have client := inv.clients c
  have sound := client.phase
  rw [next] at sound
  obtain ⟨isHeld, isStale, done, passed, made⟩ := sound
  have some : TableWork.updates done ≠ [] := by
    intro none
    apply isStale rfl
    rw [made, updatesBy, none]
    rfl
  have repeated : ∃ actions, statement = .alterTable actions := by
    rcases TableStatement.check_single passed with single | alterTable
    · rw [TableStatement.updates_append, List.length_append] at single
      have first := List.length_pos_of_ne_nil some
      have second : 0 < (TableWork.updates (.update update :: rest)).length := Nat.succ_pos _
      omega
    · exact alterTable
  obtain ⟨actions, rfl⟩ := repeated
  apply inv.setPhase
  · have again : TableStatement.check functions s.glue s.glue (.alterTable actions) = .ok (done ++ .update update :: rest) :=
      TableStatement.check_alterTable_evolves (inv.history.evolves definition isHeld) passed
    exact ⟨inv.glue_held, fun stale => absurd stale Bool.false_ne_true, done, again, made⟩
  · apply client.active
    rw [next]
    simp

variable [DecidableEq Instance]

theorem Inv.setEntry (inv : Inv functions initial s) {definition : GlueTableInfo}
    (isHeld : definition ∈ held LogEntry.produced initial s.log) : Inv functions initial (s.setEntry c home definition) := by
  have moves : Moves initial c s (s.setEntry c home definition) := by
    constructor
    case entries =>
      intro i
      by_cases same : i = home c
      · right
        refine ⟨definition, isHeld, ?_⟩
        rw [same]
        exact Function.update_self _ _ _
      · left
        exact Function.update_of_ne same _ _
    all_goals intros; rfl
  exact inv.moves moves (inv.clients c)

@[simp]
theorem log_getEntry : (s.getEntry c home).1.log = s.log := by
  unfold UpdateState.getEntry
  dsimp only
  split
  · split_ifs <;> exact log_setCached _
  · exact log_setCached _

theorem Inv.getEntry (home : Client → Instance) (c : Client) (inv : Inv functions initial s) : Inv functions initial (s.getEntry c home).1 ∧
    (s.getEntry c home).2 ∈ held LogEntry.produced initial s.log := by
  have known : (s.cached c).getD s.glue ∈ held LogEntry.produced initial s.log := by
    cases cached : s.cached c with
    | none => exact inv.glue_held
    | some definition => exact inv.cached_held definition cached
  have fetched : Inv functions initial (s.setCached c (some ((s.cached c).getD s.glue))) := by
    apply inv.setCached
    intro given same
    cases same
    exact known
  have entered : Inv functions initial
      ((s.setCached c (some ((s.cached c).getD s.glue))).setEntry c home ((s.cached c).getD s.glue)) := by
    apply fetched.setEntry
    rw [log_setCached]
    exact known
  unfold UpdateState.getEntry
  dsimp only
  split
  · rename_i entry present
    split_ifs
    · refine ⟨fetched, ?_⟩
      have isHeld := fetched.entries _ entry present
      rwa [log_setCached] at isHeld
    · exact ⟨entered, known⟩
  · exact ⟨entered, known⟩

theorem Inv.definitionForWrite (home : Client → Instance) (c : Client) (inv : Inv functions initial s) {entry : GlueTableInfo}
    (isHeld : entry ∈ held LogEntry.produced initial s.log) :
    Inv functions initial (s.definitionForWrite c home entry).1 ∧
      (s.definitionForWrite c home entry).2 ∈ held LogEntry.produced initial s.log := by
  unfold UpdateState.definitionForWrite
  split_ifs
  · exact ⟨inv, isHeld⟩
  · exact ⟨inv, isHeld⟩
  · exact ⟨inv.setEntry inv.glue_held, inv.glue_held⟩

omit [DecidableEq Client] in
theorem definitionForWrite_frame (home : Client → Instance) (s : UpdateState Client Instance) (c : Client)
    (entry : GlueTableInfo) :
    (s.definitionForWrite c home entry).1.log = s.log ∧ (s.definitionForWrite c home entry).1.clients = s.clients ∧
      (s.definitionForWrite c home entry).1.finished = s.finished := by
  unfold UpdateState.definitionForWrite
  split_ifs <;> exact ⟨rfl, rfl, rfl⟩

/-- What one step of a client keeps. -/
theorem step_inv (stepped : Step functions home s c s') (inv : Inv functions initial s) : Inv functions initial s' := by
  have client := inv.clients c
  cases stepped with
  | setScope idle connectionScoped =>
      apply inv.moves (moves_setClient _)
      rw [clients_setClient]
      exact { client with }
  | forget =>
      apply inv.setCached
      intro given none
      cases none
  | lookup idle => exact (inv.getEntry home c).1
  | beginAlter idle tableName info =>
      obtain ⟨found, isHeld⟩ := inv.getEntry home c
      apply (found.begin _).1
      rw [log_getEntry]
      exact ⟨isHeld, rfl⟩
  | @define tableName info entry bound =>
      have sound := client.phase
      rw [bound] at sound
      obtain ⟨isHeld, unwritten⟩ := sound
      obtain ⟨fetched, definitionHeld⟩ := inv.definitionForWrite home c isHeld
      obtain ⟨log, clients, finished⟩ := definitionForWrite_frame home s c entry
      apply fetched.start
      · rwa [log]
      · rwa [log]
      · rwa [log, clients]
      · rw [clients, finished]
        apply client.active
        rw [bound]
        simp
  | defineFails bound =>
      have sound := client.phase
      rw [bound] at sound
      exact inv.finish sound.2
  | beginFunction idle isFunction =>
      obtain ⟨begun, unwritten, unfinished⟩ := inv.begin (c := c) (show PhaseSound functions _ [] .idle from trivial)
      exact begun.start inv.glue_held inv.glue_held unwritten unfinished
  | accepted next same given fresh answered =>
      cases answered with
      | true => exact inv.answered next same given fresh
      | false => exact inv.unanswered next same given fresh
  | fails next =>
      have sound := client.phase
      rw [next] at sound
      obtain ⟨isHeld, _, done, passed, made⟩ := sound
      exact inv.finish ⟨_, isHeld, done, passed, made⟩
  | refetch next => exact inv.refetch next
  | refresh next => exact (inv.setEntry inv.glue_held).passes next rfl
  | partitions next => exact inv.passes next rfl
  | succeeds next =>
      have sound := client.phase
      rw [next] at sound
      obtain ⟨isHeld, _, done, passed, made⟩ := sound
      rw [List.append_nil] at passed
      exact inv.finish ⟨_, isHeld, done, passed, made⟩

end Invariant

/-- The accepted updates are as if made one after another, each of the version before it
with the checks of that version, and every statement that is over made those of its work
it got to. -/
structure Serial (functions : StatementFunctions) (initial : GlueTableInfo) (s : UpdateState Client Instance) : Prop where
  chain : Chain LogEntry.replaced LogEntry.produced initial s.log s.glue
  distinct : ((held LogEntry.produced initial s.log).map (·.versionId)).Nodup
  sound : ∀ entry ∈ s.log, Sound functions entry
  outcomes : ∀ done ∈ s.finished, OutcomeSound functions (held LogEntry.produced initial s.log)
    (madeBy s.log done.client done.number) done.statement done.outcome

variable {functions : StatementFunctions} {initial : GlueTableInfo}

theorem inv_initially (versioned : initial.versionId ≠ []) :
    Inv functions initial (.initially initial : UpdateState Client Instance) := by
  have only : ∀ definition ∈ held LogEntry.produced initial ([] : List (LogEntry Client)), definition = initial :=
    fun _ => List.mem_singleton.mp
  constructor
  · constructor
    · rfl
    · exact List.nodup_singleton _
    · intro definition isHeld
      rw [only definition isHeld]
      exact List.mem_cons_self
    · intro definition isHeld
      rwa [only definition isHeld]
    · intro definition isHeld
      rw [only definition isHeld]
      exact .refl initial
    · intro entry member
      cases member
  · intro i definition known
    cases known
  · intro c
    constructor
    · intro definition known
      cases known
    · intro definition known
      cases known
    · trivial
    · intro entry member
      cases member
    · intro done member
      cases member
    · intro busy
      exact absurd rfl busy
  · intro done member
    cases member

/-- However the clients' steps interleave, no update is lost. -/
theorem serial_of_run [DecidableEq Instance] {home : Client → Instance} {s : UpdateState Client Instance}
    {labels : List Client} (versioned : initial.versionId ≠ [])
    (run : Run (Step functions home) (.initially initial) labels s) : Serial functions initial s := by
  have inv : Inv functions initial s := run.invariant step_inv (inv_initially versioned)
  exact ⟨inv.history.chain, inv.history.distinct, inv.history.sound, inv.outcomes⟩

section Examples

/-- `COMMENT ON TABLE`, of a table without comments. -/
def commentOn (comment : Text) : AlterInfo := .setComment (some comment)

def versionedTable : GlueTableInfo := { daysTable with versionId := "0" }

def textFunctions : StatementFunctions where
  typeName _ := "VARCHAR"
  parseType _ := .ok .varchar
  castKey _ value := .ok value
  hive := percentHive

/-- The table gets its comment, and then the statement fails to fetch it again. -/
theorem updates_of_failed_statement :
    ∃ s : UpdateState Unit Unit, Run (Step textFunctions id) (.initially versionedTable) [(), (), (), ()] s ∧
      s.finished = [⟨(), 1, .alter "events" (commentOn "visits"), .failed [.refresh]⟩] ∧
      versionedTable.description = [] ∧ s.glue.description = "visits".toList := by
  refine ⟨_, .cons (.beginAlter rfl "events" (commentOn "visits")) (.cons (.define rfl)
    (.cons (.accepted rfl rfl (show "1".toList ≠ [] by decide) (show "1".toList ∉ ["0".toList] by decide) true)
      (.cons (.fails rfl) .nil))), rfl, rfl, rfl⟩

/-- Of two statements bound to one version the second to ask Glue fails. -/
theorem serial_of_conflict :
    ∃ s : UpdateState Bool Unit, s.glue.description = "visits".toList ∧
      s.finished = [⟨true, 1, .alter "events" (commentOn "clicks"), .failed [.update (.description "clicks"), .refresh]⟩,
        ⟨false, 1, .alter "events" (commentOn "visits"), .succeeded⟩] ∧
      Serial textFunctions versionedTable s := by
  have run := fun (s : UpdateState Bool Unit) labels
      (run : Run (Step textFunctions fun _ => ()) (.initially versionedTable) labels s) => serial_of_run (by decide) run
  refine ⟨_, ?_, ?_, run _ [false, true, false, true, false, true, false, false]
    (.cons (.beginAlter rfl "events" (commentOn "visits")) (.cons (.beginAlter rfl "events" (commentOn "clicks"))
      (.cons (.define rfl) (.cons (.define rfl)
        (.cons (.accepted rfl rfl (show "1".toList ≠ [] by decide) (show "1".toList ∉ ["0".toList] by decide) true)
          (.cons (.fails rfl) (.cons (.refresh rfl) (.cons (.succeeds rfl) .nil))))))))⟩
  · rfl
  · rfl

end Examples

end TableUpdates

end DuckGlue
