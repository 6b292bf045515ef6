import DuckGlue.Catalog.GlueViewNames
import DuckGlue.Lib.KeyedCache

/-! # The query of a view

A view is parsed once and keeps a copy of its body for each mapping of the catalog ids to
aliases it was read under. Which catalogs are attached, and under which names, changes
between the queries of a session.
-/

namespace DuckGlue

open GlueViewNames StringUtil KeyedCache

/-- What a session has attached and set. -/
structure Session where
  databases : List AttachedDatabase
  externalCatalogTypes : List Text := []

/-- The stored SQL as it was parsed, with the catalog ids it names tables by. -/
structure ParsedView where
  statement : QueryNode
  referencedIds : List Identifier

/-- What a view keeps between its queries. -/
structure ViewCache where
  parsed : Option ParsedView := none
  resolved : List (Text × QueryNode) := []

/-- A view of an attached Glue catalog. -/
structure GlueView where
  catalogName : Identifier
  options : GlueAttachOptions
  /-- The schema it is in, and the names in `table_info`. -/
  schema : Identifier
  schemaName : Text
  name : Text
  unsupportedReason : Text := []
  /-- What the parser makes of `select_sql`. -/
  parseSelect : Except Text QueryNode
  /-- `QualifiedName::ToString` -/
  toText : QualifiedName → Text

/-- The text the copies of a view are kept under. -/
def aliasSignature (aliases : AliasMap) : Text := aliases.flatMap fun entry => entry.1 ++ '=' :: (entry.2 ++ [';'])

/-- The smallest id of a type of catalog that is not listed, for a stable error. -/
def Session.refused (session : Session) (ids : List Identifier) : Option Identifier :=
  ids.foldl (fun refused id =>
    if isExternal id && !Identifier.count session.externalCatalogTypes (externalType id) &&
        refused.all (Identifier.before id) then some id else refused) none

namespace GlueView

variable (view : GlueView)

def describe (text : Text) : Text :=
  "Glue view \"".toList ++ view.schemaName ++ '.' :: view.name ++ "\" ".toList ++ text

/-- Parse the view; a body without ids reads its own catalog. -/
def parse : Except Exception ParsedView :=
  match view.parseSelect with
  | .error message => .error (.binder (view.describe ("could not be parsed: ".toList ++ message)))
  | .ok statement => do
      let ids ← referencedCatalogIds statement
      if ids = [] then
        return ⟨← pinToCatalog view.catalogName view.schema statement, ids⟩
      return ⟨statement, ids⟩

/-- The aliases the ids have now. -/
def aliases (ids : List Identifier) (session : Session) : AliasMap := attachedAliases view.options session.databases ids

/-- A copy of the body for aliases. -/
def resolve (parsed : ParsedView) (aliases : AliasMap) : Except Exception QueryNode := do
  let copy ← resolveForReading view.toText view.options (view.schemaName ++ '.' :: view.name) aliases parsed.statement
  pinToCatalog view.catalogName view.schema copy

/-- The aliases of a session, as the copies are kept under. -/
def signature (ids : List Identifier) (session : Session) : Text := aliasSignature (view.aliases ids session)

/-- The copy for the aliases of a session. -/
def resolveNow (parsed : ParsedView) (session : Session) : Except Exception QueryNode :=
  view.resolve parsed (view.aliases parsed.referencedIds session)

/-- The query of a view that is parsed. -/
def getResolved (session : Session) (parsed : ParsedView) (resolved : List (Text × QueryNode)) :
    Except Exception QueryNode × List (Text × QueryNode) :=
  if parsed.referencedIds = [] then
    -- only the view's own catalog, which DuckDB binds the view in
    (.ok parsed.statement, resolved)
  else
    match session.refused parsed.referencedIds with
    | some id =>
        let type := externalType id
        (.error (.binder (view.describe ("reads catalog \"".toList ++ id ++ "\" of type ".toList ++ type ++
          ", which is not in experimental_glue_view_external_catalog_types: add '".toList ++ type ++ "' to it".toList))),
          resolved)
    | none => ask (view.signature parsed.referencedIds) (view.resolveNow parsed) resolved session

/-- `GlueView::GetQuery` -/
def getQuery (session : Session) (cache : ViewCache) : Except Exception QueryNode × ViewCache :=
  if view.unsupportedReason ≠ [] then
    (.error (.binder (view.describe ("can not be queried: ".toList ++ view.unsupportedReason))), cache)
  else
    match cache.parsed.elim view.parse Except.ok with
    | .error failed => (.error failed, cache)
    | .ok parsed =>
        let (answer, resolved) := view.getResolved session parsed cache.resolved
        (answer, ⟨some parsed, resolved⟩)

end GlueView

/-- What can happen in a session between two queries of a view. -/
inductive SessionStep : Session → Session → Prop
  /-- The attached databases are listed in no particular order. -/
  | attach {session : Session} {database : AttachedDatabase} {databases : List AttachedDatabase}
      (new : ∀ other ∈ session.databases, ciEquals other.name database.name = false)
      (listed : databases.Perm (database :: session.databases)) :
      SessionStep session { session with databases }
  | detach {session : Session} {name : Identifier} {databases : List AttachedDatabase}
      (listed : databases.Perm (session.databases.filter fun database => !ciEquals database.name name)) :
      SessionStep session { session with databases }
  /-- Glue reports the id of a catalog that was attached without asking for it. -/
  | reportCatalogId {session : Session} {front back : List AttachedDatabase} {database : AttachedDatabase}
      {options : GlueAttachOptions} (id : Text) (attached : session.databases = front ++ database :: back)
      (unknown : database.catalog = .glue options []) :
      SessionStep session { session with databases := front ++ { database with catalog := .glue options id } :: back }
  | setExternalCatalogTypes {session : Session} (externalCatalogTypes : List Text) :
      SessionStep session { session with externalCatalogTypes }

/-- A session and a view of it, with the queries asked of the view so far and what they were
asked in. -/
structure ViewState where
  session : Session
  cache : ViewCache := {}
  asked : List (Session × Except Exception QueryNode) := []

namespace GlueView

variable (view : GlueView)

/-- The state after one more query of the view. -/
def ask (state : ViewState) : ViewState where
  session := state.session
  cache := (view.getQuery state.session state.cache).2
  asked := state.asked ++ [(state.session, (view.getQuery state.session state.cache).1)]

/-- The states of a session and a view that was not queried before it. -/
inductive Reaches (start : Session) : ViewState → Prop
  | start : Reaches start { session := start }
  | change {state : ViewState} {session : Session} (reached : Reaches start state)
      (changed : SessionStep state.session session) : Reaches start { state with session }
  | getQuery {state : ViewState} (reached : Reaches start state) : Reaches start (view.ask state)

/-- The query names each catalog by the alias its id has in the session. -/
def ReadsNow (session : Session) (query : QueryNode) : Prop :=
  ∃ body ids, view.parseSelect = .ok body ∧ referencedCatalogIds body = .ok ids ∧
    ReadsUnder (view.aliases ids session) body query

/-- No listed type is missing in the session. -/
def Admits (ids : List Identifier) (session : Session) : Prop :=
  view.unsupportedReason = [] ∧ session.refused ids = none

instance (ids : List Identifier) (session : Session) : Decidable (view.Admits ids session) :=
  inferInstanceAs (Decidable (_ ∧ _))

/-- Both sessions have the same alias for each id. -/
def SameAliases (ids : List Identifier) (a b : Session) : Prop :=
  ∀ id ∈ ids, (view.aliases ids a).find id = (view.aliases ids b).find id

/-- Two sessions of one signature have the same aliases, if the first has one for each id. -/
def ToldApart (ids : List Identifier) (earlier later : Session) : Prop :=
  view.Admits ids earlier → view.Admits ids later →
    (∀ id ∈ ids, ((view.aliases ids earlier).find id).isSome = true) →
    view.signature ids earlier = view.signature ids later → view.SameAliases ids earlier later

/-- The signatures tell the sessions apart in which a view was queried. -/
def TellsApart (sessions : List Session) : Prop :=
  ∀ body ids, view.parseSelect = .ok body → referencedCatalogIds body = .ok ids → sessions.Pairwise (view.ToldApart ids)

/-- A name without the characters a signature puts between names. -/
def Plain (name : Identifier) : Prop := '=' ∉ name ∧ ';' ∉ name

instance decidablePlain (name : Identifier) : Decidable (Plain name) := inferInstanceAs (Decidable (_ ∧ _))

/-- The signature of plain names is of one alias map. -/
theorem aliasSignature_inj {a b : AliasMap} (plain : ∀ entry ∈ a, Plain entry.1 ∧ Plain entry.2)
    (plain' : ∀ entry ∈ b, Plain entry.1 ∧ Plain entry.2) (same : aliasSignature a = aliasSignature b) : a = b := by
  induction a generalizing b with
  | nil =>
      cases b with
      | nil => rfl
      | cons entry rest => simp [aliasSignature] at same
  | cons entry rest ih =>
      cases b with
      | nil => simp [aliasSignature] at same
      | cons entry' rest' =>
          obtain ⟨⟨key, name⟩, later⟩ := List.forall_mem_cons.mp plain
          obtain ⟨⟨key', name'⟩, later'⟩ := List.forall_mem_cons.mp plain'
          have parts : entry.1 ++ '=' :: (entry.2 ++ ';' :: aliasSignature rest) =
              entry'.1 ++ '=' :: (entry'.2 ++ ';' :: aliasSignature rest') := by
            simpa [aliasSignature] using same
          obtain ⟨keys, others⟩ := Segments.append_sep_inj key.1 key'.1 parts
          obtain ⟨names, rests⟩ := Segments.append_sep_inj name.2 name'.2 others
          rw [Prod.ext keys names, ih later later' rests]

/-- With plain names the signatures tell any sessions apart. -/
theorem tellsApart_of_plain {sessions : List Session}
    (plain : ∀ body ids, view.parseSelect = .ok body → referencedCatalogIds body = .ok ids → ∀ session ∈ sessions,
      ∀ entry ∈ view.aliases ids session, Plain entry.1 ∧ Plain entry.2) :
    view.TellsApart sessions := by
  intro body ids given collected
  apply List.pairwise_of_forall_mem_list
  intro earlier asked later asked' _ _ _ same id _
  have names := plain body ids given collected
  rw [aliasSignature_inj (names earlier asked) (names later asked') same]

section Body

variable {view} {body query : QueryNode} {ids : List Identifier} {parsed : ParsedView} {start session : Session}
  {state : ViewState}

theorem aliases_named : ∀ entry ∈ view.aliases ids session, entry.2 ≠ [] := attachedAliases_named

/-- A body whose ids can be collected is parsed. -/
theorem parse_of_body (given : view.parseSelect = .ok body) (collected : referencedCatalogIds body = .ok ids) :
    ∃ parsed, view.parse = .ok parsed ∧ parsed.referencedIds = ids ∧ (ids ≠ [] → parsed.statement = body) ∧
      (ids = [] → ∀ aliases, ReadsUnder aliases body parsed.statement) := by
  obtain ⟨stored, collects⟩ := referencedCatalogIds_ok collected
  unfold parse
  rw [given]
  by_cases own : ids = []
  · obtain ⟨pinned, done⟩ := @pinToCatalog_ok body view.catalogName view.schema stored
    refine ⟨⟨pinned, ids⟩, ?_, rfl, fun other => absurd own other, fun _ aliases => ?_⟩
    · simp only [collected, own, done, bind, Except.bind, pure, Except.pure, if_true]
    · apply readsUnder_of_pinned done
      intro ref member
      by_contra named
      have counted := collects.counted ref member named
      rw [own] at counted
      cases counted
  · refine ⟨⟨body, ids⟩, ?_, rfl, fun _ => rfl, fun empty => absurd empty own⟩
    simp only [collected, own, bind, Except.bind, pure, Except.pure, if_false]

/-- Without a body there are no queries. -/
theorem body_of_parse (done : view.parse = .ok parsed) :
    ∃ body, view.parseSelect = .ok body ∧ referencedCatalogIds body = .ok parsed.referencedIds := by
  unfold parse at done
  cases given : view.parseSelect with
  | error message =>
      rw [given] at done
      cases done
  | ok body =>
      rw [given] at done
      obtain ⟨ids, collected, rest⟩ := Fallible.bind_eq_ok.mp done
      refine ⟨body, rfl, ?_⟩
      split_ifs at rest with own
      · obtain ⟨pinned, _, last⟩ := Fallible.bind_eq_ok.mp rest
        cases last
        exact collected
      · cases rest
        exact collected

theorem resolveNow_reads (given : parsed.statement = body) (done : view.resolveNow parsed session = .ok query) :
    ReadsUnder (view.aliases parsed.referencedIds session) body query := by
  obtain ⟨copy, resolved, pinned⟩ := Fallible.bind_eq_ok.mp done
  rw [given] at resolved
  exact readsUnder_of_resolved resolved pinned aliases_named

/-- The ids found are those some table is named by. -/
theorem agree_iff {aliases other : AliasMap} (collects : Collects [] (references [] body) ids) :
    (∀ id ∈ ids, aliases.find id = other.find id) ↔
      ∀ ref ∈ references [] body, ref.1.catalog ≠ [] → aliases.find ref.1.catalog = other.find ref.1.catalog := by
  constructor
  · intro agree ref member named
    obtain ⟨id, inIds, same⟩ := Identifier.count_iff.mp (collects.counted ref member named)
    rw [AliasMap.find_congr same, AliasMap.find_congr same]
    exact agree id inIds
  · intro agree id inIds
    rcases collects.named id inIds with old | ⟨ref, member, rfl, named⟩
    · cases old
    · exact agree ref member named

/-- A copy is made when every id is attached. -/
theorem resolveNow_isOk (collected : referencedCatalogIds body = .ok ids) (given : parsed.statement = body)
    (own : parsed.referencedIds = ids) :
    (∃ query, view.resolveNow parsed session = .ok query) ↔
      ∀ id ∈ ids, ((view.aliases ids session).find id).isSome = true := by
  obtain ⟨stored, collects⟩ := referencedCatalogIds_ok collected
  subst own given
  constructor
  · intro ⟨query, done⟩ id inIds
    have reads := resolveNow_reads rfl done
    rcases collects.named id inIds with old | ⟨ref, member, rfl, named⟩
    · cases old
    · obtain ⟨read, here⟩ := exists_readsAs reads ref member
      obtain ⟨name, found, _⟩ := here named
      rw [found]
      rfl
  · intro attached
    have found : ∀ ref ∈ references [] parsed.statement, ref.1.catalog ≠ [] →
        ((view.aliases parsed.referencedIds session).find ref.1.catalog).isSome = true := by
      intro ref member named
      obtain ⟨id, inIds, same⟩ := Identifier.count_iff.mp (collects.counted ref member named)
      rw [AliasMap.find_congr same]
      exact attached id inIds
    obtain ⟨copy, resolved, copied⟩ := @resolveForReading_ok view.toText view.options (view.schemaName ++ '.' :: view.name)
      _ _ stored found
    obtain ⟨query, pinned⟩ := @pinToCatalog_ok copy view.catalogName view.schema copied
    exact ⟨query, Fallible.bind_eq_ok.mpr ⟨copy, resolved, pinned⟩⟩

/-- What is kept and answered after the queries of a view whose body has ids. -/
structure Kept (view : GlueView) (parsed : ParsedView) (state : ViewState) : Prop where
  parsedOnce : state.cache.parsed.elim view.parse Except.ok = .ok parsed
  served : Served (view.signature parsed.referencedIds) (view.resolveNow parsed)
    (state.asked.filter fun asked => decide (view.Admits parsed.referencedIds asked.1)) state.cache.resolved
  refused : ∀ asked ∈ state.asked, ¬ view.Admits parsed.referencedIds asked.1 → ∀ query, asked.2 ≠ .ok query

theorem getResolved_of_admits (own : parsed.referencedIds ≠ []) (admitted : view.Admits parsed.referencedIds session)
    {resolved : List (Text × QueryNode)} :
    view.getResolved session parsed resolved =
      KeyedCache.ask (view.signature parsed.referencedIds) (view.resolveNow parsed) resolved session := by
  unfold getResolved
  rw [if_neg own, admitted.2]

/-- A session that is refused gets an error, and nothing is kept for it. -/
theorem getResolved_of_refused (own : parsed.referencedIds ≠ []) {id : Identifier}
    (refused : session.refused parsed.referencedIds = some id) {resolved : List (Text × QueryNode)} :
    (view.getResolved session parsed resolved).2 = resolved ∧
      ∀ query, (view.getResolved session parsed resolved).1 ≠ .ok query := by
  unfold getResolved
  rw [if_neg own, refused]
  exact ⟨rfl, nofun⟩

theorem Kept.ask (kept : Kept view parsed state) (supported : view.unsupportedReason = [])
    (own : parsed.referencedIds ≠ []) : Kept view parsed (view.ask state) := by
  have asked : view.getQuery state.session state.cache =
      ((view.getResolved state.session parsed state.cache.resolved).1,
        ⟨some parsed, (view.getResolved state.session parsed state.cache.resolved).2⟩) := by
    unfold getQuery
    rw [if_neg (not_not_intro supported), kept.parsedOnce]
  unfold GlueView.ask
  rw [asked]
  refine ⟨rfl, ?_, ?_⟩
  · dsimp only
    rw [List.filter_append]
    by_cases admitted : view.Admits parsed.referencedIds state.session
    · rw [List.filter_cons_of_pos (by simpa using admitted), List.filter_nil, getResolved_of_admits own admitted]
      exact .ask kept.served state.session
    · rw [List.filter_cons_of_neg (by simpa using admitted), List.filter_nil, List.append_nil]
      obtain ⟨id, refused⟩ := Option.ne_none_iff_exists'.mp fun none_ => admitted ⟨supported, none_⟩
      rw [(getResolved_of_refused own refused).1]
      exact kept.served
  · intro one member
    rcases List.mem_append.mp member with old | new
    · exact kept.refused one old
    · cases List.mem_singleton.mp new
      intro rejected
      obtain ⟨id, refused⟩ := Option.ne_none_iff_exists'.mp fun none_ => rejected ⟨supported, none_⟩
      exact (getResolved_of_refused own refused).2

/-- The copies of a view and its answers, in every state. -/
theorem Reaches.kept (reached : view.Reaches start state) (parsed_ : view.parse = .ok parsed)
    (supported : view.unsupportedReason = []) (own : parsed.referencedIds ≠ []) : Kept view parsed state := by
  induction reached with
  | start => exact ⟨parsed_, .nil, nofun⟩
  | change _ _ ih => exact ⟨ih.parsedOnce, ih.served, ih.refused⟩
  | getQuery _ ih => exact ih.ask supported own

/-- Without ids the parsed query is every answer. -/
theorem Reaches.answers_own (reached : view.Reaches start state) (parsed_ : view.parse = .ok parsed)
    (own : parsed.referencedIds = []) :
    state.cache.parsed.elim view.parse Except.ok = .ok parsed ∧
      ∀ session query, (session, .ok query) ∈ state.asked → query = parsed.statement := by
  induction reached with
  | start => exact ⟨parsed_, nofun⟩
  | change _ _ ih => exact ih
  | @getQuery state _ ih =>
      obtain ⟨parsedOnce, before⟩ := ih
      unfold GlueView.ask GlueView.getQuery
      split_ifs with unsupported
      · refine ⟨parsedOnce, fun session query member => ?_⟩
        rcases List.mem_append.mp member with old | new
        · exact before session query old
        · cases List.mem_singleton.mp new
      · rw [parsedOnce]
        refine ⟨rfl, fun session query member => ?_⟩
        rcases List.mem_append.mp member with old | new
        · exact before session query old
        · have answer := (Prod.mk.inj (List.mem_singleton.mp new)).2
          unfold getResolved at answer
          dsimp only at answer
          rw [if_pos own] at answer
          exact Except.ok.inj answer

/-- A view that can not be parsed, or not be used, answers nothing. -/
theorem Reaches.answers_none (reached : view.Reaches start state)
    (fails : view.unsupportedReason ≠ [] ∨ ∃ failed, view.parse = .error failed) :
    state.cache = {} ∧ ∀ session query, (session, .ok query) ∉ state.asked := by
  induction reached with
  | start => exact ⟨rfl, nofun⟩
  | change _ _ ih => exact ih
  | @getQuery state _ ih =>
      obtain ⟨empty, before⟩ := ih
      have answer : ∃ failed, view.getQuery state.session state.cache = (.error failed, {}) := by
        unfold GlueView.getQuery
        rw [empty]
        by_cases unsupported : view.unsupportedReason ≠ []
        · rw [if_pos unsupported]
          exact ⟨_, rfl⟩
        · obtain ⟨failed, parsed_⟩ := fails.resolve_left unsupported
          rw [if_neg unsupported, Option.elim_none, parsed_]
          exact ⟨_, rfl⟩
      obtain ⟨failed, asked⟩ := answer
      unfold GlueView.ask
      rw [asked]
      refine ⟨rfl, fun session query member => ?_⟩
      rcases List.mem_append.mp member with old | new
      · exact before session query old
      · cases List.mem_singleton.mp new

theorem readsNow_of_body (given : view.parseSelect = .ok body) (collected : referencedCatalogIds body = .ok ids) :
    view.ReadsNow session query ↔ ReadsUnder (view.aliases ids session) body query := by
  constructor
  · intro ⟨body', ids', given', collected', reads⟩
    rw [given] at given'
    cases given'
    rw [collected] at collected'
    cases collected'
    exact reads
  · intro reads
    exact ⟨body, ids, given, collected, reads⟩

/-- What the cache answers is right exactly when the signatures tell its requests apart. -/
theorem Kept.reads_iff (kept : Kept view parsed state) (given : view.parseSelect = .ok body)
    (collected : referencedCatalogIds body = .ok parsed.referencedIds) (statement : parsed.statement = body) :
    (∀ session query, (session, .ok query) ∈ state.asked → view.ReadsNow session query) ↔
      (state.asked.map (·.1)).Pairwise (view.ToldApart parsed.referencedIds) := by
  have collects := (referencedCatalogIds_ok collected).2
  have computed : ∀ session query, view.resolveNow parsed session = .ok query →
      ReadsUnder (view.aliases parsed.referencedIds session) body query := by
    intro session query done
    exact resolveNow_reads statement done
  have same : ∀ a b query, ReadsUnder (view.aliases parsed.referencedIds a) body query →
      ReadsUnder (view.aliases parsed.referencedIds b) body query → view.SameAliases parsed.referencedIds a b := by
    intro a b query one two
    exact (agree_iff collects).mpr (find_eq_of_reads one two)
  have fits : ∀ a b query, view.SameAliases parsed.referencedIds a b →
      ReadsUnder (view.aliases parsed.referencedIds a) body query →
      ReadsUnder (view.aliases parsed.referencedIds b) body query := by
    intro a b query agree one
    exact reads_of_find_eq one ((agree_iff collects).mp agree)
  have answers := kept.served.fits_iff computed same fits
  have admittedOnly : (∀ session query, (session, .ok query) ∈ state.asked → view.ReadsNow session query) ↔
      ∀ session query, (session, .ok query) ∈
        (state.asked.filter fun asked => decide (view.Admits parsed.referencedIds asked.1)) →
        ReadsUnder (view.aliases parsed.referencedIds session) body query := by
    constructor
    · intro reads session query member
      exact (readsNow_of_body given collected).mp (reads session query (List.mem_filter.mp member).1)
    · intro reads session query member
      rw [readsNow_of_body given collected]
      by_cases admitted : view.Admits parsed.referencedIds session
      · exact reads session query (List.mem_filter.mpr ⟨member, by simpa using admitted⟩)
      · exact absurd rfl (kept.refused _ member admitted query)
  have sessions : (state.asked.filter fun asked => decide (view.Admits parsed.referencedIds asked.1)).map (·.1) =
      (state.asked.map (·.1)).filter fun session => decide (view.Admits parsed.referencedIds session) := by
    rw [List.filter_map]
    rfl
  rw [admittedOnly, answers, sessions, List.pairwise_filter]
  apply Iff.of_eq
  congr 1
  funext earlier later
  apply propext
  constructor
  · intro told admitted admitted' attached sameKey
    obtain ⟨query, done⟩ := (resolveNow_isOk collected statement rfl).mpr attached
    exact told (by simpa using admitted) (by simpa using admitted') query done sameKey
  · intro apart admitted admitted' query done sameKey
    exact apart (by simpa using admitted) (by simpa using admitted')
      ((resolveNow_isOk collected statement rfl).mp ⟨query, done⟩) sameKey

variable (view) in
/-- The queries of a view name the catalogs by their aliases of that moment exactly when no
two moments with other aliases have the same signature. -/
theorem readsNow_iff (reached : view.Reaches start state) :
    (∀ session query, (session, .ok query) ∈ state.asked → view.ReadsNow session query) ↔
      view.TellsApart (state.asked.map (·.1)) := by
  by_cases supported : view.unsupportedReason = []
  swap
  · apply iff_of_true
    · intro session query member
      exact absurd member ((reached.answers_none (.inl supported)).2 session query)
    · intro body ids _ _
      exact List.pairwise_of_forall fun _ _ admitted => absurd admitted.1 supported
  cases parsed_ : view.parse with
  | error failed =>
      apply iff_of_true
      · intro session query member
        exact absurd member ((reached.answers_none (.inr ⟨failed, parsed_⟩)).2 session query)
      · intro body ids given collected
        obtain ⟨parsed, done, _⟩ := parse_of_body given collected
        rw [parsed_] at done
        cases done
  | ok parsed =>
      obtain ⟨body, given, collected⟩ := body_of_parse parsed_
      obtain ⟨again, done, _, fromIds, withoutIds⟩ := parse_of_body given collected
      rw [parsed_] at done
      cases done
      by_cases own : parsed.referencedIds = []
      · apply iff_of_true
        · intro session query member
          rw [(reached.answers_own parsed_ own).2 session query member]
          exact ⟨body, _, given, collected, withoutIds own _⟩
        · intro body' ids given' collected'
          rw [given] at given'
          cases given'
          rw [collected] at collected'
          cases collected'
          rw [own]
          exact List.pairwise_of_forall fun _ _ _ _ _ _ => nofun
      · rw [(reached.kept parsed_ supported own).reads_iff given collected (fromIds own)]
        exact ⟨fun apart body' ids given' collected' => by
          rw [given] at given'
          cases given'
          rw [collected] at collected'
          cases collected'
          exact apart, fun apart => apart body _ given collected⟩

end Body

end GlueView

section Collision

/-- A Glue catalog attached by an account id. -/
def attachedAccount (name : Identifier) (account : Text) (named : name ≠ []) : AttachedDatabase where
  name := name
  catalog := .glue { catalogId := account, region := "eu-west-1" } []
  named := named

/-- A view that joins tables of two other accounts. -/
def joinView : GlueView where
  catalogName := "glue"
  options := { region := "eu-west-1" }
  schema := "sales"
  schemaName := "sales"
  name := "v"
  parseSelect := .ok (.select [] (some (.join (.baseTable ⟨"111111111111", "db", "t"⟩)
    (.baseTable ⟨"222222222222", "db", "u"⟩) none none)) [] [] none none none [])
  toText := fun name => name.catalog ++ '.' :: name.schema ++ '.' :: name.name

/-- The two accounts under two names each. -/
def firstAliases : Session where
  databases := [attachedAccount "a;222222222222=b" "111111111111" (by decide), attachedAccount "c" "222222222222" (by decide)]

def secondAliases : Session where
  databases := [attachedAccount "a" "111111111111" (by decide), attachedAccount "b;222222222222=c" "222222222222" (by decide)]

def joinQuery (left right : Identifier) : QueryNode :=
  .select [] (some (.join (.baseTable ⟨left, "db", "t"⟩) (.baseTable ⟨right, "db", "u"⟩) none none)) [] [] none none none []

theorem GlueView.Reaches.of_change {view : GlueView} {start session next : Session} {cache : ViewCache}
    {asked : List (Session × Except Exception QueryNode)} (reached : view.Reaches start ⟨session, cache, asked⟩)
    (changed : SessionStep session next) : view.Reaches start ⟨next, cache, asked⟩ := .change reached changed

/-- The two accounts are detached and attached again under other names. -/
theorem GlueView.Reaches.attachedAgain {view : GlueView} {start : Session} {cache : ViewCache}
    {asked : List (Session × Except Exception QueryNode)} {one two one' two' : Identifier} {named : one ≠ []}
    {named₂ : two ≠ []} {named' : one' ≠ []} {named₂' : two' ≠ []} (apart : ciEquals two one = false)
    (apart' : ciEquals one' two' = false)
    (reached : view.Reaches start
      ⟨⟨[attachedAccount one "111111111111" named, attachedAccount two "222222222222" named₂], []⟩, cache, asked⟩) :
    view.Reaches start
      ⟨⟨[attachedAccount one' "111111111111" named', attachedAccount two' "222222222222" named₂'], []⟩, cache, asked⟩ := by
  have same : ∀ name : Identifier, ciEquals name name = true := fun name => ciEquals_iff.mpr rfl
  have first : SessionStep ⟨[attachedAccount one "111111111111" named, attachedAccount two "222222222222" named₂], []⟩
      ⟨[attachedAccount two "222222222222" named₂], []⟩ := by
    apply @SessionStep.detach ⟨[attachedAccount one "111111111111" named, attachedAccount two "222222222222" named₂], []⟩ one
    simp [attachedAccount, same, apart]
  have second : SessionStep ⟨[attachedAccount two "222222222222" named₂], []⟩ ⟨[], []⟩ := by
    apply @SessionStep.detach ⟨[attachedAccount two "222222222222" named₂], []⟩ two
    simp [attachedAccount, same]
  have third : SessionStep ⟨[], []⟩ ⟨[attachedAccount one' "111111111111" named'], []⟩ := by
    apply @SessionStep.attach ⟨[], []⟩ _ _ _ (.refl _)
    intro other member
    cases member
  have fourth : SessionStep ⟨[attachedAccount one' "111111111111" named'], []⟩
      ⟨[attachedAccount one' "111111111111" named', attachedAccount two' "222222222222" named₂'], []⟩ := by
    apply @SessionStep.attach ⟨[attachedAccount one' "111111111111" named'], []⟩
      (attachedAccount two' "222222222222" named₂') _ _ (.swap _ _ _)
    intro other member
    cases List.mem_singleton.mp member
    exact apart'
  exact (((reached.of_change first).of_change second).of_change third).of_change fourth

/-- After the catalogs were attached under other names, the view reads the ones before. -/
theorem joinView_reads_other :
    (∃ state session query, joinView.Reaches firstAliases state ∧ (session, .ok query) ∈ state.asked ∧
      ¬ joinView.ReadsNow session query) ∧
    (∃ a b, joinView.aliases ["111111111111", "222222222222"] a ≠ joinView.aliases ["111111111111", "222222222222"] b ∧
      joinView.signature ["111111111111", "222222222222"] a = joinView.signature ["111111111111", "222222222222"] b) := by
  constructor
  · refine ⟨_, secondAliases, joinQuery "a;222222222222=b" "c",
      .getQuery (@GlueView.Reaches.attachedAgain joinView _ _ _ "a;222222222222=b" "c" "a" "b;222222222222=c"
        (by decide) (by decide) (by decide) (by decide) (by decide) (by decide)
        (.getQuery (GlueView.Reaches.start : joinView.Reaches firstAliases _))), ?_, ?_⟩
    · exact List.mem_append_right _ (List.mem_singleton.mpr rfl)
    · intro ⟨body, ids, given, collected, reads⟩
      cases given
      cases collected
      cases reads with
      | cons here _ =>
          obtain ⟨name, found, read⟩ := here (by decide)
          cases found
          cases read
  · exact ⟨firstAliases, secondAliases, by decide +kernel, by decide +kernel⟩

/-- The two accounts under plain names. -/
def plainAliases : Session where
  databases := [attachedAccount "east" "111111111111" (by decide), attachedAccount "west" "222222222222" (by decide)]

/-- The catalogs are attached under other plain names, and the view reads these. -/
theorem joinView_reads_again : ∃ state, joinView.Reaches plainAliases state ∧
    (plainAliases, .ok (joinQuery "east" "west")) ∈ state.asked ∧
    (⟨[attachedAccount "left" "111111111111" (by decide), attachedAccount "right" "222222222222" (by decide)], []⟩,
      .ok (joinQuery "left" "right")) ∈ state.asked ∧
    ∀ session query, (session, .ok query) ∈ state.asked → joinView.ReadsNow session query := by
  have reached := GlueView.Reaches.getQuery (@GlueView.Reaches.attachedAgain joinView _ _ _ "east" "west" "left" "right"
    (by decide) (by decide) (by decide) (by decide) (by decide) (by decide)
    (.getQuery (GlueView.Reaches.start : joinView.Reaches plainAliases _)))
  refine ⟨_, reached, List.mem_append_left _ (List.mem_singleton.mpr rfl),
    List.mem_append_right _ (List.mem_singleton.mpr rfl), (joinView.readsNow_iff reached).mpr ?_⟩
  apply joinView.tellsApart_of_plain
  intro body ids given collected session member
  cases given
  cases collected
  cases member with
  | head => decide
  | tail _ later =>
      cases List.mem_singleton.mp later
      decide

end Collision

end DuckGlue
