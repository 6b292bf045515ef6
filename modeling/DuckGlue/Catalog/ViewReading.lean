import DuckGlue.Catalog.ViewStorage

/-! # A stored view read back

Another session reads a stored view with the catalogs it has attached. Every table of the
body is then the table it was when the view was created, or the view is refused.
-/

namespace DuckGlue

open StringUtil ViewBodyWalker GlueViewNames

theorem AliasMap.find_assign {aliases : AliasMap} {id name other : Identifier} :
    find (assign id name aliases) other = if ciEquals id other then some name else find aliases other := by
  induction aliases with
  | nil =>
      simp only [assign, find, List.find?_cons, List.find?_nil]
      cases ciEquals id other <;> rfl
  | cons entry rest ih =>
      obtain ⟨key, value⟩ := entry
      unfold assign
      by_cases same : ciEquals key id = true
      · simp only [same, if_true, find, List.find?_cons, ciEquals_congr same]
        cases ciEquals id other <;> rfl
      · simp only [same, if_false, Bool.false_eq_true]
        by_cases before : Identifier.before id key = true
        · simp only [before, if_true, find, List.find?_cons]
          cases ciEquals id other <;> rfl
        · simp only [before, if_false, Bool.false_eq_true]
          unfold find at ih ⊢
          rw [List.find?_cons, List.find?_cons]
          cases here : ciEquals key other with
          | false => simpa [here] using ih
          | true =>
              have apart : ciEquals id other = false := by
                cases match_ : ciEquals id other with
                | false => rfl
                | true =>
                    rw [ciEquals_iff] at here match_
                    exact absurd (ciEquals_iff.mpr (here.trans match_.symm)) same
              simp [apart]

namespace AttachedDatabase

/-- The id a database is found by. -/
def aliasId (db : AttachedDatabase) : Identifier :=
  match db.catalog with
  | .other type => externalIdentity type db.name
  | .glue options reportedCatalogId => knownCatalogId options reportedCatalogId

/-- Whether a view may read from a database. -/
def eligible (view : GlueAttachOptions) (db : AttachedDatabase) : Bool :=
  !db.isSystem && !db.isTemporary &&
    match db.catalog with
    | .other _ => db.usableExternalCatalog
    | .glue options _ => sameGlueService options view

end AttachedDatabase

section Aliases

variable {view : GlueAttachOptions} {ids : List Identifier} {aliases : AliasMap} {db : AttachedDatabase}

theorem addAlias_cases :
    (addAlias view ids aliases db = AliasMap.assign db.aliasId db.name aliases ∧ db.eligible view = true ∧
      Identifier.count ids db.aliasId = true) ∨
    (addAlias view ids aliases db = aliases ∧ (db.eligible view = true → Identifier.count ids db.aliasId = true →
      (aliases.find db.aliasId).isSome = true)) := by
  unfold addAlias AttachedDatabase.eligible AttachedDatabase.aliasId
  by_cases hidden : (db.isSystem || db.isTemporary) = true
  · rw [if_pos hidden]
    right
    refine ⟨rfl, fun eligible => ?_⟩
    cases first : db.isSystem <;> cases second : db.isTemporary <;> simp [first, second] at hidden eligible
  · rw [if_neg hidden]
    have shown : (!db.isSystem && !db.isTemporary) = true := by
      simpa [not_or] using hidden
    rw [shown]
    cases db.catalog with
    | other type =>
        dsimp only
        split_ifs with taken
        · left
          simpa [and_comm] using taken
        · right
          refine ⟨rfl, fun usable counted => ?_⟩
          simp only [Bool.true_and] at usable
          simp [usable, counted] at taken
    | glue options reported =>
        dsimp only
        split_ifs with out
        · right
          refine ⟨rfl, fun service counted => ?_⟩
          simp only [Bool.true_and] at service
          simp [service, counted] at out
        · simp only [Bool.or_eq_true, Bool.not_eq_true', not_or, Bool.not_eq_false] at out
          cases found : aliases.find (knownCatalogId options reported) with
          | none => simp [out]
          | some existing =>
              dsimp only
              split_ifs
              · simp [out]
              · simp

/-- What the aliases are after some of the databases. -/
structure Aliased (view : GlueAttachOptions) (ids : List Identifier) (seen : List AttachedDatabase) (aliases : AliasMap) :
    Prop where
  found : ∀ id name, aliases.find id = some name →
    ∃ db ∈ seen, db.name = name ∧ db.eligible view = true ∧ ciEquals db.aliasId id = true
  all : ∀ db ∈ seen, db.eligible view = true → Identifier.count ids db.aliasId = true →
    (aliases.find db.aliasId).isSome = true

theorem Aliased.add {seen : List AttachedDatabase} (aliased : Aliased view ids seen aliases) :
    Aliased view ids (seen ++ [db]) (addAlias view ids aliases db) := by
  rcases @addAlias_cases view ids aliases db with ⟨assigned, eligible, _⟩ | ⟨kept, known⟩
  · rw [assigned]
    constructor
    · intro id name found
      rw [AliasMap.find_assign] at found
      split_ifs at found with same
      · cases found
        exact ⟨db, List.mem_append_right _ List.mem_cons_self, rfl, eligible, same⟩
      · obtain ⟨other, member, rest⟩ := aliased.found id name found
        exact ⟨other, List.mem_append_left _ member, rest⟩
    · intro other member eligible' counted
      rw [AliasMap.find_assign]
      split_ifs with same
      · rfl
      · rcases List.mem_append.mp member with old | new
        · exact aliased.all other old eligible' counted
        · cases List.mem_singleton.mp new
          exact absurd (ciEquals_refl _) same
  · rw [kept]
    constructor
    · intro id name found
      obtain ⟨other, member, rest⟩ := aliased.found id name found
      exact ⟨other, List.mem_append_left _ member, rest⟩
    · intro other member eligible' counted
      rcases List.mem_append.mp member with old | new
      · exact aliased.all other old eligible' counted
      · cases List.mem_singleton.mp new
        exact known eligible' counted

theorem attachedAliases_aliased {databases : List AttachedDatabase} :
    Aliased view ids databases (attachedAliases view databases ids) := by
  have run : ∀ (rest seen : List AttachedDatabase) (aliases : AliasMap), Aliased view ids seen aliases →
      Aliased view ids (seen ++ rest) (rest.foldl (addAlias view ids) aliases) := by
    intro rest
    induction rest with
    | nil =>
        intro seen aliases aliased
        simpa using aliased
    | cons db rest ih =>
        intro seen aliases aliased
        simpa using ih (seen ++ [db]) _ aliased.add
  apply run databases [] []
  constructor
  · intro id name found
    cases found
  · intro db member
    cases member

/-- The aliases are of eligible databases, and each of them whose id is asked for has one. -/
theorem find_attachedAliases_isSome {databases : List AttachedDatabase} {id : Identifier}
    (counted : Identifier.count ids id = true) :
    ((attachedAliases view databases ids).find id).isSome = true ↔
      ∃ db ∈ databases, db.eligible view = true ∧ ciEquals db.aliasId id = true := by
  constructor
  · intro some
    obtain ⟨name, found⟩ := Option.isSome_iff_exists.mp some
    obtain ⟨db, member, _, rest⟩ := attachedAliases_aliased.found id name found
    exact ⟨db, member, rest⟩
  · intro ⟨db, member, eligible, same⟩
    have counted' : Identifier.count ids db.aliasId = true := by
      obtain ⟨one, inIds, here⟩ := Identifier.count_iff.mp counted
      exact Identifier.count_iff.mpr ⟨one, inIds, ciEquals_congr same ▸ here⟩
    rw [← AliasMap.find_congr same]
    exact attachedAliases_aliased.all db member eligible counted'

end Aliases

/-- The session has the database under its name: what a name means in a query of it. -/
def Session.source (session : Session) (ids : Identifier → Text) (ref : ScopedReference) : Option ViewSource :=
  if ref.1.catalog = [] then
    if ref.1.schema = [] && Identifier.count ref.2 ref.1.name then some (.cte ref.1.name) else none
  else
    (session.databases.find? fun db => ciEquals db.name ref.1.catalog).map fun db =>
      .table (db.identity ids) ref.1.schema ref.1.name

/-- A view may read tables of the database, with its id known. -/
def AttachedDatabase.Offered (db : AttachedDatabase) : Prop :=
  db.isSystem = false ∧ db.isTemporary = false ∧
    match db.catalog with
    | .glue options reportedCatalogId => knownCatalogId options reportedCatalogId ≠ []
    | .other _ => db.usableExternalCatalog = true

/-- The type of a database is Glue's, or in the setting of the session. -/
def Session.Lists (session : Session) (db : AttachedDatabase) : Prop :=
  match db.catalog with
  | .glue _ _ => True
  | .other type => Identifier.count session.externalCatalogTypes type = true

/-- A session has the catalog of a table of a view, which it reads from the catalog `home`. -/
def Session.Reaches (session : Session) (ids : Identifier → Text) (home : CatalogIdentity) : ViewSource → Prop
  | .cte _ => True
  | .table identity _ _ =>
      identity = home ∨ ∃ db ∈ session.databases, db.identity ids = identity ∧ db.Offered ∧ session.Lists db

/-- A session reads tables stored under an id. -/
def Session.Ready (session : Session) (aliases : AliasMap) (id : Identifier) : Prop :=
  (isExternal id = true → Identifier.count session.externalCatalogTypes (externalType id) = true) ∧
    (aliases.find id).isSome = true

section Names

variable {session : Session} {ids : Identifier → Text} {db home : AttachedDatabase}

theorem find_database {databases : List AttachedDatabase} {catalog : Identifier}
    (attachedOnce : databases.Pairwise fun a b => ciEquals a.name b.name = false) (attached : db ∈ databases)
    (same : ciEquals db.name catalog = true) : databases.find? (fun db => ciEquals db.name catalog) = some db := by
  induction databases with
  | nil => cases attached
  | cons first rest ih =>
      obtain ⟨apart, later⟩ := List.pairwise_cons.mp attachedOnce
      rw [List.find?_cons]
      rcases List.mem_cons.mp attached with rfl | below
      · rw [same]
      · have other : ciEquals first.name catalog = false := by
          have differ := apart db below
          cases here : ciEquals first.name catalog with
          | false => rfl
          | true =>
              rw [ciEquals_congr here, ciEquals_comm same] at differ
              cases differ
        rw [other]
        exact ih later below

theorem source_of_database {schema name catalog : Identifier} {visible : List Identifier}
    (attachedOnce : session.databases.Pairwise fun a b => ciEquals a.name b.name = false) (attached : db ∈ session.databases)
    (same : ciEquals db.name catalog = true) :
    session.source ids (⟨catalog, schema, name⟩, visible) = some (.table (db.identity ids) schema name) := by
  have named : catalog ≠ [] := by
    intro empty
    rw [empty, ciEquals_iff] at same
    exact db.named (List.map_eq_nil_iff.mp same)
  unfold Session.source
  rw [if_neg named, find_database attachedOnce attached same]
  rfl

theorem TellsId.known {id : Text} {options : GlueAttachOptions} {reported : Text} (tells : TellsId id options reported)
    (known : knownCatalogId options reported ≠ []) : lower (knownCatalogId options reported) = lower id := by
  unfold knownCatalogId at known ⊢
  split_ifs at known ⊢ with reports account
  · exact ciEquals_iff.mp (tells.reported reports)
  · exact ciEquals_iff.mp (tells.attached account)
  · exact absurd rfl known

theorem isExternal_congr {id other : Identifier} (same : lower id = lower other) : isExternal id = isExternal other := by
  unfold isExternal
  rw [same]

theorem count_congr {names : List Text} {one other : Text} (same : lower one = lower other) :
    Identifier.count names one = Identifier.count names other := by
  unfold Identifier.count
  congr 1
  funext name
  exact ciEquals_congr (ciEquals_iff.mpr same)

/-- Only a colon folds to a colon. -/
theorem toLower_eq_colon {c : Char} : c.toLower = ':' ↔ c = ':' := by
  have colon : ':'.toNat = 58 := rfl
  rcases toLower_cases c with kept | ⟨low, high, changed⟩
  · rw [kept]
  · constructor
    · intro same
      rw [same] at changed
      omega
    · intro same
      rw [same] at low
      omega

theorem colon_not_mem_lower {type : Text} (typed : ':' ∉ type) : ':' ∉ lower type := by
  intro member
  obtain ⟨c, here, folded⟩ := List.mem_map.mp member
  rw [toLower_eq_colon.mp folded] at here
  exact typed here

/-- Types and aliases are told apart in an identity. -/
theorem externalIdentity_iff {type name t n : Text} (typed : ':' ∉ type) (typed' : ':' ∉ t) :
    ciEquals (externalIdentity type name) (externalIdentity t n) = true ↔ lower type = lower t ∧ lower name = lower n := by
  rw [ciEquals_iff, lower_externalIdentity, lower_externalIdentity, List.append_assoc, List.append_assoc,
    List.append_right_inj]
  constructor
  · exact Segments.append_sep_inj (colon_not_mem_lower typed) (colon_not_mem_lower typed')
  · intro ⟨types, names⟩
    rw [types, names]

/-- An id of a catalog of another session is the id of a database there. -/
theorem eligible_iff {view : GlueAttachOptions} {identity : CatalogIdentity} {id : Identifier}
    (stored : identity.StoredBy view id) (some : id ≠ []) (truthful : db.Truthful ids) :
    (db.eligible view = true ∧ ciEquals db.aliasId id = true) ↔ db.identity ids = identity ∧ db.Offered := by
  have glueKnown := truthful.glue
  have otherTyped := truthful.other
  unfold AttachedDatabase.eligible AttachedDatabase.aliasId AttachedDatabase.identity AttachedDatabase.Offered
  cases kind : db.catalog with
  | glue options reported =>
      have tells := glueKnown options reported kind
      cases identity with
      | glue region endpoint own =>
          obtain ⟨rfl, rfl, rfl, plain⟩ := stored
          simp only [sameGlueService, Bool.and_eq_true, Bool.not_eq_true', ciEquals_iff, CatalogIdentity.glue.injEq]
          constructor
          · rintro ⟨⟨shown, region, endpoint⟩, same⟩
            have known : knownCatalogId options reported ≠ [] := by
              intro empty
              rw [empty] at same
              exact some (List.map_eq_nil_iff.mp same.symm)
            exact ⟨⟨region, endpoint, (tells.known known).symm.trans same⟩, shown.1, shown.2, known⟩
          · rintro ⟨⟨region, endpoint, same⟩, own, temporary, known⟩
            exact ⟨⟨⟨own, temporary⟩, region, endpoint⟩, (tells.known known).trans same⟩
      | external type name =>
          obtain ⟨t, n, _, rfl, rfl, rfl⟩ := stored
          simp only [reduceCtorEq, false_and, iff_false, not_and]
          intro _ same
          -- an id of Glue has no such prefix
          have known : knownCatalogId options reported ≠ [] := by
            intro empty
            rw [empty, ciEquals_iff] at same
            exact some (List.map_eq_nil_iff.mp same.symm)
          have glueId := not_isExternal tells.account (ciEquals_iff.mpr (tells.known known))
          rw [isExternal_congr (ciEquals_iff.mp same), isExternal_externalIdentity] at glueId
          cases glueId
  | other type =>
      have typed := otherTyped type kind
      cases identity with
      | glue region endpoint own =>
          obtain ⟨rfl, rfl, rfl, plain⟩ := stored
          simp only [reduceCtorEq, false_and, iff_false, not_and]
          intro _ same
          rw [← isExternal_congr (ciEquals_iff.mp same), isExternal_externalIdentity] at plain
          cases plain
      | external type' name =>
          obtain ⟨t, n, typed', rfl, rfl, rfl⟩ := stored
          simp only [externalIdentity_iff typed typed', Bool.and_eq_true, Bool.not_eq_true', CatalogIdentity.external.injEq]
          constructor
          · rintro ⟨⟨⟨own, temporary⟩, usable⟩, same⟩
            exact ⟨same, own, temporary, usable⟩
          · rintro ⟨same, own, temporary, usable⟩
            exact ⟨⟨⟨own, temporary⟩, usable⟩, same⟩

/-- The setting lists the type in an id as it lists the type of the database. -/
theorem lists_iff {view : GlueAttachOptions} {identity : CatalogIdentity} {id : Identifier}
    (stored : identity.StoredBy view id) (here : db.identity ids = identity) :
    session.Lists db ↔
      (isExternal id = true → Identifier.count session.externalCatalogTypes (externalType id) = true) := by
  subst here
  unfold AttachedDatabase.identity at stored
  unfold Session.Lists
  cases kind : db.catalog with
  | glue options reported =>
      rw [kind] at stored
      obtain ⟨_, _, _, plain⟩ := stored
      rw [plain]
      exact iff_of_true trivial (fun impossible => by cases impossible)
  | other type =>
      rw [kind] at stored
      obtain ⟨t, n, typed, rfl, types, _⟩ := stored
      dsimp only
      simp only [isExternal_externalIdentity, externalType_externalIdentity typed, count_congr types, true_imp_iff]

end Names

section Reading

variable {session : Session} {view : GlueView} {aliases : AliasMap} {body read : QueryNode} {ids : List Identifier}

/-- How a stored table is read: under the alias of its id, or in the catalog of the view. -/
def ReadBack (aliases : AliasMap) (catalogName schemaName : Identifier) (stored read : ScopedReference) : Prop :=
  read.2 = stored.2 ∧ ∃ resolved : QualifiedName,
    (stored.1.catalog = [] → resolved = stored.1) ∧
    (stored.1.catalog ≠ [] → ∃ attached, aliases.find stored.1.catalog = some attached ∧
      resolved = { stored.1 with catalog := attached }) ∧
    pinReference catalogName schemaName resolved stored.2 () = .ok (read.1, ())

theorem readBack_of_visits {tables between read : List ScopedReference} {catalogName schemaName : Identifier}
    {toText : QualifiedName → Text} {options : GlueAttachOptions} {viewName : Text} {s t : Unit}
    (resolved : Visits (resolveReference toText options viewName aliases) s tables t between) :
    ∀ {u v : Unit}, Visits (pinReference catalogName schemaName) u between v read →
    List.Forall₂ (ReadBack aliases catalogName schemaName) tables read := by
  induction resolved generalizing read with
  | nil =>
      intro u v pinned
      cases pinned
      exact .nil
  | cons called _ ih =>
      intro u v pinned
      cases pinned with
      | cons pin later =>
          refine .cons ⟨rfl, _, ?_, ?_, pin⟩ (ih later)
          · intro own
            unfold resolveReference at called
            rw [if_pos own] at called
            exact (pure_ok.mp called).1.symm
          · intro named
            rcases resolveReference_ok called with ⟨own, _⟩ | attached
            · exact absurd own named
            · exact attached

theorem readBack_of_pinned {tables read : List ScopedReference} {catalogName schemaName : Identifier} {u v : Unit}
    (own : ∀ ref ∈ tables, ref.1.catalog = []) (pinned : Visits (pinReference catalogName schemaName) u tables v read) :
    List.Forall₂ (ReadBack aliases catalogName schemaName) tables read := by
  induction pinned with
  | nil => exact .nil
  | cons called _ ih =>
      obtain ⟨here, later⟩ := List.forall_mem_cons.mp own
      exact .cons ⟨rfl, _, fun _ => rfl, fun named => absurd here named, called⟩ (ih later)

/-- A body without ids is pinned when it is parsed. -/
theorem pinned_of_parse {parsed : ParsedView} (given : view.parseSelect = .ok body)
    (collected : referencedCatalogIds body = .ok ids) (own : ids = []) (done : view.parse = .ok parsed) :
    pinToCatalog view.catalogName view.schema body = .ok parsed.statement := by
  subst own
  unfold GlueView.parse at done
  rw [given] at done
  obtain ⟨found, here, rest⟩ := Fallible.bind_eq_ok.mp done
  cases collected.symm.trans here
  rw [if_pos rfl] at rest
  obtain ⟨pinned, pins, last⟩ := Fallible.bind_eq_ok.mp rest
  cases last
  exact pins

/-- The first query of a view in a session. -/
theorem getQuery_fresh (supported : view.unsupportedReason = []) (given : view.parseSelect = .ok body)
    (collected : referencedCatalogIds body = .ok ids) :
    (∀ read, (view.getQuery session {}).1 = .ok read →
      List.Forall₂ (ReadBack (view.aliases ids session) view.catalogName view.schema) (references [] body)
        (references [] read)) ∧
    ((∃ read, (view.getQuery session {}).1 = .ok read) ↔
      session.refused ids = none ∧ ∀ id ∈ ids, ((view.aliases ids session).find id).isSome = true) := by
  obtain ⟨stored, collects⟩ := referencedCatalogIds_ok collected
  obtain ⟨parsed, done, sameIds, withIds, withoutIds⟩ := GlueView.parse_of_body given collected
  have first : (view.getQuery session {}).1 = (view.getResolved session parsed []).1 := by
    unfold GlueView.getQuery
    rw [if_neg (not_not_intro supported)]
    simp only [Option.elim_none, done]
  rw [first]
  subst sameIds
  by_cases own : parsed.referencedIds = []
  · have answer : (view.getResolved session parsed []).1 = .ok parsed.statement := by
      unfold GlueView.getResolved
      rw [if_pos own]
    rw [answer, own]
    constructor
    · intro read same
      cases same
      obtain ⟨⟨pinned, _⟩, walked, same⟩ := Fallible.map_eq_ok.mp (pinned_of_parse given collected own done)
      cases same
      apply readBack_of_pinned _ (walk_visits walked)
      intro ref member
      by_contra named
      have counted := collects.counted ref member named
      rw [own] at counted
      cases counted
    · exact iff_of_true ⟨_, rfl⟩ ⟨rfl, fun id member => by cases member⟩
  · obtain rfl := withIds own
    cases refused : session.refused parsed.referencedIds with
    | some id =>
        have failed : ∀ query, (view.getResolved session parsed []).1 ≠ .ok query :=
          (GlueView.getResolved_of_refused own refused).2
        constructor
        · intro read answer
          exact absurd answer (failed read)
        · apply iff_of_false
          · intro ⟨read, answer⟩
            exact failed read answer
          · intro ⟨impossible, _⟩
            cases impossible
    | none =>
        have answer : (view.getResolved session parsed []).1 = view.resolveNow parsed session := by
          rw [GlueView.getResolved_of_admits own ⟨supported, refused⟩]
          exact KeyedCache.ask_of_find_none rfl
        rw [answer, GlueView.resolveNow_isOk collected rfl rfl]
        refine ⟨fun read reads => ?_, by simp⟩
        obtain ⟨copy, resolved, pinned⟩ := Fallible.bind_eq_ok.mp reads
        obtain ⟨⟨_, _⟩, first, rfl⟩ := Fallible.map_eq_ok.mp resolved
        obtain ⟨⟨_, _⟩, second, rfl⟩ := Fallible.map_eq_ok.mp pinned
        exact readBack_of_visits (walk_visits first) (walk_visits second)

theorem lower_externalType (id : Identifier) : lower (externalType id) = externalType (lower id) := by
  unfold externalType lower
  rw [← List.map_drop, List.takeWhile_map]
  congr 2
  funext c
  simp only [Function.comp_apply, ne_eq, toLower_eq_colon]

theorem Session.ready_congr {id other : Identifier} (same : ciEquals id other = true) :
    session.Ready aliases id ↔ session.Ready aliases other := by
  have sameType : lower (externalType id) = lower (externalType other) := by
    rw [lower_externalType, lower_externalType, ciEquals_iff.mp same]
  unfold Session.Ready
  rw [AliasMap.find_congr same, isExternal_congr (ciEquals_iff.mp same), count_congr sameType]

/-- No type is refused when all are listed. -/
theorem refused_eq_none {ids : List Identifier} :
    session.refused ids = none ↔
      ∀ id ∈ ids, isExternal id = true → Identifier.count session.externalCatalogTypes (externalType id) = true := by
  have run : ∀ (ids : List Identifier) (refused : Option Identifier),
      ids.foldl (fun refused id =>
        if isExternal id && !Identifier.count session.externalCatalogTypes (externalType id) &&
          refused.all (Identifier.before id) then some id else refused) refused = none ↔
      refused = none ∧
        ∀ id ∈ ids, isExternal id = true → Identifier.count session.externalCatalogTypes (externalType id) = true := by
    intro ids
    induction ids with
    | nil => simp
    | cons id rest ih =>
        intro refused
        rw [List.foldl_cons, ih, List.forall_mem_cons]
        cases refused with
        | some before =>
            split_ifs <;> simp
        | none =>
            cases external : isExternal id <;>
              cases listed : Identifier.count session.externalCatalogTypes (externalType id) <;> simp
  unfold Session.refused
  rw [run]
  simp

theorem forall_iff_of_forall₂ {α β : Type} {related : α → β → Prop} {p : α → Prop} {q : β → Prop} {xs : List α} {ys : List β}
    (pairs : List.Forall₂ related xs ys) (each : ∀ x, ∀ y ∈ ys, related x y → (p x ↔ q y)) :
    (∀ x ∈ xs, p x) ↔ ∀ y ∈ ys, q y := by
  induction pairs with
  | nil => exact iff_of_true (fun x member => by cases member) (fun y member => by cases member)
  | cons here _ ih =>
      rw [List.forall_mem_cons, List.forall_mem_cons, each _ _ List.mem_cons_self here,
        ih fun x y member => each x y (List.mem_cons_of_mem _ member)]

theorem forall₂_comp {α β γ : Type} {one : α → β → Prop} {two : β → γ → Prop} {both : α → γ → Prop} {xs : List α}
    {ys : List β} {zs : List γ} (first : List.Forall₂ one xs ys) (second : List.Forall₂ two ys zs)
    (each : ∀ x y z, one x y → two y z → both x z) : List.Forall₂ both xs zs := by
  induction first generalizing zs with
  | nil =>
      cases second
      exact .nil
  | cons here _ ih =>
      cases second with
      | cons there later => exact .cons (each _ _ _ here there) (ih later)

end Reading

/-- A view that was stored with the query it was created with, in a session that has its
catalog attached. -/
structure StoredView (creation : ViewCreation) (ids : Identifier → Text) (query : QueryNode) (view : GlueView)
    (session : Session) (ids' : Identifier → Text) : Prop where
  truthful : creation.Truthful ids
  known : ∀ db ∈ session.databases, db.Truthful ids'
  attachedOnce : session.databases.Pairwise fun a b => ciEquals a.name b.name = false
  stored : ∃ body, creation.qualifyForStorage query = .ok body ∧ view.parseSelect = .ok body
  supported : view.unsupportedReason = []
  home : ∃ home ∈ session.databases, home.name = view.catalogName ∧
    (∃ reported, home.catalog = .glue view.options reported) ∧ home.identity ids' = creation.catalog.identity ids

section RoundTrip

variable {creation : ViewCreation} {ids ids' : Identifier → Text} {query : QueryNode} {view : GlueView} {session : Session}
  {source : ViewSource} {ref stored read : ScopedReference} {catalogIds : List Identifier}

/-- The service of the view is the one it was created in. -/
theorem StoredView.service (storedView : StoredView creation ids query view session ids') :
    lower creation.options.region = lower view.options.region ∧
      lower creation.options.endpoint = lower view.options.endpoint := by
  obtain ⟨home, _, _, ⟨reported, kind⟩, same⟩ := storedView.home
  unfold AttachedDatabase.identity at same
  rw [kind, creation.isGlue] at same
  injection same with region endpoint
  exact ⟨region.symm, endpoint.symm⟩

theorem StoredView.storedBy (storedView : StoredView creation ids query view session ids') {identity : CatalogIdentity}
    {id : Identifier} (stored : identity.StoredBy creation.options id) : identity.StoredBy view.options id := by
  obtain ⟨region, endpoint⟩ := storedView.service
  cases identity with
  | glue =>
      obtain ⟨rfl, rfl, rest⟩ := stored
      exact ⟨region, endpoint, rest⟩
  | external => exact stored

/-- A stored name that is read is the source it was. -/
theorem StoredView.source_read (storedView : StoredView creation ids query view session ids')
    (storedAs : creation.StoredAs ids source stored)
    (readBack : ReadBack (view.aliases catalogIds session) view.catalogName view.schema stored read) :
    session.source ids' read = some source := by
  obtain ⟨sameScope, resolved, own, other, pinned⟩ := readBack
  obtain ⟨readName, readScope⟩ := read
  obtain rfl : readScope = stored.2 := sameScope
  cases storedAs with
  | cte inScope =>
      obtain rfl := own rfl
      unfold pinReference at pinned
      simp only [ne_eq, not_true_eq_false, decide_false, Bool.and_false, inScope, Bool.not_true] at pinned
      cases pinned
      simp [Session.source, inScope]
  | own inSchema =>
      obtain rfl := own rfl
      unfold pinReference at pinned
      simp only [ne_eq, inSchema, not_false_eq_true, decide_true, Bool.and_self, if_true] at pinned
      cases pinned
      obtain ⟨home, attached, name, _, same⟩ := storedView.home
      rw [source_of_database storedView.attachedOnce attached (name ▸ ciEquals_refl _), same]
  | other named inSchema elsewhere storedBy =>
      obtain ⟨attached, found, rfl⟩ := other named
      obtain ⟨db, member, rfl, eligible, same⟩ := attachedAliases_aliased.found _ _ found
      have read := pinReference_named pinned db.named
      subst read
      obtain ⟨identity, _⟩ := (eligible_iff (storedView.storedBy storedBy) named (storedView.known db member)).mp
        ⟨eligible, same⟩
      rw [source_of_database storedView.attachedOnce member (ciEquals_refl _), identity]

/-- What the session needs for a stored name. -/
theorem StoredView.ready_iff (storedView : StoredView creation ids query view session ids') (knowsOwn : creation.KnowsOwnId)
    (storedAs : creation.StoredAs ids source stored)
    (counted : stored.1.catalog ≠ [] → Identifier.count catalogIds stored.1.catalog = true) :
    (stored.1.catalog ≠ [] → session.Ready (view.aliases catalogIds session) stored.1.catalog) ↔
      session.Reaches ids' (creation.catalog.identity ids) source := by
  cases storedAs with
  | cte => exact iff_of_true (fun named => absurd rfl named) trivial
  | own => exact iff_of_true (fun named => absurd rfl named) (.inl rfl)
  | other named inSchema elsewhere storedBy =>
      have storedBy' := storedView.storedBy storedBy
      have counted := counted named
      unfold Session.Ready GlueView.aliases Session.Reaches
      rw [find_attachedAliases_isSome counted]
      constructor
      · intro ready
        obtain ⟨listed, db, member, rest⟩ := ready named
        obtain ⟨identity, offered⟩ := (eligible_iff storedBy' named (storedView.known db member)).mp rest
        exact .inr ⟨db, member, identity, offered, (lists_iff storedBy' identity).mpr listed⟩
      · intro reaches _
        obtain ⟨db, member, identity, offered, listed⟩ := reaches.resolve_left (elsewhere knowsOwn)
        exact ⟨(lists_iff storedBy' identity).mp listed, db, member,
          (eligible_iff storedBy' named (storedView.known db member)).mpr ⟨identity, offered⟩⟩

theorem collectId_runs {name : QualifiedName} {visible : List Identifier} : Runs (collectId name visible) := by
  intro s
  unfold collectId
  split_ifs
  · exact ⟨_, _, rfl⟩
  · exact ⟨_, _, rfl⟩

theorem referencedCatalogIds_runs {body : QueryNode} (stored : storable body = true) :
    ∃ ids, referencedCatalogIds body = .ok ids := by
  have takes : Takes collectId (references [] body) := by
    intro ref _
    exact collectId_runs
  obtain ⟨_, ids, walked⟩ := walk_runs stored takes []
  exact ⟨ids, Fallible.map_eq_ok.mpr ⟨_, walked, rfl⟩⟩

/-- The first query of a stored view in a session reads every table it named when it was
created, and every CTE; and it is answered exactly when the session has the catalogs of all of
these. -/
theorem storedView_readsBack (storedView : StoredView creation ids query view session ids') :
    (∀ read, (view.getQuery session {}).1 = .ok read →
      List.Forall₂ (fun ref given => given.2 = ref.2 ∧
        ∃ source, creation.Names ids ref source ∧ session.source ids' given = some source)
        (references [] query) (references [] read)) ∧
    (creation.KnowsOwnId → ((∃ read, (view.getQuery session {}).1 = .ok read) ↔
      ∀ ref ∈ references [] query, ∀ source, creation.Names ids ref source →
        session.Reaches ids' (creation.catalog.identity ids) source)) := by
  obtain ⟨body, qualified, given⟩ := storedView.stored
  obtain ⟨storedBody, stores⟩ := ViewCreation.qualifyForStorage_ok storedView.truthful qualified
  obtain ⟨catalogIds, collected⟩ := referencedCatalogIds_runs storedBody
  obtain ⟨_, collects⟩ := referencedCatalogIds_ok collected
  obtain ⟨reads, answered⟩ := @getQuery_fresh session view body catalogIds storedView.supported given collected
  constructor
  · intro read answer
    apply forall₂_comp stores (reads read answer)
    intro ref stored given ⟨sameScope, source, names, storedAs⟩ readBack
    exact ⟨readBack.1.trans sameScope, source, names, storedView.source_read storedAs readBack⟩
  · intro knowsOwn
    rw [answered, refused_eq_none, ← forall₂_and]
    have ready : (∀ id ∈ catalogIds, session.Ready (view.aliases catalogIds session) id) ↔
        ∀ stored ∈ references [] body, stored.1.catalog ≠ [] →
          session.Ready (view.aliases catalogIds session) stored.1.catalog := by
      constructor
      · intro all stored member named
        obtain ⟨id, inIds, same⟩ := Identifier.count_iff.mp (collects.counted stored member named)
        exact (Session.ready_congr same).mpr (all id inIds)
      · intro all id inIds
        rcases collects.named id inIds with old | ⟨stored, member, rfl, named⟩
        · cases old
        · exact all stored member named
    refine ready.trans (forall_iff_of_forall₂ stores ?_).symm
    intro ref stored member ⟨_, source, names, storedAs⟩
    rw [storedView.ready_iff knowsOwn storedAs (collects.counted stored member)]
    constructor
    · intro reaches
      exact reaches source names
    · intro reaches other names'
      rw [names'.unique names]
      exact reaches

end RoundTrip

section Orders

/-- A Glue catalog whose id was reported. -/
def reportedCatalog (name : Identifier) (id : Text) (named : name ≠ []) : AttachedDatabase where
  name := name
  catalog := .glue { region := "eu-west-1" } id
  named := named

def lakeDatabase : AttachedDatabase := reportedCatalog "lake" "111111111111" (by decide)

def shopDatabase : AttachedDatabase := reportedCatalog "shop" "222222222222" (by decide)

def customersFound : FoundTable := ⟨lakeDatabase, "sales", "customers", by decide⟩

def ordersFound : FoundTable := ⟨shopDatabase, "web", "orders", by decide⟩

def findOrders (name : QualifiedName) : Option FoundTable :=
  if name = ⟨"shop", [], "orders"⟩ then some ordersFound
  else if name = ⟨"lake", "sales", "customers"⟩ then some customersFound
  else none

theorem findOrders_some {name : QualifiedName} {found : FoundTable} (here : findOrders name = some found) :
    found = ordersFound ∨ found = customersFound := by
  unfold findOrders at here
  split_ifs at here
  · exact .inl (Option.some.inj here).symm
  · exact .inr (Option.some.inj here).symm

/-- A view of `lake.sales`, where `shop` is attached too. -/
def ordersCreation : ViewCreation where
  catalog := lakeDatabase
  options := { region := "eu-west-1" }
  reportedCatalogId := "111111111111"
  isGlue := rfl
  schema := "sales"
  lookupTable := fun name => .ok (findOrders name)
  attachedOnce := by
    intro name found here same
    rcases findOrders_some (Except.ok.inj here) with rfl | rfl
    · exact absurd same (by decide)
    · rfl
  bindSchemaOrCatalog := fun schema => .ok (if schema = "shop".toList then "shop" else [])
  getReportedCatalogId := fun _ => .ok []
  toText := fun name => name.name
  columnText := fun name => name.column
  expressionText := fun _ => []

/-- `WITH c AS (FROM customers) FROM c JOIN shop.orders`, with the names of its tables. -/
def ordersQuery (customers orders : QualifiedName) : QueryNode :=
  .select [.mk "c" (some (.select [] (some (.baseTable customers)) [] [] none none none [])) []]
    (some (.join (.baseTable ⟨[], [], "c"⟩) (.baseTable orders) none none)) [] [] none none none []

theorem c_named : ("c" : Identifier) ≠ [] := by decide

theorem house_named : ("house" : Identifier) ≠ [] := by decide

/-- The other catalog is attached as `c` now, like the CTE. -/
def ordersSession : Session where
  databases := [reportedCatalog "c" "222222222222" c_named, reportedCatalog "house" "111111111111" house_named]

def ordersView : GlueView where
  catalogName := "house"
  options := { region := "eu-west-1" }
  schema := "sales"
  schemaName := "sales"
  name := "v"
  parseSelect := .ok (ordersQuery ⟨[], "sales", "customers"⟩ ⟨"222222222222", "web", "orders"⟩)
  toText := fun name => name.name

def firstIds (name : Identifier) : Text := if name = "shop".toList then "222222222222" else "111111111111"

def laterIds (name : Identifier) : Text := if name = "c".toList then "222222222222" else "111111111111"

theorem reportedCatalog_truthful {name : Identifier} {id : Text} {named : name ≠ []} {ids : Identifier → Text}
    (same : ids name = id) (account : startsWithAccountId id = true) : (reportedCatalog name id named).Truthful ids := by
  constructor
  · intro options reported kind
    cases kind
    constructor
    · exact same ▸ account
    · intro _
      exact same ▸ ciEquals_refl _
    · intro impossible
      cases impossible
  · intro type kind
    cases kind

theorem ordersView_stored :
    StoredView ordersCreation firstIds (ordersQuery ⟨[], [], "customers"⟩ ⟨[], "shop", "orders"⟩) ordersView ordersSession
      laterIds where
  truthful := by
    constructor
    · exact reportedCatalog_truthful (by decide) (by decide)
    · intro name found here
      rcases findOrders_some (Except.ok.inj here) with rfl | rfl
      · exact reportedCatalog_truthful (by decide) (by decide)
      · exact reportedCatalog_truthful (by decide) (by decide)
    · intro db id told some
      exact absurd (Except.ok.inj told).symm some
  known := by
    intro db member
    simp only [ordersSession, List.mem_cons, List.not_mem_nil, or_false] at member
    rcases member with rfl | rfl
    · exact reportedCatalog_truthful (by decide) (by decide)
    · exact reportedCatalog_truthful (by decide) (by decide)
  attachedOnce := by decide
  stored := ⟨_, rfl, rfl⟩
  supported := rfl
  home := ⟨_, List.mem_cons_of_mem _ List.mem_cons_self, rfl, ⟨_, rfl⟩, by decide⟩

/-- The view reads what it named, and the session has the catalogs it named. -/
theorem ordersView_readsBack :
    List.Forall₂ (fun ref given => given.2 = ref.2 ∧
      ∃ source, ordersCreation.Names firstIds ref source ∧ ordersSession.source laterIds given = some source)
      (references [] (ordersQuery ⟨[], [], "customers"⟩ ⟨[], "shop", "orders"⟩))
      (references [] (ordersQuery ⟨"house", "sales", "customers"⟩ ⟨"c", "web", "orders"⟩)) ∧
    ∀ ref ∈ references [] (ordersQuery ⟨[], [], "customers"⟩ ⟨[], "shop", "orders"⟩), ∀ source,
      ordersCreation.Names firstIds ref source →
        ordersSession.Reaches laterIds (ordersCreation.catalog.identity firstIds) source := by
  have readsBack := storedView_readsBack ordersView_stored
  have knowsOwn : ordersCreation.KnowsOwnId := by
    intro id known
    cases known
    decide
  exact ⟨readsBack.1 _ rfl, (readsBack.2 knowsOwn).mp ⟨_, rfl⟩⟩

end Orders

end DuckGlue
