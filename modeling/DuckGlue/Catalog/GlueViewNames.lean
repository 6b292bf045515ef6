import DuckGlue.Catalog.ViewBody

/-! # The catalogs a view names

A stored view names the tables of other catalogs by an identity: the id of a Glue catalog,
or the type and the alias of another kind of catalog. Reading it puts the aliases these are
attached under now in their place.
-/

namespace DuckGlue

open StringUtil ViewBodyWalker

/-- The options of `GlueAttachOptions` that tell which Glue catalog is meant. -/
structure GlueAttachOptions where
  catalogId : Text := []
  region : Text
  endpoint : Text := []

/-- The catalog of an attached database. -/
inductive AttachedCatalog where
  /-- `reported_catalog_id` is empty until Glue was asked. -/
  | glue (options : GlueAttachOptions) (reportedCatalogId : Text)
  | other (type : Text)

structure AttachedDatabase where
  name : Identifier
  catalog : AttachedCatalog
  isSystem : Bool := false
  isTemporary : Bool := false
  hidden : Bool := false
  inMemory : Bool := false
  /-- SQL has no empty identifiers. -/
  named : name ≠ []

/-- `StartsWithAccountId` -/
def startsWithAccountId (path : Text) : Bool :=
  (path.take 12).length = 12 && (path.take 12).all Char.isDigit && (path.length = 12 || path[12]? = some ':')

/-- `KnownCatalogId` -/
def knownCatalogId (options : GlueAttachOptions) (reportedCatalogId : Text) : Text :=
  if reportedCatalogId ≠ [] then reportedCatalogId
  else if startsWithAccountId options.catalogId then options.catalogId else []

/-- A catalog id names a catalog only within one region and endpoint. -/
def sameGlueService (a b : GlueAttachOptions) : Bool := ciEquals a.region b.region && ciEquals a.endpoint b.endpoint

def serviceName (options : GlueAttachOptions) : Text :=
  if options.endpoint = [] then "region ".toList ++ options.region
  else "region ".toList ++ options.region ++ " at endpoint ".toList ++ options.endpoint

def externalPrefix : Text := "external:"

def externalIdentity (type name : Text) : Identifier := externalPrefix ++ type ++ ':' :: name

def AttachedDatabase.usableExternalCatalog (db : AttachedDatabase) : Bool := !db.isSystem && !db.hidden && !db.inMemory

/-- An `identifier_tree_t<Identifier>`: in the order of its keys. -/
abbrev AliasMap := List (Identifier × Identifier)

namespace AliasMap

/-- `find` -/
def find (aliases : AliasMap) (id : Identifier) : Option Identifier :=
  (List.find? (fun entry => ciEquals entry.1 id) aliases).map (·.2)

/-- `aliases[id] = name` -/
def assign (id name : Identifier) : AliasMap → AliasMap
  | [] => [(id, name)]
  | (key, value) :: rest =>
      if ciEquals key id then (key, name) :: rest
      else if Identifier.before id key then (id, name) :: (key, value) :: rest
      else (key, value) :: assign id name rest

theorem find_congr {aliases : AliasMap} {id other : Identifier} (same : ciEquals id other = true) :
    find aliases id = find aliases other := by
  unfold find
  simp only [ciEquals, ciEquals_iff.mp same]

theorem mem_of_find {aliases : AliasMap} {id name : Identifier} (found : find aliases id = some name) :
    ∃ entry ∈ aliases, entry.2 = name := by
  obtain ⟨entry, here, rfl⟩ := Option.map_eq_some_iff.mp found
  exact ⟨entry, List.mem_of_find?_eq_some here, rfl⟩

theorem mem_assign {aliases : AliasMap} {id name : Identifier} {entry : Identifier × Identifier}
    (member : entry ∈ assign id name aliases) : entry.2 = name ∨ entry ∈ aliases := by
  induction aliases with
  | nil => exact .inl (by rw [List.mem_singleton.mp member])
  | cons first rest ih =>
      unfold assign at member
      split_ifs at member
      · rcases List.mem_cons.mp member with rfl | later
        · exact .inl rfl
        · exact .inr (List.mem_cons_of_mem _ later)
      · rcases List.mem_cons.mp member with rfl | later
        · exact .inl rfl
        · exact .inr later
      · rcases List.mem_cons.mp member with rfl | later
        · exact .inr List.mem_cons_self
        · exact (ih later).imp_right (List.mem_cons_of_mem _)

end AliasMap

namespace GlueViewNames

/-- `GlueViewNames::IsExternal`: the prefix in any case. -/
def isExternal (id : Identifier) : Bool := startsWith (lower id) externalPrefix

/-- `GlueViewNames::ExternalType` -/
def externalType (id : Identifier) : Text := (id.drop externalPrefix.length).takeWhile (· ≠ ':')

/-- Takes no part in a walk. -/
def noExpressions {σ : Type} : ExpressionCallback σ := fun _ => return ()

def collectId : BaseTableCallback (List Identifier) := fun name _ => do
  if name.catalog ≠ [] then
    modify fun ids => Identifier.insert ids name.catalog
  return name

/-- `GlueViewNames::ReferencedCatalogIds` -/
def referencedCatalogIds (query : QueryNode) : Except Exception (List Identifier) :=
  Prod.snd <$> walk collectId noExpressions query []

/-- One database of `AttachedAliases`. -/
def addAlias (view : GlueAttachOptions) (ids : List Identifier) (aliases : AliasMap) (db : AttachedDatabase) : AliasMap :=
  if db.isSystem || db.isTemporary then aliases
  else
    match db.catalog with
    | .other type =>
        -- an identity names one alias
        let id := externalIdentity type db.name
        if Identifier.count ids id && db.usableExternalCatalog then AliasMap.assign id db.name aliases else aliases
    | .glue options reportedCatalogId =>
        let id := knownCatalogId options reportedCatalogId
        if !Identifier.count ids id || !sameGlueService options view then aliases
        else
          match AliasMap.find aliases id with
          | none => AliasMap.assign id db.name aliases
          | some existing => if Identifier.before db.name existing then AliasMap.assign id db.name aliases else aliases

/-- `GlueViewNames::AttachedAliases`: id -> alias, same region and endpoint only; the
first alias alphabetically. -/
def attachedAliases (view : GlueAttachOptions) (databases : List AttachedDatabase) (ids : List Identifier) : AliasMap :=
  databases.foldl (addAlias view ids) []

/-- What is thrown for a table whose catalog is not attached. `toText` is how DuckDB prints
a name. -/
def notAttached (toText : QualifiedName → Text) (view : GlueAttachOptions) (viewName : Text) (name : QualifiedName) :
    Exception :=
  let reads := "Glue view \"".toList ++ viewName ++ "\" reads ".toList ++ toText name
  if isExternal name.catalog then
    .binder (reads ++ ": no usable catalog of that type is attached under that alias".toList)
  else
    let endpoint := if view.endpoint = [] then [] else ", ENDPOINT '".toList ++ view.endpoint ++ ['\'']
    .binder (reads ++ " from Glue catalog ".toList ++ name.catalog ++ ", which is not attached in ".toList ++
      serviceName view ++ (" (or is attached with VERIFY_CONNECTION false and its id was not fetched yet); " ++
      "ATTACH '").toList ++ name.catalog ++ "' (TYPE GLUE, REGION '".toList ++ view.region ++ ['\''] ++ endpoint ++
      ") to read it".toList)

/-- A table named by an id, read under the alias of the id. -/
def resolveReference (toText : QualifiedName → Text) (view : GlueAttachOptions) (viewName : Text) (aliases : AliasMap) :
    BaseTableCallback Unit := fun name _ =>
  if name.catalog = [] then return name
  else
    match AliasMap.find aliases name.catalog with
    | some attached => return { name with catalog := attached }
    | none => throw (notAttached toText view viewName name)

/-- `GlueViewNames::ResolveForReading` -/
def resolveForReading (toText : QualifiedName → Text) (view : GlueAttachOptions) (viewName : Text) (aliases : AliasMap)
    (query : QueryNode) : Except Exception QueryNode :=
  Prod.fst <$> walk (resolveReference toText view viewName aliases) noExpressions query ()

/-- A table of the view's own catalog, read there. -/
def pinReference (catalogName schemaName : Identifier) : BaseTableCallback Unit := fun name visible =>
  if name.catalog = [] && name.schema ≠ [] then return { name with catalog := catalogName }
  else if name.catalog = [] && !Identifier.count visible name.name then
    -- a bare name (not stored by DuckDB) would bind through the search path
    return { name with catalog := catalogName, schema := schemaName }
  else return name

/-- `GlueViewNames::PinToCatalog` -/
def pinToCatalog (catalogName schemaName : Identifier) (query : QueryNode) : Except Exception QueryNode :=
  Prod.fst <$> walk (pinReference catalogName schemaName) noExpressions query ()

/-- A table named by an id is read under the alias of the id. -/
def ReadsAs (aliases : AliasMap) (stored read : ScopedReference) : Prop :=
  stored.1.catalog ≠ [] →
    ∃ name, AliasMap.find aliases stored.1.catalog = some name ∧ read.1 = { stored.1 with catalog := name }

/-- Every table a body names by an id is read under the alias of the id. -/
def ReadsUnder (aliases : AliasMap) (body query : QueryNode) : Prop :=
  List.Forall₂ (ReadsAs aliases) (references [] body) (references [] query)

section Reading

variable {toText : QualifiedName → Text} {view : GlueAttachOptions} {viewName : Text} {aliases : AliasMap}
  {body copy query : QueryNode} {ids : List Identifier} {databases : List AttachedDatabase}
  {catalogName schemaName : Identifier}

theorem looks_noExpressions {σ : Type} : Looks (noExpressions : ExpressionCallback σ) := by
  intro _ s t looked
  exact (pure_ok.mp looked).2

theorem runs_noExpressions {σ : Type} (expr : ParsedExpression) : Runs ((noExpressions : ExpressionCallback σ) expr) := .pure

theorem walk_visits {σ : Type} {callback : BaseTableCallback σ} {s t : σ} {node node' : QueryNode}
    (done : walk callback noExpressions node s = .ok (node', t)) :
    Visits callback s (references [] node) t (references [] node') := visitNode_visits looks_noExpressions done

theorem walk_runs {σ : Type} {callback : BaseTableCallback σ} {node : QueryNode} (stored : storable node = true)
    (takes : Takes callback (references [] node)) : Runs (walk callback noExpressions node) :=
  visitNode_runs looks_noExpressions runs_noExpressions stored takes

theorem collectId_ok {name given : QualifiedName} {visible s t : List Identifier}
    (called : collectId name visible s = .ok (given, t)) :
    t = if name.catalog = [] then s else Identifier.insert s name.catalog := by
  unfold collectId at called
  split_ifs with empty
  · simp only [empty, ne_eq, not_true_eq_false, if_false] at called
    cases called
    rfl
  · simp only [empty, ne_eq, not_false_eq_true, if_true] at called
    cases called
    rfl

/-- The ids collected on the way through tables. -/
structure Collects (s : List Identifier) (tables : List ScopedReference) (t : List Identifier) : Prop where
  kept : ∀ id ∈ s, id ∈ t
  counted : ∀ ref ∈ tables, ref.1.catalog ≠ [] → Identifier.count t ref.1.catalog = true
  named : ∀ id ∈ t, id ∈ s ∨ ∃ ref ∈ tables, ref.1.catalog = id ∧ id ≠ []

theorem collects_of_visits {s t : List Identifier} {tables read : List ScopedReference}
    (visits : Visits collectId s tables t read) : Collects s tables t := by
  induction visits with
  | nil => exact ⟨fun id member => member, nofun, fun id member => .inl member⟩
  | @cons s middle t name given visible rest read called later ih =>
      have step := collectId_ok called
      have within : ∀ id ∈ s, id ∈ middle := by
        intro id member
        rw [step]
        split_ifs
        · exact member
        · exact Identifier.mem_insert_of_mem member
      constructor
      · intro id member
        exact ih.kept id (within id member)
      · intro ref member catalog
        rcases List.mem_cons.mp member with rfl | below
        · apply Identifier.count_mono ih.kept
          rw [step, if_neg catalog]
          exact Identifier.count_insert
        · exact ih.counted ref below catalog
      · intro id member
        rcases ih.named id member with before | ⟨ref, below, same⟩
        · rw [step] at before
          split_ifs at before with empty
          · exact .inl before
          · rcases Identifier.mem_insert before with old | rfl
            · exact .inl old
            · exact .inr ⟨(name, visible), List.mem_cons_self, rfl, empty⟩
        · exact .inr ⟨ref, List.mem_cons_of_mem _ below, same⟩

theorem referencedCatalogIds_ok (done : referencedCatalogIds body = .ok ids) :
    storable body = true ∧ Collects [] (references [] body) ids := by
  obtain ⟨⟨walked, _⟩, through, rfl⟩ := Fallible.map_eq_ok.mp done
  exact ⟨(visitNode_storable through).1, collects_of_visits (walk_visits through)⟩

theorem resolveReference_ok {name given : QualifiedName} {visible : List Identifier} {s t : Unit}
    (called : resolveReference toText view viewName aliases name visible s = .ok (given, t)) :
    (name.catalog = [] ∧ given = name) ∨
      ∃ attached, AliasMap.find aliases name.catalog = some attached ∧ given = { name with catalog := attached } := by
  unfold resolveReference at called
  split_ifs at called with empty
  · exact .inl ⟨empty, (pure_ok.mp called).1.symm⟩
  · cases found : AliasMap.find aliases name.catalog with
    | some attached =>
        rw [found] at called
        exact .inr ⟨attached, rfl, (pure_ok.mp called).1.symm⟩
    | none =>
        rw [found] at called
        exact (throw_ok.mp called).elim

theorem resolveReference_runs {name : QualifiedName} {visible : List Identifier}
    (attached : name.catalog ≠ [] → (AliasMap.find aliases name.catalog).isSome = true) :
    Runs (resolveReference toText view viewName aliases name visible) := by
  unfold resolveReference
  split_ifs with empty
  · exact .pure
  · obtain ⟨found, here⟩ := Option.isSome_iff_exists.mp (attached empty)
    rw [here]
    exact .pure

theorem pinReference_runs {name : QualifiedName} {visible : List Identifier} :
    Runs (pinReference catalogName schemaName name visible) := by
  unfold pinReference
  split_ifs <;> exact .pure

/-- A table of a catalog stays there. -/
theorem pinReference_named {name given : QualifiedName} {visible : List Identifier} {s t : Unit}
    (called : pinReference catalogName schemaName name visible s = .ok (given, t)) (named : name.catalog ≠ []) :
    given = name := by
  unfold pinReference at called
  rw [if_neg (by simp [named]), if_neg (by simp [named])] at called
  exact (pure_ok.mp called).1.symm

theorem addAlias_named {db : AttachedDatabase} (named : ∀ entry ∈ aliases, entry.2 ≠ []) :
    ∀ entry ∈ addAlias view ids aliases db, entry.2 ≠ [] := by
  have assigned : ∀ id, ∀ entry ∈ AliasMap.assign id db.name aliases, entry.2 ≠ [] := by
    intro id entry member
    rcases AliasMap.mem_assign member with same | old
    · rw [same]
      exact db.named
    · exact named entry old
  intro entry
  unfold addAlias
  split_ifs
  · exact named entry
  · cases db.catalog with
    | other type =>
        dsimp only
        split_ifs
        · exact assigned _ entry
        · exact named entry
    | glue options reported =>
        dsimp only
        split_ifs
        · exact named entry
        · cases AliasMap.find aliases (knownCatalogId options reported) with
          | none => exact assigned _ entry
          | some existing =>
              dsimp only
              split_ifs
              · exact assigned _ entry
              · exact named entry

theorem attachedAliases_named : ∀ entry ∈ attachedAliases view databases ids, entry.2 ≠ [] := by
  have step : ∀ (aliases : AliasMap), (∀ entry ∈ aliases, entry.2 ≠ []) →
      ∀ entry ∈ databases.foldl (addAlias view ids) aliases, entry.2 ≠ [] := by
    induction databases with
    | nil =>
        intro aliases named
        exact named
    | cons db rest ih =>
        intro aliases named
        exact ih (addAlias view ids aliases db) (addAlias_named named)
  exact step [] nofun

/-- Two passes: the ids give way to aliases, and what is left goes to the view's catalog. -/
theorem readsAs_of_visits {s t : Unit} {tables between read : List ScopedReference}
    (named : ∀ entry ∈ aliases, entry.2 ≠ [])
    (resolved : Visits (resolveReference toText view viewName aliases) s tables t between) :
    ∀ {u v : Unit}, Visits (pinReference catalogName schemaName) u between v read →
    List.Forall₂ (ReadsAs aliases) tables read := by
  induction resolved generalizing read with
  | nil =>
      intro u v pinned
      cases pinned
      exact .nil
  | cons called _ ih =>
      intro u v pinned
      cases pinned with
      | cons pin later =>
          refine .cons ?_ (ih later)
          intro stored
          rcases resolveReference_ok called with ⟨empty, _⟩ | ⟨attached, found, rfl⟩
          · exact absurd empty stored
          · obtain ⟨entry, member, same⟩ := AliasMap.mem_of_find found
            have catalog : attached ≠ [] := same ▸ named entry member
            exact ⟨attached, found, pinReference_named pin catalog⟩

/-- A body that was resolved and pinned is read under the aliases. -/
theorem readsUnder_of_resolved (resolved : resolveForReading toText view viewName aliases body = .ok copy)
    (pinned : pinToCatalog catalogName schemaName copy = .ok query) (named : ∀ entry ∈ aliases, entry.2 ≠ []) :
    ReadsUnder aliases body query := by
  obtain ⟨⟨_, _⟩, first, rfl⟩ := Fallible.map_eq_ok.mp resolved
  obtain ⟨⟨_, _⟩, second, rfl⟩ := Fallible.map_eq_ok.mp pinned
  exact readsAs_of_visits named (walk_visits first) (walk_visits second)

theorem pinToCatalog_ok (stored : storable body = true) : ∃ query, pinToCatalog catalogName schemaName body = .ok query := by
  have takes : Takes (pinReference catalogName schemaName) (references [] body) := fun _ _ => pinReference_runs
  obtain ⟨query, t, walked⟩ := walk_runs stored takes ()
  exact ⟨query, Fallible.map_eq_ok.mpr ⟨(query, t), walked, rfl⟩⟩

/-- A body whose ids are all attached is resolved. -/
theorem resolveForReading_ok (stored : storable body = true)
    (attached : ∀ ref ∈ references [] body, ref.1.catalog ≠ [] → (AliasMap.find aliases ref.1.catalog).isSome = true) :
    ∃ copy, resolveForReading toText view viewName aliases body = .ok copy ∧ storable copy = true := by
  have takes : Takes (resolveReference toText view viewName aliases) (references [] body) := by
    intro ref member
    exact resolveReference_runs (attached ref member)
  obtain ⟨copy, t, walked⟩ := walk_runs stored takes ()
  exact ⟨copy, Fallible.map_eq_ok.mpr ⟨(copy, t), walked, rfl⟩, (visitNode_storable walked).2⟩

theorem readsAs_of_pinned {s t : Unit} {tables read : List ScopedReference}
    (pinned : Visits (pinReference catalogName schemaName) s tables t read)
    (own : ∀ ref ∈ tables, ref.1.catalog = []) : List.Forall₂ (ReadsAs aliases) tables read := by
  induction pinned with
  | nil => exact .nil
  | cons _ _ ih =>
      obtain ⟨here, later⟩ := List.forall_mem_cons.mp own
      exact .cons (fun stored => absurd here stored) (ih later)

/-- A body without ids is read as it should under any aliases. -/
theorem readsUnder_of_pinned (pinned : pinToCatalog catalogName schemaName body = .ok query)
    (own : ∀ ref ∈ references [] body, ref.1.catalog = []) : ReadsUnder aliases body query := by
  obtain ⟨⟨_, _⟩, walked, rfl⟩ := Fallible.map_eq_ok.mp pinned
  exact readsAs_of_pinned (walk_visits walked) own

/-- Every table is read in some way. -/
theorem exists_readsAs {tables read : List ScopedReference} (reads : List.Forall₂ (ReadsAs aliases) tables read) :
    ∀ ref ∈ tables, ∃ given, ReadsAs aliases ref given := by
  induction reads with
  | nil => nofun
  | cons here _ ih => exact List.forall_mem_cons.mpr ⟨⟨_, here⟩, ih⟩

/-- One query read under two maps: they agree on the ids. -/
theorem find_eq_of_reads {other : AliasMap} {tables read : List ScopedReference}
    (one : List.Forall₂ (ReadsAs aliases) tables read) (two : List.Forall₂ (ReadsAs other) tables read) :
    ∀ ref ∈ tables, ref.1.catalog ≠ [] → AliasMap.find aliases ref.1.catalog = AliasMap.find other ref.1.catalog := by
  induction one with
  | nil => nofun
  | cons here _ ih =>
      cases two with
      | cons there later =>
          intro ref member stored
          rcases List.mem_cons.mp member with rfl | below
          · obtain ⟨name, found, read⟩ := here stored
            obtain ⟨name', found', read'⟩ := there stored
            rw [read] at read'
            have same : name = name' := congrArg QualifiedName.catalog read'
            rw [found, found', same]
          · exact ih later ref below stored

theorem reads_of_find_eq {other : AliasMap} {tables read : List ScopedReference}
    (one : List.Forall₂ (ReadsAs aliases) tables read)
    (agree : ∀ ref ∈ tables, ref.1.catalog ≠ [] →
      AliasMap.find aliases ref.1.catalog = AliasMap.find other ref.1.catalog) :
    List.Forall₂ (ReadsAs other) tables read := by
  induction one with
  | nil => exact .nil
  | cons here _ ih =>
      obtain ⟨first, later⟩ := List.forall_mem_cons.mp agree
      refine .cons ?_ (ih later)
      intro stored
      obtain ⟨name, found, read⟩ := here stored
      exact ⟨name, (first stored).symm.trans found, read⟩

end Reading

end GlueViewNames

end DuckGlue
