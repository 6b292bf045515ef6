import DuckGlue.Catalog.GlueView

/-! # The body of a view as it is stored

A view is stored with its tables by the identity of their catalogs: tables of the view's own
catalog as `db.t`, tables of another Glue catalog by the id of the catalog, tables of another
kind of catalog by the type and the alias. Names of common table expressions stay as they
are. Columns are not rewritten, so one that is qualified with the name of a catalog is
refused.
-/

namespace DuckGlue

open StringUtil ViewBodyWalker GlueViewNames

/-- A table that DuckDB found for a name. -/
structure FoundTable where
  catalog : AttachedDatabase
  schema : Identifier
  name : Identifier
  /-- SQL has no empty identifiers. -/
  inSchema : schema ≠ []

/-- What a view is created in. DuckDB and Glue answer the same all through the statement. -/
structure ViewCreation where
  catalog : AttachedDatabase
  options : GlueAttachOptions
  reportedCatalogId : Text
  isGlue : catalog.catalog = .glue options reportedCatalogId
  schema : Identifier
  externalCatalogTypes : List Text := []
  /-- `LookupTable` -/
  lookupTable : QualifiedName → Except Exception (Option FoundTable)
  /-- A name is attached once. -/
  attachedOnce : ∀ name found, lookupTable name = .ok (some found) → ciEquals found.catalog.name catalog.name = true →
    found.catalog = catalog
  /-- The catalog that `Binder::BindSchemaOrCatalog` takes a schema for; empty for none. -/
  bindSchemaOrCatalog : Identifier → Except Exception Identifier
  /-- `GlueAPI::GetReportedCatalogId` -/
  getReportedCatalogId : AttachedDatabase → Except Exception Text
  /-- How DuckDB prints names and expressions. -/
  toText : QualifiedName → Text
  columnText : QualifiedColumnName → Text
  expressionText : ParsedExpression → Text

namespace ViewCreation

variable (creation : ViewCreation)

/-- `FetchCatalogId` -/
def fetchCatalogId (catalog : AttachedDatabase) (reportedCatalogId : Text) : Except Exception Text :=
  if reportedCatalogId ≠ [] then return reportedCatalogId else creation.getReportedCatalogId catalog

/-- `catalog_id_of`: asks Glue if the ATTACH probe did not; else the account id it was
attached by. -/
def catalogIdOf (catalog : AttachedDatabase) (options : GlueAttachOptions) (reportedCatalogId : Text) :
    Except Exception Text := do
  let id ← creation.fetchCatalogId catalog reportedCatalogId
  return if id = [] then knownCatalogId options [] else id

def notFound (name : QualifiedName) : Exception :=
  .binder ("Glue view references table \"".toList ++ creation.toText name ++ "\", which was not found".toList)

/-- How a table of a catalog that is not Glue's is stored. -/
def storeExternal (name : QualifiedName) (type : Text) (found : FoundTable) : Except Exception QualifiedName :=
  let references := "Glue view references \"".toList ++ creation.toText name ++ "\" in catalog \"".toList ++
    found.catalog.name ++ ['\"']
  if !Identifier.count creation.externalCatalogTypes type then
    .error (.binder (references ++ " of type ".toList ++ type ++
      ", which is not in experimental_glue_view_external_catalog_types: add '".toList ++ type ++ "' to it".toList))
  else if !found.catalog.usableExternalCatalog then
    .error (.binder (references ++ (", which is in memory, " ++
      "temporary, a system catalog or hidden: no other session can read it").toList))
  else .ok ⟨externalIdentity type found.catalog.name, found.schema, found.name⟩

/-- How a table of a Glue catalog is stored: by the id, or as the view's own. -/
def storeGlue (name : QualifiedName) (options : GlueAttachOptions) (reportedCatalogId : Text) (found : FoundTable) :
    Except Exception QualifiedName := do
  if !sameGlueService options creation.options then
    throw (.binder ("Glue view in ".toList ++ serviceName creation.options ++ " references \"".toList ++
      creation.toText name ++ "\" in Glue catalog \"".toList ++ found.catalog.name ++ "\" of ".toList ++
      serviceName options ++ (": a Glue view can only " ++
      "reference tables of Glue catalogs in its own region").toList))
  let id ← creation.catalogIdOf found.catalog options reportedCatalogId
  if id = [] then
    throw (.binder ("Glue view references \"".toList ++ creation.toText name ++ "\" in Glue catalog \"".toList ++
      found.catalog.name ++ ("\", whose catalog id Glue does " ++
      "not report (it has no database of its own); attach it by its account id").toList))
  let own ← creation.catalogIdOf creation.catalog creation.options creation.reportedCatalogId
  -- another alias of the view's own catalog
  return ⟨if ciEquals id own then [] else id, found.schema, found.name⟩

/-- A table named in a catalog. -/
def storeNamed (name : QualifiedName) : Except Exception QualifiedName := do
  match ← creation.lookupTable name with
  | none => throw (creation.notFound name)
  | some found =>
      match found.catalog.catalog with
      | .other type => creation.storeExternal name type found
      | .glue options reportedCatalogId => creation.storeGlue name options reportedCatalogId found

/-- A bare name as DuckDB binds it in a view: a temporary table first, then the view's schema,
then the search path. -/
def lookupBare (name : QualifiedName) : Except Exception (Option FoundTable) := do
  match ← creation.lookupTable { catalog := "temp", schema := "main", name := name.name } with
  | some found => return some found
  | none =>
      match ← creation.lookupTable { catalog := creation.catalog.name, schema := creation.schema, name := name.name } with
      | some found => return some found
      | none => creation.lookupTable name

/-- A bare name, stored as `db.t`. -/
def storeBare (name : QualifiedName) : Except Exception QualifiedName := do
  match ← creation.lookupBare name with
  | none => throw (creation.notFound name)
  | some found =>
      if !ciEquals found.catalog.name creation.catalog.name then
        throw (.binder ("Glue view references table \"".toList ++ creation.toText name ++
          ("\", which is not in the view's Glue catalog but in " ++ "catalog \"").toList ++ found.catalog.name ++
          "\" (through the search path)".toList))
      return ⟨[], found.schema, found.name⟩

/-- `x.t` names catalog `x` when one is attached under that name, as DuckDB binds it. -/
def boundName (name : QualifiedName) : Except Exception QualifiedName :=
  if name.catalog = [] ∧ name.schema ≠ [] then do
    let catalog ← creation.bindSchemaOrCatalog name.schema
    return if catalog = [] then name else ⟨catalog, [], name.name⟩
  else return name

/-- A table of the body; the state is the catalogs it names. -/
def qualifyReference : BaseTableCallback (List Identifier) := fun name visible => do
  let bound ← creation.boundName name
  if bound.catalog ≠ [] then
    let stored ← creation.storeNamed bound
    modify fun catalogs => Identifier.insert catalogs bound.catalog
    return stored
  else if bound.schema ≠ [] || Identifier.count visible bound.name then
    -- db.t of the view's own catalog (PinToCatalog keeps it there when read), or a CTE in scope
    return name
  else creation.storeBare bound

/-- What is thrown for a column qualified with the name of a catalog. -/
def refuse (reference : Text) (catalog : Identifier) : Exception :=
  .binder ("Glue view references \"".toList ++ reference ++ "\", whose \"".toList ++ catalog ++
    ("\" is also the name of a catalog the view reads: " ++ "use a table alias with another name").toList)

/-- The columns of a star's lists, and a column reference. -/
def refuseColumn (catalogs : List Identifier) : ExpressionCallback Unit
  | .star excludeList renameList _ =>
      (excludeList ++ renameList).forM fun name => do
        if Identifier.count catalogs name.catalog then
          throw (refuse (creation.columnText name) name.catalog)
  | .columnRef (first :: second :: rest) =>
      if Identifier.count catalogs first then
        throw (refuse (creation.expressionText (.columnRef (first :: second :: rest))) first)
      else return ()
  | _ => return ()

/-- Leaves the tables as they are. -/
def keepReference {σ : Type} : BaseTableCallback σ := fun name _ => return name

/-- `GlueViewNames::QualifyForStorage` -/
def qualifyForStorage (query : QueryNode) : Except Exception QueryNode := do
  let (stored, catalogs) ← walk creation.qualifyReference noExpressions query [creation.catalog.name]
  -- `RefuseCatalogQualifiedColumns`
  let _ ← walk keepReference (creation.refuseColumn catalogs) stored ()
  return stored

end ViewCreation

/-- Which catalog it is, whatever name it is attached under. -/
inductive CatalogIdentity where
  | glue (region endpoint id : Text)
  | external (type name : Text)
  deriving DecidableEq

/-- The catalog of a database; `ids` are those of the Glue catalogs attached in its session. -/
def AttachedDatabase.identity (ids : Identifier → Text) (db : AttachedDatabase) : CatalogIdentity :=
  match db.catalog with
  | .glue options _ => .glue (lower options.region) (lower options.endpoint) (lower (ids db.name))
  | .other type => .external (lower type) (lower db.name)

/-- An id begins with an account, and what is known of it is true. -/
structure TellsId (id : Text) (options : GlueAttachOptions) (reportedCatalogId : Text) : Prop where
  account : startsWithAccountId id = true
  reported : reportedCatalogId ≠ [] → ciEquals reportedCatalogId id = true
  attached : startsWithAccountId options.catalogId = true → ciEquals options.catalogId id = true

/-- What a session knows of a database is true; types of catalogs have no colon. -/
structure AttachedDatabase.Truthful (ids : Identifier → Text) (db : AttachedDatabase) : Prop where
  glue : ∀ options reported, db.catalog = .glue options reported → TellsId (ids db.name) options reported
  other : ∀ type, db.catalog = .other type → ':' ∉ type

/-- What a name in the body of a view means. -/
inductive ViewSource where
  | cte (name : Identifier)
  | table (catalog : CatalogIdentity) (schema name : Identifier)
  deriving DecidableEq

def FoundTable.source (ids : Identifier → Text) (found : FoundTable) : ViewSource :=
  .table (found.catalog.identity ids) found.schema found.name

namespace CatalogIdentity

/-- The catalog a stored id names in the service of a view. -/
def StoredBy (view : GlueAttachOptions) (id : Identifier) : CatalogIdentity → Prop
  | .glue region endpoint own => region = lower view.region ∧ endpoint = lower view.endpoint ∧ own = lower id ∧
      isExternal id = false
  | .external type name => ∃ t n, ':' ∉ t ∧ id = externalIdentity t n ∧ type = lower t ∧ name = lower n

end CatalogIdentity

namespace GlueViewNames

theorem startsWithAccountId_head {id : Text} (account : startsWithAccountId id = true) :
    ∃ first rest, id = first :: rest ∧ first.isDigit = true := by
  unfold startsWithAccountId at account
  cases id with
  | nil => simp at account
  | cons first rest =>
      simp only [List.take_succ_cons, List.all_cons, Bool.and_eq_true] at account
      exact ⟨first, rest, rfl, account.1.2.1⟩

/-- No id of a Glue catalog has the prefix, in any case. -/
theorem not_isExternal {id own : Text} (account : startsWithAccountId own = true) (same : ciEquals id own = true) :
    isExternal id = false := by
  obtain ⟨first, rest, rfl, digit⟩ := startsWithAccountId_head account
  cases external : isExternal id with
  | false => rfl
  | true =>
      unfold isExternal at external
      rw [ciEquals_iff.mp same, startsWith_iff] at external
      obtain ⟨later, whole⟩ := external
      have head : some 'e' = some first.toLower := congrArg List.head? whole
      have folded : first.toLower.toNat = 101 := by
        rw [← Option.some.inj head]
        rfl
      have range : 48 ≤ first.toNat ∧ first.toNat ≤ 57 := by
        simpa [Char.isDigit, UInt32.le_iff_toNat_le] using digit
      rcases toLower_cases first with kept | changed
      · rw [kept] at folded
        omega
      · omega

theorem lower_externalIdentity (type name : Text) :
    lower (externalIdentity type name) = externalPrefix ++ lower type ++ ':' :: lower name := by
  have kept : lower externalPrefix = externalPrefix := by decide
  have colon : Char.toLower ':' = ':' := by decide
  simp only [externalIdentity, lower_append, kept]
  simp only [lower, List.map_cons, colon]

theorem isExternal_externalIdentity (type name : Text) : isExternal (externalIdentity type name) = true := by
  unfold isExternal
  rw [lower_externalIdentity, startsWith_iff, List.append_assoc]
  exact List.prefix_append _ _

theorem externalType_externalIdentity {type name : Text} (typed : ':' ∉ type) :
    externalType (externalIdentity type name) = type := by
  unfold externalType externalIdentity
  rw [List.append_assoc, List.drop_left, List.takeWhile_append_of_pos]
  · simp
  · intro c member
    have plain : c ≠ ':' := by
      intro same
      rw [same] at member
      exact typed member
    simpa using plain

end GlueViewNames

namespace ViewCreation

variable (creation : ViewCreation) (ids : Identifier → Text)

/-- What DuckDB and Glue tell of the catalogs is true. -/
structure Truthful : Prop where
  own : creation.catalog.Truthful ids
  found : ∀ name found, creation.lookupTable name = .ok (some found) → found.catalog.Truthful ids
  reported : ∀ db id, creation.getReportedCatalogId db = .ok id → id ≠ [] → ciEquals id (ids db.name) = true

/-- What a name means in the body of the view when it is created. -/
inductive Names : ScopedReference → ViewSource → Prop
  | named {name bound : QualifiedName} {visible : List Identifier} {found : FoundTable}
      (boundTo : creation.boundName name = .ok bound) (inCatalog : bound.catalog ≠ [])
      (lookup : creation.lookupTable bound = .ok (some found)) : Names (name, visible) (found.source ids)
  | own {name : QualifiedName} {visible : List Identifier} (boundTo : creation.boundName name = .ok name)
      (ownCatalog : name.catalog = []) (inSchema : name.schema ≠ []) :
      Names (name, visible) (.table (creation.catalog.identity ids) name.schema name.name)
  | cte {name : Identifier} {visible : List Identifier} (inScope : Identifier.count visible name = true) :
      Names (⟨[], [], name⟩, visible) (.cte name)
  | bare {name : Identifier} {visible : List Identifier} {found : FoundTable}
      (noCTE : Identifier.count visible name = false) (lookup : creation.lookupBare ⟨[], [], name⟩ = .ok (some found)) :
      Names (⟨[], [], name⟩, visible) (found.source ids)

/-- The id of the view's own catalog is known, as it is when the catalog has a database that
is no resource link. -/
def KnowsOwnId : Prop :=
  ∀ id, creation.catalogIdOf creation.catalog creation.options creation.reportedCatalogId = .ok id → id ≠ []

/-- How the meaning of a name is stored. -/
inductive StoredAs : ViewSource → ScopedReference → Prop
  | cte {name : Identifier} {visible : List Identifier} (inScope : Identifier.count visible name = true) :
      StoredAs (.cte name) (⟨[], [], name⟩, visible)
  | own {schema name : Identifier} {visible : List Identifier} (inSchema : schema ≠ []) :
      StoredAs (.table (creation.catalog.identity ids) schema name) (⟨[], schema, name⟩, visible)
  | other {id schema name : Identifier} {visible : List Identifier} {identity : CatalogIdentity} (named : id ≠ [])
      (inSchema : schema ≠ []) (elsewhere : creation.KnowsOwnId → identity ≠ creation.catalog.identity ids)
      (stored : identity.StoredBy creation.options id) :
      StoredAs (.table identity schema name) (⟨id, schema, name⟩, visible)

section Storing

variable {creation ids} {name bound stored : QualifiedName} {visible : List Identifier} {found : FoundTable}

theorem catalogIdOf_ok {ids : Identifier → Text} {db : AttachedDatabase} {options : GlueAttachOptions} {reported id : Text}
    (truthful : creation.Truthful ids) (known : db.Truthful ids) (isGlue : db.catalog = .glue options reported)
    (done : creation.catalogIdOf db options reported = .ok id) (told : id ≠ []) : ciEquals id (ids db.name) = true := by
  have knows := known.glue options reported isGlue
  obtain ⟨fetched, asked, answer⟩ := Fallible.bind_eq_ok.mp done
  have same : fetched ≠ [] → ciEquals fetched (ids db.name) = true := by
    intro some
    unfold fetchCatalogId at asked
    split_ifs at asked with reports
    · cases asked
      exact knows.reported reports
    · exact truthful.reported db fetched asked some
  cases answer
  by_cases empty : fetched = []
  · rw [if_pos empty] at told ⊢
    unfold knownCatalogId at told ⊢
    by_cases account : startsWithAccountId options.catalogId = true
    · simpa [account] using knows.attached account
    · simp [account] at told
  · rw [if_neg empty]
    exact same empty

theorem storeExternal_ok {type : Text} (typed : ':' ∉ type) (isOther : found.catalog.catalog = .other type)
    (done : creation.storeExternal name type found = .ok stored) :
    StoredAs creation ids (found.source ids) (stored, visible) := by
  unfold storeExternal at done
  split_ifs at done
  cases done
  have identity : found.catalog.identity ids = .external (lower type) (lower found.catalog.name) := by
    unfold AttachedDatabase.identity
    rw [isOther]
  apply StoredAs.other
  · exact List.append_ne_nil_of_right_ne_nil _ (List.cons_ne_nil _ _)
  · exact found.inSchema
  · rw [identity]
    unfold AttachedDatabase.identity
    rw [creation.isGlue]
    intro _ same
    cases same
  · rw [identity]
    exact ⟨type, found.catalog.name, typed, rfl, rfl, rfl⟩

theorem storeGlue_ok {options : GlueAttachOptions} {reported : Text} (truthful : creation.Truthful ids)
    (known : found.catalog.Truthful ids) (isGlue : found.catalog.catalog = .glue options reported)
    (done : creation.storeGlue name options reported found = .ok stored) :
    StoredAs creation ids (found.source ids) (stored, visible) := by
  simp only [storeGlue, Fallible.guard_throw_eq_ok, Fallible.bind_eq_ok, Bool.not_eq_true', Bool.not_eq_false] at done
  obtain ⟨service, id, asked, some, own, askedOwn, answer⟩ := done
  have same := catalogIdOf_ok truthful known isGlue asked some
  have knows := known.glue options reported isGlue
  have identity : found.catalog.identity ids =
      .glue (lower options.region) (lower options.endpoint) (lower (ids found.catalog.name)) := by
    unfold AttachedDatabase.identity
    rw [isGlue]
  have ownIdentity : creation.catalog.identity ids =
      .glue (lower creation.options.region) (lower creation.options.endpoint) (lower (ids creation.catalog.name)) := by
    unfold AttachedDatabase.identity
    rw [creation.isGlue]
  unfold sameGlueService at service
  obtain ⟨region, endpoint⟩ := Bool.and_eq_true_iff.mp service
  rw [ciEquals_iff] at region endpoint same
  cases answer
  -- an id Glue tells is the view's own exactly when it is of the same catalog
  have sameOwn : own ≠ [] → lower own = lower (ids creation.catalog.name) := by
    intro told
    exact ciEquals_iff.mp (catalogIdOf_ok truthful truthful.own creation.isGlue askedOwn told)
  by_cases another : ciEquals id own = true
  · have told : own ≠ [] := by
      intro empty
      rw [empty, ciEquals_iff] at another
      exact some (List.map_eq_nil_iff.mp another)
    have here : found.catalog.identity ids = creation.catalog.identity ids := by
      rw [identity, ownIdentity, region, endpoint, ← same, ← sameOwn told, ciEquals_iff.mp another]
    unfold FoundTable.source
    rw [if_pos another, here]
    exact .own found.inSchema
  · rw [if_neg another]
    apply StoredAs.other some found.inSchema
    · intro knowsOwn here
      rw [identity, ownIdentity] at here
      apply another
      rw [ciEquals_iff, same, sameOwn (knowsOwn own askedOwn)]
      injection here
    · rw [identity]
      exact ⟨region, endpoint, same.symm, not_isExternal knows.account (ciEquals_iff.mpr same)⟩

theorem storeNamed_ok (truthful : creation.Truthful ids) (done : creation.storeNamed name = .ok stored) :
    ∃ found, creation.lookupTable name = .ok (some found) ∧ StoredAs creation ids (found.source ids) (stored, visible) := by
  obtain ⟨answer, lookup, rest⟩ := Fallible.bind_eq_ok.mp done
  cases answer with
  | none => cases rest
  | some found =>
      have known := truthful.found name found lookup
      refine ⟨found, lookup, ?_⟩
      cases kind : found.catalog.catalog with
      | other type =>
          simp only [kind] at rest
          exact storeExternal_ok (known.other type kind) kind rest
      | glue options reported =>
          simp only [kind] at rest
          exact storeGlue_ok truthful known kind rest

theorem lookupBare_ok (done : creation.lookupBare name = .ok (some found)) :
    ∃ tried, creation.lookupTable tried = .ok (some found) := by
  obtain ⟨temporary, first, rest⟩ := Fallible.bind_eq_ok.mp done
  cases temporary with
  | some table =>
      cases rest
      exact ⟨_, first⟩
  | none =>
      obtain ⟨own, second, last⟩ := Fallible.bind_eq_ok.mp rest
      cases own with
      | some table =>
          cases last
          exact ⟨_, second⟩
      | none => exact ⟨name, last⟩

theorem storeBare_ok (done : creation.storeBare name = .ok stored) :
    ∃ found, creation.lookupBare name = .ok (some found) ∧ StoredAs creation ids (found.source ids) (stored, visible) := by
  obtain ⟨answer, lookup, rest⟩ := Fallible.bind_eq_ok.mp done
  cases answer with
  | none => cases rest
  | some found =>
      refine ⟨found, lookup, ?_⟩
      simp only [Fallible.guard_throw_eq_ok, Bool.not_eq_true', Bool.not_eq_false] at rest
      obtain ⟨own, answer⟩ := rest
      cases answer
      obtain ⟨tried, here⟩ := lookupBare_ok lookup
      unfold FoundTable.source
      rw [creation.attachedOnce tried found here own]
      exact .own found.inSchema

/-- A name that is bound in no catalog is left as it is. -/
theorem boundName_ok (done : creation.boundName name = .ok bound) (ownCatalog : bound.catalog = []) : bound = name := by
  unfold boundName at done
  split_ifs at done
  · obtain ⟨catalog, _, answer⟩ := Fallible.bind_eq_ok.mp done
    by_cases none : catalog = []
    · rw [if_pos none] at answer
      cases answer
      rfl
    · rw [if_neg none] at answer
      cases answer
      exact absurd ownCatalog none
  · cases done
    rfl

theorem lift_ok {σ α : Type} {x : Except Exception α} {s t : σ} {a : α} :
    (liftM x : StateT σ (Except Exception) α) s = .ok (a, t) ↔ x = .ok a ∧ s = t := by
  cases x with
  | error e =>
      constructor
      · intro lifted
        cases lifted
      · intro ⟨impossible, _⟩
        cases impossible
  | ok b =>
      change Except.ok (b, s) = Except.ok (a, t) ↔ _
      simp

/-- What a name means is stored. -/
theorem qualifyReference_ok {s t : List Identifier} (truthful : creation.Truthful ids)
    (called : creation.qualifyReference name visible s = .ok (stored, t)) :
    ∃ source, Names creation ids (name, visible) source ∧ StoredAs creation ids source (stored, visible) := by
  simp only [qualifyReference, bind_ok, lift_ok] at called
  obtain ⟨bound, _, ⟨boundTo, rfl⟩, rest⟩ := called
  split_ifs at rest with inCatalog left
  · simp only [bind_ok, lift_ok, pure_ok] at rest
    obtain ⟨_, _, ⟨done, rfl⟩, _, _, _, rfl, _⟩ := rest
    obtain ⟨found, lookup, storedAs⟩ := storeNamed_ok truthful done
    exact ⟨_, .named boundTo inCatalog lookup, storedAs⟩
  · obtain rfl := boundName_ok boundTo (not_not.mp inCatalog)
    simp only [pure_ok] at rest
    obtain ⟨rfl, _⟩ := rest
    obtain ⟨catalog, schema, table⟩ := bound
    obtain rfl : catalog = [] := not_not.mp inCatalog
    by_cases bare : schema = []
    · subst bare
      have inScope : Identifier.count visible table = true := by simpa using left
      exact ⟨_, .cte inScope, .cte inScope⟩
    · exact ⟨_, .own boundTo rfl bare, .own bare⟩
  · obtain rfl := boundName_ok boundTo (not_not.mp inCatalog)
    obtain ⟨catalog, schema, table⟩ := bound
    obtain rfl : catalog = [] := not_not.mp inCatalog
    simp only [Bool.or_eq_true, decide_eq_true_eq, not_or, not_not] at left
    obtain ⟨rfl, outside⟩ := left
    obtain ⟨done, _⟩ := lift_ok.mp rest
    obtain ⟨found, lookup, storedAs⟩ := storeBare_ok done
    exact ⟨_, .bare (Bool.not_eq_true _ ▸ outside) lookup, storedAs⟩

/-- Every table and CTE of a body beside how it is stored. -/
def Stores (creation : ViewCreation) (ids : Identifier → Text) (ref stored : ScopedReference) : Prop :=
  stored.2 = ref.2 ∧ ∃ source, Names creation ids ref source ∧ StoredAs creation ids source stored

theorem forall₂_of_visits {σ : Type} {callback : BaseTableCallback σ} {related : ScopedReference → ScopedReference → Prop}
    {s t : σ} {tables read : List ScopedReference}
    (each : ∀ name visible s given t, callback name visible s = .ok (given, t) → related (name, visible) (given, visible))
    (visits : Visits callback s tables t read) : List.Forall₂ related tables read := by
  induction visits with
  | nil => exact .nil
  | cons called _ ih => exact .cons (each _ _ _ _ _ called) ih

/-- A stored body names what the view named when it was created. -/
theorem qualifyForStorage_ok {query body : QueryNode} (truthful : creation.Truthful ids)
    (done : creation.qualifyForStorage query = .ok body) :
    storable body = true ∧ List.Forall₂ (Stores creation ids) (references [] query) (references [] body) := by
  obtain ⟨⟨stored, catalogs⟩, walked, rest⟩ := Fallible.bind_eq_ok.mp done
  obtain ⟨_, _, answer⟩ := Fallible.bind_eq_ok.mp rest
  cases answer
  refine ⟨(visitNode_storable walked).2, forall₂_of_visits ?_ (walk_visits walked)⟩
  intro name visible s given t called
  exact ⟨rfl, qualifyReference_ok truthful called⟩

theorem boundName_bare {name : Identifier} : creation.boundName ⟨[], [], name⟩ = .ok ⟨[], [], name⟩ := by
  unfold boundName
  rw [if_neg (fun given => given.2 rfl)]
  rfl

/-- A name means one thing. -/
theorem Names.unique {ref : ScopedReference} {one other : ViewSource} (first : Names creation ids ref one)
    (second : Names creation ids ref other) : one = other := by
  cases first with
  | named boundTo inCatalog lookup =>
      cases second with
      | named boundTo' _ lookup' =>
          cases boundTo.symm.trans boundTo'
          cases lookup.symm.trans lookup'
          rfl
      | own boundTo' ownCatalog =>
          cases boundTo.symm.trans boundTo'
          exact absurd ownCatalog inCatalog
      | cte | bare =>
          cases boundTo.symm.trans boundName_bare
          exact absurd rfl inCatalog
  | own boundTo ownCatalog inSchema =>
      cases second with
      | named boundTo' inCatalog =>
          cases boundTo.symm.trans boundTo'
          exact absurd ownCatalog inCatalog
      | own => rfl
      | cte | bare => exact absurd rfl inSchema
  | cte inScope =>
      cases second with
      | named boundTo inCatalog =>
          cases boundTo.symm.trans boundName_bare
          exact absurd rfl inCatalog
      | own _ _ inSchema => exact absurd rfl inSchema
      | cte => rfl
      | bare noCTE =>
          rw [inScope] at noCTE
          cases noCTE
  | bare noCTE lookup =>
      cases second with
      | named boundTo inCatalog =>
          cases boundTo.symm.trans boundName_bare
          exact absurd rfl inCatalog
      | own _ _ inSchema => exact absurd rfl inSchema
      | cte inScope =>
          rw [inScope] at noCTE
          cases noCTE
      | bare _ lookup' =>
          cases lookup.symm.trans lookup'
          rfl

end Storing

end ViewCreation

end DuckGlue
