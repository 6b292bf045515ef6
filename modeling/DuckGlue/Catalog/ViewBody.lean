import DuckGlue.Core.StringUtil
import DuckGlue.Lib.Fallible

/-! # The body of a view

The SELECT of a view as the parser gives it, down to the names of the tables it reads.
Names of common table expressions (CTEs) hide tables where they are visible; the walker
goes through a body with that scoping and refuses what a Glue view can not store.
-/

namespace DuckGlue

/-- An `Identifier`: it keeps its case but compares without it. -/
abbrev Identifier := Text

namespace Identifier

/-- Identifiers are ordered by their lower case. -/
def before (a b : Identifier) : Bool := StringUtil.lower a < StringUtil.lower b

/-- `identifier_set_t::count`, of identifiers or of the texts of a `case_insensitive_set_t`. -/
def count (ids : List Identifier) (id : Identifier) : Bool := ids.any (StringUtil.ciEquals id)

/-- `identifier_set_t::insert` -/
def insert (ids : List Identifier) (id : Identifier) : List Identifier := if count ids id then ids else ids ++ [id]

variable {ids : List Identifier} {id other : Identifier}

theorem count_iff : count ids id = true ↔ ∃ one ∈ ids, StringUtil.ciEquals id one = true := by
  rw [count, List.any_eq_true]

theorem mem_insert_of_mem (member : other ∈ ids) : other ∈ insert ids id := by
  unfold insert
  split_ifs
  · exact member
  · exact List.mem_append_left _ member

theorem mem_insert (member : other ∈ insert ids id) : other ∈ ids ∨ other = id := by
  unfold insert at member
  split_ifs at member
  · exact .inl member
  · exact (List.mem_append.mp member).imp_right List.mem_singleton.mp

theorem count_mono {more : List Identifier} (within : ∀ one ∈ ids, one ∈ more) (counted : count ids id = true) :
    count more id = true := by
  obtain ⟨one, member, same⟩ := count_iff.mp counted
  exact count_iff.mpr ⟨one, within one member, same⟩

theorem count_insert : count (insert ids id) id = true := by
  unfold insert
  split_ifs with known
  · exact known
  · exact count_iff.mpr ⟨id, List.mem_append_right _ List.mem_cons_self, StringUtil.ciEquals_refl id⟩

end Identifier

/-- The name of a table; what is empty was not given. -/
structure QualifiedName where
  catalog : Identifier := []
  schema : Identifier := []
  name : Identifier
  deriving Repr, DecidableEq

/-- The name of a column that a star leaves out or renames. -/
structure QualifiedColumnName where
  catalog : Identifier := []
  schema : Identifier := []
  table : Identifier := []
  column : Identifier
  deriving Repr, DecidableEq

mutual

inductive QueryNode where
  | select (ctes : List CommonTableExpression) (fromTable : Option TableRef) (selectList groups : List ParsedExpression)
      (whereClause having qualify : Option ParsedExpression) (modifiers : List ParsedExpression)
  | setOperation (ctes : List CommonTableExpression) (children : List QueryNode) (modifiers : List ParsedExpression)
  | recursiveCTE (ctes : List CommonTableExpression) (ctename : Identifier) (left right : QueryNode)
      (keyTargets modifiers : List ParsedExpression)
  | other (ctes : List CommonTableExpression) (type : Text)

/-- An entry of a `cte_map`. -/
inductive CommonTableExpression where
  | mk (name : Identifier) (queryNode : Option QueryNode) (keyTargets : List ParsedExpression)

inductive TableRef where
  | baseTable (name : QualifiedName)
  | join (left right : TableRef) (condition rankingExpression : Option ParsedExpression)
  | subquery (node : QueryNode)
  | pivot (source : TableRef) (aggregates : List ParsedExpression) (pivots : List PivotColumn)
  | expressionList (values : List (List ParsedExpression))
  | emptyFrom
  /-- A table function, as it is written. -/
  | tableFunction (text : Text)
  | other (type : Text)

/-- The expressions of a pivot and of those of its entries that have one. -/
inductive PivotColumn where
  | mk (pivotExpressions entries : List ParsedExpression)

inductive ParsedExpression where
  | columnRef (columnNames : List Identifier)
  | star (excludeList renameList : List QualifiedColumnName) (children : List ParsedExpression)
  | subquery (node : Option QueryNode) (children : List ParsedExpression)
  | other (children : List ParsedExpression)

end

/-- What a `BaseTableCallback` does: it may keep a state of its own, change the name of
the table, or throw. -/
abbrev BaseTableCallback (σ : Type) := QualifiedName → List Identifier → StateT σ (Except Exception) QualifiedName

/-- An `ExpressionCallback`, of a column reference or a star. -/
abbrev ExpressionCallback (σ : Type) := ParsedExpression → StateT σ (Except Exception) Unit

namespace ViewBodyWalker

variable {σ : Type} (callback : BaseTableCallback σ) (expressionCallback : ExpressionCallback σ)

mutual

/-- `VisitNode` -/
def visitNode (outer : List Identifier) : QueryNode → StateT σ (Except Exception) QueryNode
  | .select ctes fromTable selectList groups whereClause having qualify modifiers => do
      let (ctes, visible) ← visitCTEs outer ctes
      let fromTable ← visitFrom visible fromTable
      let selectList ← visitExpressions visible selectList
      let groups ← visitExpressions visible groups
      let whereClause ← visitOptional visible whereClause
      let having ← visitOptional visible having
      let qualify ← visitOptional visible qualify
      let modifiers ← visitExpressions visible modifiers
      return .select ctes fromTable selectList groups whereClause having qualify modifiers
  | .setOperation ctes children modifiers => do
      let (ctes, visible) ← visitCTEs outer ctes
      let children ← visitNodes visible children
      let modifiers ← visitExpressions visible modifiers
      return .setOperation ctes children modifiers
  | .recursiveCTE ctes ctename left right keyTargets modifiers => do
      let (ctes, visible) ← visitCTEs outer ctes
      -- the anchor reads the table (or an outer CTE) of the CTE's name, the recursive term the CTE
      let left ← visitNode visible left
      let right ← visitNode (Identifier.insert visible ctename) right
      let keyTargets ← visitExpressions [] keyTargets
      let modifiers ← visitExpressions visible modifiers
      return .recursiveCTE ctes ctename left right keyTargets modifiers
  | .other ctes type => do
      let _ ← visitCTEs outer ctes
      throw (.binder ("Glue views can not store a query of type ".toList ++ type))

/-- The CTEs of a node and what is visible after them: a CTE is in later CTEs and in the
node itself. -/
def visitCTEs (visible : List Identifier) :
    List CommonTableExpression → StateT σ (Except Exception) (List CommonTableExpression × List Identifier)
  | [] => return ([], visible)
  | .mk name queryNode keyTargets :: ctes => do
      let queryNode ← visitQuery visible queryNode
      -- USING KEY is bound without a parent binder: no CTE is in scope
      let keyTargets ← visitExpressions [] keyTargets
      let (ctes, visible) ← visitCTEs (Identifier.insert visible name) ctes
      return (.mk name queryNode keyTargets :: ctes, visible)

def visitQuery (visible : List Identifier) : Option QueryNode → StateT σ (Except Exception) (Option QueryNode)
  | none => return none
  | some node => return some (← visitNode visible node)

def visitNodes (visible : List Identifier) : List QueryNode → StateT σ (Except Exception) (List QueryNode)
  | [] => return []
  | node :: nodes => return (← visitNode visible node) :: (← visitNodes visible nodes)

def visitFrom (visible : List Identifier) : Option TableRef → StateT σ (Except Exception) (Option TableRef)
  | none => return none
  | some ref => return some (← visitRef visible ref)

/-- `VisitRef` -/
def visitRef (visible : List Identifier) : TableRef → StateT σ (Except Exception) TableRef
  | .baseTable name => return .baseTable (← callback name visible)
  | .join left right condition rankingExpression => do
      let left ← visitRef visible left
      let right ← visitRef visible right
      let condition ← visitOptional visible condition
      let rankingExpression ← visitOptional visible rankingExpression
      return .join left right condition rankingExpression
  | .subquery node => return .subquery (← visitNode visible node)
  | .pivot source aggregates pivots => do
      let source ← visitRef visible source
      let aggregates ← visitExpressions visible aggregates
      let pivots ← visitPivots visible pivots
      return .pivot source aggregates pivots
  | .expressionList values => return .expressionList (← visitRows visible values)
  | .emptyFrom => return .emptyFrom
  | .tableFunction text =>
      -- a source outside the Glue catalog
      throw (.binder ("Glue views can not read from table functions (\"".toList ++ text ++ "\")".toList))
  | .other type => throw (.binder ("Glue views can not store a FROM clause of type ".toList ++ type))

def visitPivots (visible : List Identifier) : List PivotColumn → StateT σ (Except Exception) (List PivotColumn)
  | [] => return []
  | .mk pivotExpressions entries :: pivots => do
      let pivotExpressions ← visitExpressions visible pivotExpressions
      let entries ← visitExpressions visible entries
      return .mk pivotExpressions entries :: (← visitPivots visible pivots)

def visitRows (visible : List Identifier) :
    List (List ParsedExpression) → StateT σ (Except Exception) (List (List ParsedExpression))
  | [] => return []
  | row :: rows => return (← visitExpressions visible row) :: (← visitRows visible rows)

/-- `VisitExpression` -/
def visitExpression (visible : List Identifier) : ParsedExpression → StateT σ (Except Exception) ParsedExpression
  | .columnRef columnNames => do
      expressionCallback (.columnRef columnNames)
      return .columnRef columnNames
  | .star excludeList renameList children => do
      expressionCallback (.star excludeList renameList children)
      return .star excludeList renameList (← visitExpressions visible children)
  | .subquery node children => do
      let node ← visitQuery visible node
      return .subquery node (← visitExpressions visible children)
  | .other children => return .other (← visitExpressions visible children)

def visitExpressions (visible : List Identifier) :
    List ParsedExpression → StateT σ (Except Exception) (List ParsedExpression)
  | [] => return []
  | expr :: exprs => return (← visitExpression visible expr) :: (← visitExpressions visible exprs)

def visitOptional (visible : List Identifier) :
    Option ParsedExpression → StateT σ (Except Exception) (Option ParsedExpression)
  | none => return none
  | some expr => return some (← visitExpression visible expr)

end

/-- `Walk` -/
def walk (node : QueryNode) : StateT σ (Except Exception) QueryNode := visitNode callback expressionCallback [] node

end ViewBodyWalker

/-- A table of a body beside the CTE names in scope where it stands. -/
abbrev ScopedReference := QualifiedName × List Identifier

/-- The CTE names in scope after CTEs. -/
def visibleAfter (visible : List Identifier) : List CommonTableExpression → List Identifier
  | [] => visible
  | .mk name _ _ :: ctes => visibleAfter (Identifier.insert visible name) ctes

mutual

/-- The tables of a body, in the order of the walk. -/
def references (outer : List Identifier) : QueryNode → List ScopedReference
  | .select ctes fromTable selectList groups whereClause having qualify modifiers =>
      let visible := visibleAfter outer ctes
      referencesCTEs outer ctes ++ (referencesFrom visible fromTable ++ (referencesExpressions visible selectList ++
        (referencesExpressions visible groups ++ (referencesOptional visible whereClause ++
          (referencesOptional visible having ++ (referencesOptional visible qualify ++
            referencesExpressions visible modifiers))))))
  | .setOperation ctes children modifiers =>
      let visible := visibleAfter outer ctes
      referencesCTEs outer ctes ++ (referencesNodes visible children ++ referencesExpressions visible modifiers)
  | .recursiveCTE ctes ctename left right keyTargets modifiers =>
      let visible := visibleAfter outer ctes
      referencesCTEs outer ctes ++ (references visible left ++ (references (Identifier.insert visible ctename) right ++
        (referencesExpressions [] keyTargets ++ referencesExpressions visible modifiers)))
  | .other ctes _ => referencesCTEs outer ctes

def referencesCTEs (visible : List Identifier) : List CommonTableExpression → List ScopedReference
  | [] => []
  | .mk name queryNode keyTargets :: ctes =>
      referencesQuery visible queryNode ++ (referencesExpressions [] keyTargets ++
        referencesCTEs (Identifier.insert visible name) ctes)

def referencesQuery (visible : List Identifier) : Option QueryNode → List ScopedReference
  | none => []
  | some node => references visible node

def referencesNodes (visible : List Identifier) : List QueryNode → List ScopedReference
  | [] => []
  | node :: nodes => references visible node ++ referencesNodes visible nodes

def referencesFrom (visible : List Identifier) : Option TableRef → List ScopedReference
  | none => []
  | some ref => referencesRef visible ref

def referencesRef (visible : List Identifier) : TableRef → List ScopedReference
  | .baseTable name => [(name, visible)]
  | .join left right condition rankingExpression =>
      referencesRef visible left ++ (referencesRef visible right ++ (referencesOptional visible condition ++
        referencesOptional visible rankingExpression))
  | .subquery node => references visible node
  | .pivot source aggregates pivots =>
      referencesRef visible source ++ (referencesExpressions visible aggregates ++ referencesPivots visible pivots)
  | .expressionList values => referencesRows visible values
  | .emptyFrom => []
  | .tableFunction _ => []
  | .other _ => []

def referencesPivots (visible : List Identifier) : List PivotColumn → List ScopedReference
  | [] => []
  | .mk pivotExpressions entries :: pivots =>
      referencesExpressions visible pivotExpressions ++ (referencesExpressions visible entries ++
        referencesPivots visible pivots)

def referencesRows (visible : List Identifier) : List (List ParsedExpression) → List ScopedReference
  | [] => []
  | row :: rows => referencesExpressions visible row ++ referencesRows visible rows

def referencesExpression (visible : List Identifier) : ParsedExpression → List ScopedReference
  | .columnRef _ => []
  | .star _ _ children => referencesExpressions visible children
  | .subquery node children => referencesQuery visible node ++ referencesExpressions visible children
  | .other children => referencesExpressions visible children

def referencesExpressions (visible : List Identifier) : List ParsedExpression → List ScopedReference
  | [] => []
  | expr :: exprs => referencesExpression visible expr ++ referencesExpressions visible exprs

def referencesOptional (visible : List Identifier) : Option ParsedExpression → List ScopedReference
  | none => []
  | some expr => referencesExpression visible expr

end

mutual

/-- Whether a Glue view can store a body. -/
def storable : QueryNode → Bool
  | .select ctes fromTable selectList groups whereClause having qualify modifiers =>
      storableCTEs ctes && (storableFrom fromTable && (storableExpressions selectList && (storableExpressions groups &&
        (storableOptional whereClause && (storableOptional having && (storableOptional qualify &&
          storableExpressions modifiers))))))
  | .setOperation ctes children modifiers => storableCTEs ctes && (storableNodes children && storableExpressions modifiers)
  | .recursiveCTE ctes _ left right keyTargets modifiers =>
      storableCTEs ctes && (storable left && (storable right && (storableExpressions keyTargets &&
        storableExpressions modifiers)))
  | .other _ _ => false

def storableCTEs : List CommonTableExpression → Bool
  | [] => true
  | .mk _ queryNode keyTargets :: ctes => storableQuery queryNode && (storableExpressions keyTargets && storableCTEs ctes)

def storableQuery : Option QueryNode → Bool
  | none => true
  | some node => storable node

def storableNodes : List QueryNode → Bool
  | [] => true
  | node :: nodes => storable node && storableNodes nodes

def storableFrom : Option TableRef → Bool
  | none => true
  | some ref => storableRef ref

def storableRef : TableRef → Bool
  | .baseTable _ => true
  | .join left right condition rankingExpression =>
      storableRef left && (storableRef right && (storableOptional condition && storableOptional rankingExpression))
  | .subquery node => storable node
  | .pivot source aggregates pivots => storableRef source && (storableExpressions aggregates && storablePivots pivots)
  | .expressionList values => storableRows values
  | .emptyFrom => true
  | .tableFunction _ => false
  | .other _ => false

def storablePivots : List PivotColumn → Bool
  | [] => true
  | .mk pivotExpressions entries :: pivots =>
      storableExpressions pivotExpressions && (storableExpressions entries && storablePivots pivots)

def storableRows : List (List ParsedExpression) → Bool
  | [] => true
  | row :: rows => storableExpressions row && storableRows rows

def storableExpression : ParsedExpression → Bool
  | .columnRef _ => true
  | .star _ _ children => storableExpressions children
  | .subquery node children => storableQuery node && storableExpressions children
  | .other children => storableExpressions children

def storableExpressions : List ParsedExpression → Bool
  | [] => true
  | expr :: exprs => storableExpression expr && storableExpressions exprs

def storableOptional : Option ParsedExpression → Bool
  | none => true
  | some expr => storableExpression expr

end

namespace ViewBodyWalker

/-- The calls of a callback, one table after another; the scopes stay. -/
inductive Visits {σ : Type} (callback : BaseTableCallback σ) : σ → List ScopedReference → σ → List ScopedReference → Prop
  | nil {s : σ} : Visits callback s [] s []
  | cons {s t u : σ} {name given : QualifiedName} {visible : List Identifier} {rest read : List ScopedReference}
      (called : callback name visible s = .ok (given, t)) (later : Visits callback t rest u read) :
      Visits callback s ((name, visible) :: rest) u ((given, visible) :: read)

section Walks

variable {σ : Type} {callback : BaseTableCallback σ} {expressionCallback : ExpressionCallback σ}
  {visible : List Identifier} {s t u : σ}

theorem Visits.append {first second read others : List ScopedReference} (front : Visits callback s first t read)
    (back : Visits callback t second u others) : Visits callback s (first ++ second) u (read ++ others) := by
  induction front with
  | nil => exact back
  | cons called _ ih => exact .cons called (ih back)

theorem bind_ok {α β : Type} {x : StateT σ (Except Exception) α} {f : α → StateT σ (Except Exception) β} {b : β} :
    (x >>= f) s = .ok (b, u) ↔ ∃ a t, x s = .ok (a, t) ∧ f a t = .ok (b, u) := by
  change (x s >>= fun result => f result.1 result.2) = .ok (b, u) ↔ _
  rw [Fallible.bind_eq_ok]
  exact Prod.exists

theorem pure_ok {α : Type} {a b : α} :
    (pure a : StateT σ (Except Exception) α) s = .ok (b, t) ↔ a = b ∧ s = t := by
  change (Except.ok (a, s) : Except Exception (α × σ)) = .ok (b, t) ↔ _
  rw [Except.ok.injEq, Prod.mk.injEq]

theorem throw_ok {α : Type} {e : Exception} {b : α} :
    (throw e : StateT σ (Except Exception) α) s = .ok (b, t) ↔ False := by
  constructor
  · intro thrown
    cases thrown
  · intro impossible
    cases impossible

/-- An expression callback that looks at the expressions only. -/
def Looks (expressionCallback : ExpressionCallback σ) : Prop :=
  ∀ expr s t, expressionCallback expr s = .ok ((), t) → s = t

mutual

/-- The walk calls the callback for the tables of a body and changes nothing else. -/
theorem visitNode_visits (looks : Looks expressionCallback) {visible : List Identifier} {s t : σ} : ∀ {node node' : QueryNode},
    visitNode callback expressionCallback visible node s = .ok (node', t) →
    Visits callback s (references visible node) t (references visible node')
  | .select ctes fromTable selectList groups whereClause having qualify modifiers, node', done => by
      simp only [visitNode, bind_ok, pure_ok] at done
      obtain ⟨⟨ctes', after⟩, _, first, from', _, second, select', _, third, groups', _, fourth, where', _, fifth,
        having', _, sixth, qualify', _, seventh, modifiers', _, eighth, rfl, rfl⟩ := done
      obtain ⟨rfl, same, inCTEs⟩ := visitCTEs_visits looks first
      simp only [references, same]
      exact inCTEs.append ((visitFrom_visits looks second).append ((visitExpressions_visits looks third).append
        ((visitExpressions_visits looks fourth).append ((visitOptional_visits looks fifth).append
          ((visitOptional_visits looks sixth).append ((visitOptional_visits looks seventh).append
            (visitExpressions_visits looks eighth)))))))
  | .setOperation ctes children modifiers, node', done => by
      simp only [visitNode, bind_ok, pure_ok] at done
      obtain ⟨⟨ctes', after⟩, _, first, children', _, second, modifiers', _, third, rfl, rfl⟩ := done
      obtain ⟨rfl, same, inCTEs⟩ := visitCTEs_visits looks first
      simp only [references, same]
      exact inCTEs.append ((visitNodes_visits looks second).append (visitExpressions_visits looks third))
  | .recursiveCTE ctes ctename left right keyTargets modifiers, node', done => by
      simp only [visitNode, bind_ok, pure_ok] at done
      obtain ⟨⟨ctes', after⟩, _, first, left', _, second, right', _, third, targets', _, fourth, modifiers', _, fifth, rfl,
        rfl⟩ := done
      obtain ⟨rfl, same, inCTEs⟩ := visitCTEs_visits looks first
      simp only [references, same]
      exact inCTEs.append ((visitNode_visits looks second).append ((visitNode_visits looks third).append
        ((visitExpressions_visits looks fourth).append (visitExpressions_visits looks fifth))))
  | .other ctes type, node', done => by
      simp only [visitNode, bind_ok, throw_ok, and_false, exists_false] at done
termination_by structural given => given

theorem visitCTEs_visits (looks : Looks expressionCallback) {visible after : List Identifier} {s t : σ} :
    ∀ {ctes ctes' : List CommonTableExpression},
    visitCTEs callback expressionCallback visible ctes s = .ok ((ctes', after), t) →
    after = visibleAfter visible ctes ∧ visibleAfter visible ctes' = visibleAfter visible ctes ∧
      Visits callback s (referencesCTEs visible ctes) t (referencesCTEs visible ctes')
  | [], ctes', done => by
      simp only [visitCTEs, pure_ok, Prod.mk.injEq] at done
      obtain ⟨⟨rfl, rfl⟩, rfl⟩ := done
      exact ⟨rfl, rfl, .nil⟩
  | .mk name queryNode keyTargets :: ctes, ctes', done => by
      simp only [visitCTEs, bind_ok, pure_ok, Prod.mk.injEq] at done
      obtain ⟨query', _, first, targets', _, second, ⟨rest', _⟩, _, third, ⟨rfl, rfl⟩, rfl⟩ := done
      obtain ⟨rfl, same, later⟩ := visitCTEs_visits looks third
      exact ⟨rfl, same, (visitQuery_visits looks first).append ((visitExpressions_visits looks second).append later)⟩
termination_by structural given => given

theorem visitQuery_visits (looks : Looks expressionCallback) {visible : List Identifier} {s t : σ} :
    ∀ {node node' : Option QueryNode}, visitQuery callback expressionCallback visible node s = .ok (node', t) →
    Visits callback s (referencesQuery visible node) t (referencesQuery visible node')
  | none, node', done => by
      simp only [visitQuery, pure_ok] at done
      obtain ⟨rfl, rfl⟩ := done
      exact .nil
  | some node, node', done => by
      simp only [visitQuery, bind_ok, pure_ok] at done
      obtain ⟨_, _, first, rfl, rfl⟩ := done
      exact visitNode_visits looks first
termination_by structural given => given

theorem visitNodes_visits (looks : Looks expressionCallback) {visible : List Identifier} {s t : σ} :
    ∀ {nodes nodes' : List QueryNode}, visitNodes callback expressionCallback visible nodes s = .ok (nodes', t) →
    Visits callback s (referencesNodes visible nodes) t (referencesNodes visible nodes')
  | [], nodes', done => by
      simp only [visitNodes, pure_ok] at done
      obtain ⟨rfl, rfl⟩ := done
      exact .nil
  | node :: nodes, nodes', done => by
      simp only [visitNodes, bind_ok, pure_ok] at done
      obtain ⟨_, _, first, _, _, second, rfl, rfl⟩ := done
      exact (visitNode_visits looks first).append (visitNodes_visits looks second)
termination_by structural given => given

theorem visitFrom_visits (looks : Looks expressionCallback) {visible : List Identifier} {s t : σ} :
    ∀ {ref ref' : Option TableRef}, visitFrom callback expressionCallback visible ref s = .ok (ref', t) →
    Visits callback s (referencesFrom visible ref) t (referencesFrom visible ref')
  | none, ref', done => by
      simp only [visitFrom, pure_ok] at done
      obtain ⟨rfl, rfl⟩ := done
      exact .nil
  | some ref, ref', done => by
      simp only [visitFrom, bind_ok, pure_ok] at done
      obtain ⟨_, _, first, rfl, rfl⟩ := done
      exact visitRef_visits looks first
termination_by structural given => given

theorem visitRef_visits (looks : Looks expressionCallback) {visible : List Identifier} {s t : σ} :
    ∀ {ref ref' : TableRef}, visitRef callback expressionCallback visible ref s = .ok (ref', t) →
    Visits callback s (referencesRef visible ref) t (referencesRef visible ref')
  | .baseTable name, ref', done => by
      simp only [visitRef, bind_ok, pure_ok] at done
      obtain ⟨_, _, called, rfl, rfl⟩ := done
      exact .cons called .nil
  | .join left right condition rankingExpression, ref', done => by
      simp only [visitRef, bind_ok, pure_ok] at done
      obtain ⟨_, _, first, _, _, second, _, _, third, _, _, fourth, rfl, rfl⟩ := done
      exact (visitRef_visits looks first).append ((visitRef_visits looks second).append
        ((visitOptional_visits looks third).append (visitOptional_visits looks fourth)))
  | .subquery node, ref', done => by
      simp only [visitRef, bind_ok, pure_ok] at done
      obtain ⟨_, _, first, rfl, rfl⟩ := done
      exact visitNode_visits looks first
  | .pivot source aggregates pivots, ref', done => by
      simp only [visitRef, bind_ok, pure_ok] at done
      obtain ⟨_, _, first, _, _, second, _, _, third, rfl, rfl⟩ := done
      exact (visitRef_visits looks first).append ((visitExpressions_visits looks second).append
        (visitPivots_visits looks third))
  | .expressionList values, ref', done => by
      simp only [visitRef, bind_ok, pure_ok] at done
      obtain ⟨_, _, first, rfl, rfl⟩ := done
      exact visitRows_visits looks first
  | .emptyFrom, ref', done => by
      simp only [visitRef, pure_ok] at done
      obtain ⟨rfl, rfl⟩ := done
      exact .nil
  | .tableFunction text, ref', done => by
      simp only [visitRef, throw_ok] at done
  | .other type, ref', done => by
      simp only [visitRef, throw_ok] at done
termination_by structural given => given

theorem visitPivots_visits (looks : Looks expressionCallback) {visible : List Identifier} {s t : σ} :
    ∀ {pivots pivots' : List PivotColumn}, visitPivots callback expressionCallback visible pivots s = .ok (pivots', t) →
    Visits callback s (referencesPivots visible pivots) t (referencesPivots visible pivots')
  | [], pivots', done => by
      simp only [visitPivots, pure_ok] at done
      obtain ⟨rfl, rfl⟩ := done
      exact .nil
  | .mk pivotExpressions entries :: pivots, pivots', done => by
      simp only [visitPivots, bind_ok, pure_ok] at done
      obtain ⟨_, _, first, _, _, second, _, _, third, rfl, rfl⟩ := done
      exact (visitExpressions_visits looks first).append ((visitExpressions_visits looks second).append
        (visitPivots_visits looks third))
termination_by structural given => given

theorem visitRows_visits (looks : Looks expressionCallback) {visible : List Identifier} {s t : σ} :
    ∀ {rows rows' : List (List ParsedExpression)},
    visitRows callback expressionCallback visible rows s = .ok (rows', t) →
    Visits callback s (referencesRows visible rows) t (referencesRows visible rows')
  | [], rows', done => by
      simp only [visitRows, pure_ok] at done
      obtain ⟨rfl, rfl⟩ := done
      exact .nil
  | row :: rows, rows', done => by
      simp only [visitRows, bind_ok, pure_ok] at done
      obtain ⟨_, _, first, _, _, second, rfl, rfl⟩ := done
      exact (visitExpressions_visits looks first).append (visitRows_visits looks second)
termination_by structural given => given

theorem visitExpression_visits (looks : Looks expressionCallback) {visible : List Identifier} {s t : σ} :
    ∀ {expr expr' : ParsedExpression}, visitExpression callback expressionCallback visible expr s = .ok (expr', t) →
    Visits callback s (referencesExpression visible expr) t (referencesExpression visible expr')
  | .columnRef columnNames, expr', done => by
      simp only [visitExpression, bind_ok, pure_ok] at done
      obtain ⟨_, _, looked, rfl, rfl⟩ := done
      cases looks _ _ _ looked
      exact .nil
  | .star excludeList renameList children, expr', done => by
      simp only [visitExpression, bind_ok, pure_ok] at done
      obtain ⟨_, _, looked, _, _, first, rfl, rfl⟩ := done
      cases looks _ _ _ looked
      exact visitExpressions_visits looks first
  | .subquery node children, expr', done => by
      simp only [visitExpression, bind_ok, pure_ok] at done
      obtain ⟨_, _, first, _, _, second, rfl, rfl⟩ := done
      exact (visitQuery_visits looks first).append (visitExpressions_visits looks second)
  | .other children, expr', done => by
      simp only [visitExpression, bind_ok, pure_ok] at done
      obtain ⟨_, _, first, rfl, rfl⟩ := done
      exact visitExpressions_visits looks first
termination_by structural given => given

theorem visitExpressions_visits (looks : Looks expressionCallback) {visible : List Identifier} {s t : σ} :
    ∀ {exprs exprs' : List ParsedExpression},
    visitExpressions callback expressionCallback visible exprs s = .ok (exprs', t) →
    Visits callback s (referencesExpressions visible exprs) t (referencesExpressions visible exprs')
  | [], exprs', done => by
      simp only [visitExpressions, pure_ok] at done
      obtain ⟨rfl, rfl⟩ := done
      exact .nil
  | expr :: exprs, exprs', done => by
      simp only [visitExpressions, bind_ok, pure_ok] at done
      obtain ⟨_, _, first, _, _, second, rfl, rfl⟩ := done
      exact (visitExpression_visits looks first).append (visitExpressions_visits looks second)
termination_by structural given => given

theorem visitOptional_visits (looks : Looks expressionCallback) {visible : List Identifier} {s t : σ} :
    ∀ {expr expr' : Option ParsedExpression},
    visitOptional callback expressionCallback visible expr s = .ok (expr', t) →
    Visits callback s (referencesOptional visible expr) t (referencesOptional visible expr')
  | none, expr', done => by
      simp only [visitOptional, pure_ok] at done
      obtain ⟨rfl, rfl⟩ := done
      exact .nil
  | some expr, expr', done => by
      simp only [visitOptional, bind_ok, pure_ok] at done
      obtain ⟨_, _, first, rfl, rfl⟩ := done
      exact visitExpression_visits looks first
termination_by structural given => given

end

mutual

/-- What a walk went through is storable, before and after it. -/
theorem visitNode_storable {visible : List Identifier} {s t : σ} : ∀ {node node' : QueryNode},
    visitNode callback expressionCallback visible node s = .ok (node', t) → storable node = true ∧ storable node' = true
  | .select ctes fromTable selectList groups whereClause having qualify modifiers, node', done => by
      simp only [visitNode, bind_ok, pure_ok] at done
      obtain ⟨⟨ctes', after⟩, _, first, from', _, second, select', _, third, groups', _, fourth, where', _, fifth,
        having', _, sixth, qualify', _, seventh, modifiers', _, eighth, rfl, rfl⟩ := done
      simp only [storable, visitCTEs_storable first, visitFrom_storable second, visitExpressions_storable third,
        visitExpressions_storable fourth, visitOptional_storable fifth, visitOptional_storable sixth,
        visitOptional_storable seventh, visitExpressions_storable eighth, Bool.and_true, and_true]
  | .setOperation ctes children modifiers, node', done => by
      simp only [visitNode, bind_ok, pure_ok] at done
      obtain ⟨⟨ctes', after⟩, _, first, children', _, second, modifiers', _, third, rfl, rfl⟩ := done
      simp only [storable, visitCTEs_storable first, visitNodes_storable second, visitExpressions_storable third,
        Bool.and_true, and_true]
  | .recursiveCTE ctes ctename left right keyTargets modifiers, node', done => by
      simp only [visitNode, bind_ok, pure_ok] at done
      obtain ⟨⟨ctes', after⟩, _, first, left', _, second, right', _, third, targets', _, fourth, modifiers', _, fifth, rfl,
        rfl⟩ := done
      simp only [storable, visitCTEs_storable first, visitNode_storable second, visitNode_storable third,
        visitExpressions_storable fourth, visitExpressions_storable fifth, Bool.and_true, and_true]
  | .other ctes type, node', done => by
      simp only [visitNode, bind_ok, throw_ok, and_false, exists_false] at done
termination_by structural given => given

theorem visitCTEs_storable {visible after : List Identifier} {s t : σ} : ∀ {ctes ctes' : List CommonTableExpression},
    visitCTEs callback expressionCallback visible ctes s = .ok ((ctes', after), t) →
    storableCTEs ctes = true ∧ storableCTEs ctes' = true
  | [], ctes', done => by
      simp only [visitCTEs, pure_ok, Prod.mk.injEq] at done
      obtain ⟨⟨rfl, rfl⟩, rfl⟩ := done
      exact ⟨rfl, rfl⟩
  | .mk name queryNode keyTargets :: ctes, ctes', done => by
      simp only [visitCTEs, bind_ok, pure_ok, Prod.mk.injEq] at done
      obtain ⟨query', _, first, targets', _, second, ⟨rest', _⟩, _, third, ⟨rfl, rfl⟩, rfl⟩ := done
      simp only [storableCTEs, visitQuery_storable first, visitExpressions_storable second, visitCTEs_storable third,
        Bool.and_true, and_true]
termination_by structural given => given

theorem visitQuery_storable {visible : List Identifier} {s t : σ} : ∀ {node node' : Option QueryNode},
    visitQuery callback expressionCallback visible node s = .ok (node', t) →
    storableQuery node = true ∧ storableQuery node' = true
  | none, node', done => by
      simp only [visitQuery, pure_ok] at done
      obtain ⟨rfl, rfl⟩ := done
      exact ⟨rfl, rfl⟩
  | some node, node', done => by
      simp only [visitQuery, bind_ok, pure_ok] at done
      obtain ⟨_, _, first, rfl, rfl⟩ := done
      exact visitNode_storable first
termination_by structural given => given

theorem visitNodes_storable {visible : List Identifier} {s t : σ} : ∀ {nodes nodes' : List QueryNode},
    visitNodes callback expressionCallback visible nodes s = .ok (nodes', t) →
    storableNodes nodes = true ∧ storableNodes nodes' = true
  | [], nodes', done => by
      simp only [visitNodes, pure_ok] at done
      obtain ⟨rfl, rfl⟩ := done
      exact ⟨rfl, rfl⟩
  | node :: nodes, nodes', done => by
      simp only [visitNodes, bind_ok, pure_ok] at done
      obtain ⟨_, _, first, _, _, second, rfl, rfl⟩ := done
      simp only [storableNodes, visitNode_storable first, visitNodes_storable second, Bool.and_true, and_true]
termination_by structural given => given

theorem visitFrom_storable {visible : List Identifier} {s t : σ} : ∀ {ref ref' : Option TableRef},
    visitFrom callback expressionCallback visible ref s = .ok (ref', t) →
    storableFrom ref = true ∧ storableFrom ref' = true
  | none, ref', done => by
      simp only [visitFrom, pure_ok] at done
      obtain ⟨rfl, rfl⟩ := done
      exact ⟨rfl, rfl⟩
  | some ref, ref', done => by
      simp only [visitFrom, bind_ok, pure_ok] at done
      obtain ⟨_, _, first, rfl, rfl⟩ := done
      exact visitRef_storable first
termination_by structural given => given

theorem visitRef_storable {visible : List Identifier} {s t : σ} : ∀ {ref ref' : TableRef},
    visitRef callback expressionCallback visible ref s = .ok (ref', t) → storableRef ref = true ∧ storableRef ref' = true
  | .baseTable name, ref', done => by
      simp only [visitRef, bind_ok, pure_ok] at done
      obtain ⟨_, _, called, rfl, rfl⟩ := done
      exact ⟨rfl, rfl⟩
  | .join left right condition rankingExpression, ref', done => by
      simp only [visitRef, bind_ok, pure_ok] at done
      obtain ⟨_, _, first, _, _, second, _, _, third, _, _, fourth, rfl, rfl⟩ := done
      simp only [storableRef, visitRef_storable first, visitRef_storable second, visitOptional_storable third,
        visitOptional_storable fourth, Bool.and_true, and_true]
  | .subquery node, ref', done => by
      simp only [visitRef, bind_ok, pure_ok] at done
      obtain ⟨_, _, first, rfl, rfl⟩ := done
      exact visitNode_storable first
  | .pivot source aggregates pivots, ref', done => by
      simp only [visitRef, bind_ok, pure_ok] at done
      obtain ⟨_, _, first, _, _, second, _, _, third, rfl, rfl⟩ := done
      simp only [storableRef, visitRef_storable first, visitExpressions_storable second, visitPivots_storable third,
        Bool.and_true, and_true]
  | .expressionList values, ref', done => by
      simp only [visitRef, bind_ok, pure_ok] at done
      obtain ⟨_, _, first, rfl, rfl⟩ := done
      exact visitRows_storable first
  | .emptyFrom, ref', done => by
      simp only [visitRef, pure_ok] at done
      obtain ⟨rfl, rfl⟩ := done
      exact ⟨rfl, rfl⟩
  | .tableFunction text, ref', done => by
      simp only [visitRef, throw_ok] at done
  | .other type, ref', done => by
      simp only [visitRef, throw_ok] at done
termination_by structural given => given

theorem visitPivots_storable {visible : List Identifier} {s t : σ} : ∀ {pivots pivots' : List PivotColumn},
    visitPivots callback expressionCallback visible pivots s = .ok (pivots', t) →
    storablePivots pivots = true ∧ storablePivots pivots' = true
  | [], pivots', done => by
      simp only [visitPivots, pure_ok] at done
      obtain ⟨rfl, rfl⟩ := done
      exact ⟨rfl, rfl⟩
  | .mk pivotExpressions entries :: pivots, pivots', done => by
      simp only [visitPivots, bind_ok, pure_ok] at done
      obtain ⟨_, _, first, _, _, second, _, _, third, rfl, rfl⟩ := done
      simp only [storablePivots, visitExpressions_storable first, visitExpressions_storable second,
        visitPivots_storable third, Bool.and_true, and_true]
termination_by structural given => given

theorem visitRows_storable {visible : List Identifier} {s t : σ} : ∀ {rows rows' : List (List ParsedExpression)},
    visitRows callback expressionCallback visible rows s = .ok (rows', t) →
    storableRows rows = true ∧ storableRows rows' = true
  | [], rows', done => by
      simp only [visitRows, pure_ok] at done
      obtain ⟨rfl, rfl⟩ := done
      exact ⟨rfl, rfl⟩
  | row :: rows, rows', done => by
      simp only [visitRows, bind_ok, pure_ok] at done
      obtain ⟨_, _, first, _, _, second, rfl, rfl⟩ := done
      simp only [storableRows, visitExpressions_storable first, visitRows_storable second, Bool.and_true, and_true]
termination_by structural given => given

theorem visitExpression_storable {visible : List Identifier} {s t : σ} : ∀ {expr expr' : ParsedExpression},
    visitExpression callback expressionCallback visible expr s = .ok (expr', t) →
    storableExpression expr = true ∧ storableExpression expr' = true
  | .columnRef columnNames, expr', done => by
      simp only [visitExpression, bind_ok, pure_ok] at done
      obtain ⟨_, _, _, rfl, rfl⟩ := done
      exact ⟨rfl, rfl⟩
  | .star excludeList renameList children, expr', done => by
      simp only [visitExpression, bind_ok, pure_ok] at done
      obtain ⟨_, _, _, _, _, first, rfl, rfl⟩ := done
      exact visitExpressions_storable first
  | .subquery node children, expr', done => by
      simp only [visitExpression, bind_ok, pure_ok] at done
      obtain ⟨_, _, first, _, _, second, rfl, rfl⟩ := done
      simp only [storableExpression, visitQuery_storable first, visitExpressions_storable second, Bool.and_true, and_true]
  | .other children, expr', done => by
      simp only [visitExpression, bind_ok, pure_ok] at done
      obtain ⟨_, _, first, rfl, rfl⟩ := done
      exact visitExpressions_storable first
termination_by structural given => given

theorem visitExpressions_storable {visible : List Identifier} {s t : σ} : ∀ {exprs exprs' : List ParsedExpression},
    visitExpressions callback expressionCallback visible exprs s = .ok (exprs', t) →
    storableExpressions exprs = true ∧ storableExpressions exprs' = true
  | [], exprs', done => by
      simp only [visitExpressions, pure_ok] at done
      obtain ⟨rfl, rfl⟩ := done
      exact ⟨rfl, rfl⟩
  | expr :: exprs, exprs', done => by
      simp only [visitExpressions, bind_ok, pure_ok] at done
      obtain ⟨_, _, first, _, _, second, rfl, rfl⟩ := done
      simp only [storableExpressions, visitExpression_storable first, visitExpressions_storable second, Bool.and_true,
        and_true]
termination_by structural given => given

theorem visitOptional_storable {visible : List Identifier} {s t : σ} : ∀ {expr expr' : Option ParsedExpression},
    visitOptional callback expressionCallback visible expr s = .ok (expr', t) →
    storableOptional expr = true ∧ storableOptional expr' = true
  | none, expr', done => by
      simp only [visitOptional, pure_ok] at done
      obtain ⟨rfl, rfl⟩ := done
      exact ⟨rfl, rfl⟩
  | some expr, expr', done => by
      simp only [visitOptional, bind_ok, pure_ok] at done
      obtain ⟨_, _, first, rfl, rfl⟩ := done
      exact visitExpression_storable first
termination_by structural given => given

end

end Walks

/-- A computation that throws in no state. -/
def Runs {σ α : Type} (x : StateT σ (Except Exception) α) : Prop := ∀ s, ∃ a t, x s = .ok (a, t)

section Totality

variable {σ : Type} {callback : BaseTableCallback σ} {expressionCallback : ExpressionCallback σ}

theorem Runs.pure {α : Type} {a : α} : Runs (Pure.pure a : StateT σ (Except Exception) α) := by
  intro s
  exact ⟨a, s, rfl⟩

theorem Runs.bind {α β : Type} {x : StateT σ (Except Exception) α} {f : α → StateT σ (Except Exception) β} (first : Runs x)
    (later : ∀ s a t, x s = .ok (a, t) → Runs (f a)) : Runs (x >>= f) := by
  intro s
  obtain ⟨a, t, done⟩ := first s
  obtain ⟨b, u, rest⟩ := later s a t done t
  exact ⟨b, u, bind_ok.mpr ⟨a, t, done, rest⟩⟩

/-- The callback takes every one of the tables. -/
def Takes (callback : BaseTableCallback σ) (tables : List ScopedReference) : Prop :=
  ∀ ref ∈ tables, Runs (callback ref.1 ref.2)

theorem takes_append {first second : List ScopedReference} :
    Takes callback (first ++ second) ↔ Takes callback first ∧ Takes callback second := List.forall_mem_append

mutual

/-- A storable body is gone through as far as the callbacks go. -/
theorem visitNode_runs (looks : Looks expressionCallback) (expressions : ∀ expr, Runs (expressionCallback expr))
    {visible : List Identifier} : ∀ {node : QueryNode}, storable node = true → Takes callback (references visible node) →
    Runs (visitNode callback expressionCallback visible node)
  | .select ctes fromTable selectList groups whereClause having qualify modifiers, stored, takes => by
      simp only [storable, Bool.and_eq_true] at stored
      obtain ⟨inCTEs, inFrom, inSelect, inGroups, inWhere, inHaving, inQualify, inModifiers⟩ := stored
      simp only [references, takes_append] at takes
      obtain ⟨one, two, three, four, five, six, seven, eight⟩ := takes
      simp only [visitNode]
      apply (visitCTEs_runs looks expressions inCTEs one).bind
      intro s ⟨_, after⟩ t walked
      obtain ⟨rfl, -, -⟩ := visitCTEs_visits looks walked
      exact (visitFrom_runs looks expressions inFrom two).bind fun _ _ _ _ =>
        (visitExpressions_runs looks expressions inSelect three).bind fun _ _ _ _ =>
        (visitExpressions_runs looks expressions inGroups four).bind fun _ _ _ _ =>
        (visitOptional_runs looks expressions inWhere five).bind fun _ _ _ _ =>
        (visitOptional_runs looks expressions inHaving six).bind fun _ _ _ _ =>
        (visitOptional_runs looks expressions inQualify seven).bind fun _ _ _ _ =>
        (visitExpressions_runs looks expressions inModifiers eight).bind fun _ _ _ _ => .pure
  | .setOperation ctes children modifiers, stored, takes => by
      simp only [storable, Bool.and_eq_true] at stored
      obtain ⟨inCTEs, inChildren, inModifiers⟩ := stored
      simp only [references, takes_append] at takes
      obtain ⟨one, two, three⟩ := takes
      simp only [visitNode]
      apply (visitCTEs_runs looks expressions inCTEs one).bind
      intro s ⟨_, after⟩ t walked
      obtain ⟨rfl, -, -⟩ := visitCTEs_visits looks walked
      exact (visitNodes_runs looks expressions inChildren two).bind fun _ _ _ _ =>
        (visitExpressions_runs looks expressions inModifiers three).bind fun _ _ _ _ => .pure
  | .recursiveCTE ctes ctename left right keyTargets modifiers, stored, takes => by
      simp only [storable, Bool.and_eq_true] at stored
      obtain ⟨inCTEs, inLeft, inRight, inTargets, inModifiers⟩ := stored
      simp only [references, takes_append] at takes
      obtain ⟨one, two, three, four, five⟩ := takes
      simp only [visitNode]
      apply (visitCTEs_runs looks expressions inCTEs one).bind
      intro s ⟨_, after⟩ t walked
      obtain ⟨rfl, -, -⟩ := visitCTEs_visits looks walked
      exact (visitNode_runs looks expressions inLeft two).bind fun _ _ _ _ =>
        (visitNode_runs looks expressions inRight three).bind fun _ _ _ _ =>
        (visitExpressions_runs looks expressions inTargets four).bind fun _ _ _ _ =>
        (visitExpressions_runs looks expressions inModifiers five).bind fun _ _ _ _ => .pure
  | .other ctes type, stored, takes => nomatch stored
termination_by structural given => given

theorem visitCTEs_runs (looks : Looks expressionCallback) (expressions : ∀ expr, Runs (expressionCallback expr))
    {visible : List Identifier} : ∀ {ctes : List CommonTableExpression}, storableCTEs ctes = true →
    Takes callback (referencesCTEs visible ctes) → Runs (visitCTEs callback expressionCallback visible ctes)
  | [], stored, takes => .pure
  | .mk name queryNode keyTargets :: ctes, stored, takes => by
      simp only [storableCTEs, Bool.and_eq_true] at stored
      obtain ⟨inQuery, inTargets, inRest⟩ := stored
      simp only [referencesCTEs, takes_append] at takes
      obtain ⟨one, two, three⟩ := takes
      simp only [visitCTEs]
      exact (visitQuery_runs looks expressions inQuery one).bind fun _ _ _ _ =>
        (visitExpressions_runs looks expressions inTargets two).bind fun _ _ _ _ =>
        (visitCTEs_runs looks expressions inRest three).bind fun _ _ _ _ => .pure
termination_by structural given => given

theorem visitQuery_runs (looks : Looks expressionCallback) (expressions : ∀ expr, Runs (expressionCallback expr))
    {visible : List Identifier} : ∀ {node : Option QueryNode}, storableQuery node = true →
    Takes callback (referencesQuery visible node) → Runs (visitQuery callback expressionCallback visible node)
  | none, _, _ => .pure
  | some _, stored, takes => (visitNode_runs looks expressions stored takes).bind fun _ _ _ _ => .pure
termination_by structural given => given

theorem visitNodes_runs (looks : Looks expressionCallback) (expressions : ∀ expr, Runs (expressionCallback expr))
    {visible : List Identifier} : ∀ {nodes : List QueryNode}, storableNodes nodes = true →
    Takes callback (referencesNodes visible nodes) → Runs (visitNodes callback expressionCallback visible nodes)
  | [], stored, takes => .pure
  | node :: nodes, stored, takes => by
      obtain ⟨inFirst, inRest⟩ := Bool.and_eq_true_iff.mp stored
      obtain ⟨one, two⟩ := takes_append.mp takes
      exact (visitNode_runs looks expressions inFirst one).bind fun _ _ _ _ =>
        (visitNodes_runs looks expressions inRest two).bind fun _ _ _ _ => .pure
termination_by structural given => given

theorem visitFrom_runs (looks : Looks expressionCallback) (expressions : ∀ expr, Runs (expressionCallback expr))
    {visible : List Identifier} : ∀ {ref : Option TableRef}, storableFrom ref = true →
    Takes callback (referencesFrom visible ref) → Runs (visitFrom callback expressionCallback visible ref)
  | none, _, _ => .pure
  | some _, stored, takes => (visitRef_runs looks expressions stored takes).bind fun _ _ _ _ => .pure
termination_by structural given => given

theorem visitRef_runs (looks : Looks expressionCallback) (expressions : ∀ expr, Runs (expressionCallback expr))
    {visible : List Identifier} : ∀ {ref : TableRef}, storableRef ref = true →
    Takes callback (referencesRef visible ref) → Runs (visitRef callback expressionCallback visible ref)
  | .baseTable name, stored, takes => (takes (name, visible) List.mem_cons_self).bind fun _ _ _ _ => .pure
  | .join left right condition rankingExpression, stored, takes => by
      simp only [storableRef, Bool.and_eq_true] at stored
      obtain ⟨inLeft, inRight, inCondition, inRanking⟩ := stored
      simp only [referencesRef, takes_append] at takes
      obtain ⟨one, two, three, four⟩ := takes
      exact (visitRef_runs looks expressions inLeft one).bind fun _ _ _ _ =>
        (visitRef_runs looks expressions inRight two).bind fun _ _ _ _ =>
        (visitOptional_runs looks expressions inCondition three).bind fun _ _ _ _ =>
        (visitOptional_runs looks expressions inRanking four).bind fun _ _ _ _ => .pure
  | .subquery node, stored, takes => (visitNode_runs looks expressions stored takes).bind fun _ _ _ _ => .pure
  | .pivot source aggregates pivots, stored, takes => by
      simp only [storableRef, Bool.and_eq_true] at stored
      obtain ⟨inSource, inAggregates, inPivots⟩ := stored
      simp only [referencesRef, takes_append] at takes
      obtain ⟨one, two, three⟩ := takes
      exact (visitRef_runs looks expressions inSource one).bind fun _ _ _ _ =>
        (visitExpressions_runs looks expressions inAggregates two).bind fun _ _ _ _ =>
        (visitPivots_runs looks expressions inPivots three).bind fun _ _ _ _ => .pure
  | .expressionList values, stored, takes => (visitRows_runs looks expressions stored takes).bind fun _ _ _ _ => .pure
  | .emptyFrom, stored, takes => .pure
  | .tableFunction text, stored, takes => nomatch stored
  | .other type, stored, takes => nomatch stored
termination_by structural given => given

theorem visitPivots_runs (looks : Looks expressionCallback) (expressions : ∀ expr, Runs (expressionCallback expr))
    {visible : List Identifier} : ∀ {pivots : List PivotColumn}, storablePivots pivots = true →
    Takes callback (referencesPivots visible pivots) → Runs (visitPivots callback expressionCallback visible pivots)
  | [], stored, takes => .pure
  | .mk pivotExpressions entries :: pivots, stored, takes => by
      simp only [storablePivots, Bool.and_eq_true] at stored
      obtain ⟨inPivot, inEntries, inRest⟩ := stored
      simp only [referencesPivots, takes_append] at takes
      obtain ⟨one, two, three⟩ := takes
      exact (visitExpressions_runs looks expressions inPivot one).bind fun _ _ _ _ =>
        (visitExpressions_runs looks expressions inEntries two).bind fun _ _ _ _ =>
        (visitPivots_runs looks expressions inRest three).bind fun _ _ _ _ => .pure
termination_by structural given => given

theorem visitRows_runs (looks : Looks expressionCallback) (expressions : ∀ expr, Runs (expressionCallback expr))
    {visible : List Identifier} : ∀ {rows : List (List ParsedExpression)}, storableRows rows = true →
    Takes callback (referencesRows visible rows) → Runs (visitRows callback expressionCallback visible rows)
  | [], stored, takes => .pure
  | row :: rows, stored, takes => by
      obtain ⟨inFirst, inRest⟩ := Bool.and_eq_true_iff.mp stored
      obtain ⟨one, two⟩ := takes_append.mp takes
      exact (visitExpressions_runs looks expressions inFirst one).bind fun _ _ _ _ =>
        (visitRows_runs looks expressions inRest two).bind fun _ _ _ _ => .pure
termination_by structural given => given

theorem visitExpression_runs (looks : Looks expressionCallback) (expressions : ∀ expr, Runs (expressionCallback expr))
    {visible : List Identifier} : ∀ {expr : ParsedExpression}, storableExpression expr = true →
    Takes callback (referencesExpression visible expr) → Runs (visitExpression callback expressionCallback visible expr)
  | .columnRef columnNames, stored, takes => (expressions (.columnRef columnNames)).bind fun _ _ _ _ => .pure
  | .star excludeList renameList children, stored, takes =>
      (expressions (.star excludeList renameList children)).bind fun _ _ _ _ =>
        (visitExpressions_runs looks expressions stored takes).bind fun _ _ _ _ => .pure
  | .subquery node children, stored, takes => by
      obtain ⟨inQuery, inChildren⟩ := Bool.and_eq_true_iff.mp stored
      obtain ⟨one, two⟩ := takes_append.mp takes
      exact (visitQuery_runs looks expressions inQuery one).bind fun _ _ _ _ =>
        (visitExpressions_runs looks expressions inChildren two).bind fun _ _ _ _ => .pure
  | .other children, stored, takes =>
      (visitExpressions_runs looks expressions stored takes).bind fun _ _ _ _ => .pure
termination_by structural given => given

theorem visitExpressions_runs (looks : Looks expressionCallback) (expressions : ∀ expr, Runs (expressionCallback expr))
    {visible : List Identifier} : ∀ {exprs : List ParsedExpression}, storableExpressions exprs = true →
    Takes callback (referencesExpressions visible exprs) →
    Runs (visitExpressions callback expressionCallback visible exprs)
  | [], stored, takes => .pure
  | expr :: exprs, stored, takes => by
      obtain ⟨inFirst, inRest⟩ := Bool.and_eq_true_iff.mp stored
      obtain ⟨one, two⟩ := takes_append.mp takes
      exact (visitExpression_runs looks expressions inFirst one).bind fun _ _ _ _ =>
        (visitExpressions_runs looks expressions inRest two).bind fun _ _ _ _ => .pure
termination_by structural given => given

theorem visitOptional_runs (looks : Looks expressionCallback) (expressions : ∀ expr, Runs (expressionCallback expr))
    {visible : List Identifier} : ∀ {expr : Option ParsedExpression}, storableOptional expr = true →
    Takes callback (referencesOptional visible expr) → Runs (visitOptional callback expressionCallback visible expr)
  | none, _, _ => .pure
  | some _, stored, takes => (visitExpression_runs looks expressions stored takes).bind fun _ _ _ _ => .pure
termination_by structural given => given

end

end Totality

end ViewBodyWalker

end DuckGlue
