import DuckGlue.Lib.Fallible

/-! # Expressions over columns, and what a selection by them keeps

An expression is a tree of operators over column references and constants; NULL is
no value. Replacing column references by the values the row has for them keeps the
value. Pruning groups of rows none of which are selected, and dropping conditions
true of every row left, keep the selection.
-/

namespace DuckGlue

inductive Expression (Column Op Value : Type) where
  | columnRef (column : Column)
  | constant (value : Option Value)
  | call (op : Op) (children : List (Expression Column Op Value))

namespace Expression

variable {Column Op Value ε : Type}

section Evaluate

-- the values of the columns, and what an operator makes of its arguments
variable (column : Column → Option Value) (apply : Op → List (Option Value) → Option Value)

mutual

def evaluate : Expression Column Op Value → Option Value
  | .columnRef c => column c
  | .constant value => value
  | .call op children => apply op (evaluateChildren children)

def evaluateChildren : List (Expression Column Op Value) → List (Option Value)
  | [] => []
  | child :: children => evaluate child :: evaluateChildren children

end

end Evaluate

mutual

/-- The column references of an expression. -/
def columns : Expression Column Op Value → List Column
  | .columnRef c => [c]
  | .constant _ => []
  | .call _ children => columnsOfChildren children

def columnsOfChildren : List (Expression Column Op Value) → List Column
  | [] => []
  | child :: children => columns child ++ columnsOfChildren children

end

mutual

def mapColumns (f : Column → Column) : Expression Column Op Value → Expression Column Op Value
  | .columnRef c => .columnRef (f c)
  | .constant value => .constant value
  | .call op children => .call op (mapColumnsOfChildren f children)

def mapColumnsOfChildren (f : Column → Column) :
    List (Expression Column Op Value) → List (Expression Column Op Value)
  | [] => []
  | child :: children => mapColumns f child :: mapColumnsOfChildren f children

end

section Replace

-- the constant a column reference is replaced by, if any
variable (constantOf : Column → Except ε (Option (Option Value)))

mutual

def replaceColumns : Expression Column Op Value → Except ε (Expression Column Op Value)
  | .columnRef c => do
      match ← constantOf c with
      | some value => return .constant value
      | none => return .columnRef c
  | .constant value => .ok (.constant value)
  | .call op children => do return .call op (← replaceChildren children)

def replaceChildren :
    List (Expression Column Op Value) → Except ε (List (Expression Column Op Value))
  | [] => .ok []
  | child :: children => do
      let replaced ← replaceColumns child
      return replaced :: (← replaceChildren children)

end

end Replace

section Replaced

variable {constantOf : Column → Except ε (Option (Option Value))} {column : Column → Option Value}
  (apply : Op → List (Option Value) → Option Value)

mutual

/-- A column reference may be replaced by the value the row has for it. -/
theorem evaluate_replaceColumns {e replaced : Expression Column Op Value}
    (agrees : ∀ c ∈ e.columns, ∀ value, constantOf c = .ok (some value) → column c = value)
    (h : replaceColumns constantOf e = .ok replaced) :
    replaced.evaluate column apply = e.evaluate column apply := by
  cases e with
  | columnRef c =>
      simp only [replaceColumns, Fallible.bind_eq_ok] at h
      obtain ⟨found, constant, h⟩ := h
      cases found with
      | none =>
          cases h
          rfl
      | some value =>
          cases h
          exact (agrees c (by simp [columns]) value constant).symm
  | constant value =>
      cases h
      rfl
  | call op children =>
      simp only [replaceColumns, Fallible.bind_eq_ok, Fallible.pure_eq_ok] at h
      obtain ⟨replacedChildren, done, rfl⟩ := h
      simp only [evaluate]
      rw [evaluateChildren_replaceChildren (by simpa only [columns] using agrees) done]
termination_by sizeOf e

theorem evaluateChildren_replaceChildren {children replaced : List (Expression Column Op Value)}
    (agrees : ∀ c ∈ columnsOfChildren children, ∀ value, constantOf c = .ok (some value) → column c = value)
    (h : replaceChildren constantOf children = .ok replaced) :
    evaluateChildren column apply replaced = evaluateChildren column apply children := by
  cases children with
  | nil =>
      cases h
      rfl
  | cons child children =>
      simp only [replaceChildren, Fallible.bind_eq_ok, Fallible.pure_eq_ok] at h
      obtain ⟨first, firstDone, rest, restDone, rfl⟩ := h
      simp only [evaluateChildren]
      rw [evaluate_replaceColumns (fun c member => agrees c (by simp [columnsOfChildren, member])) firstDone,
        evaluateChildren_replaceChildren (fun c member => agrees c (by simp [columnsOfChildren, member])) restDone]
termination_by sizeOf children

end

mutual

/-- The references are replaced in their order, up to the first that can not be. -/
theorem replaceColumns_ends (e : Expression Column Op Value) {failed : ε} :
    replaceColumns constantOf e = .error failed ↔ e.columns.mapM constantOf = .error failed := by
  match e with
  | .columnRef c =>
      simp only [replaceColumns, columns, List.mapM_cons, List.mapM_nil]
      cases constantOf c with
      | error _ => simp only [bind, Except.bind, Except.error.injEq]
      | ok found => cases found <;> exact iff_of_false nofun nofun
  | .constant value => exact iff_of_false nofun nofun
  | .call op children =>
      rw [columns, ← replaceChildren_ends children]
      simp only [replaceColumns, Fallible.bind_eq_error, Fallible.pure_ne_error, and_false, exists_false, or_false]
termination_by sizeOf e

theorem replaceChildren_ends (children : List (Expression Column Op Value)) {failed : ε} :
    replaceChildren constantOf children = .error failed ↔
      (columnsOfChildren children).mapM constantOf = .error failed := by
  match children with
  | [] => exact iff_of_false nofun nofun
  | child :: children =>
      have passes : (∃ replaced, replaceColumns constantOf child = .ok replaced) ↔
          ∃ constants, child.columns.mapM constantOf = .ok constants :=
        Fallible.passes_iff_of_fails_iff fun failed => replaceColumns_ends child
      simp only [columnsOfChildren, List.mapM_append, replaceChildren, Fallible.bind_eq_error, Fallible.pure_ne_error,
        and_false, exists_false, or_false, replaceColumns_ends child, replaceChildren_ends children, exists_and_right,
        passes]
termination_by sizeOf children

end

end Replaced

end Expression

/-! ## Selections -/

namespace Selection

variable {Group Row : Type} {rows : Group → List Row} {holds holds' : Row → Bool} {groups : List Group}

/-- The rows of the groups that satisfy the condition. -/
def select (rows : Group → List Row) (holds : Row → Bool) (groups : List Group) : List Row :=
  groups.flatMap fun group => (rows group).filter holds

theorem select_congr (h : ∀ group ∈ groups, ∀ row ∈ rows group, holds row = holds' row) :
    select rows holds groups = select rows holds' groups := by
  apply List.flatMap_congr
  intro group member
  exact List.filter_congr (h group member)

/-- A further condition selects among the rows selected. -/
theorem select_and (more : Row → Bool) :
    select rows (fun row => holds row && more row) groups = (select rows holds groups).filter more := by
  unfold select
  rw [List.filter_flatMap]
  apply List.flatMap_congr
  intro group _
  rw [List.filter_filter]
  apply List.filter_congr
  intro row _
  exact Bool.and_comm ..

/-- Groups of which no row is selected can be left out. -/
theorem select_filter {keep : Group → Bool}
    (h : ∀ group ∈ groups, keep group = false → ∀ row ∈ rows group, holds row = false) :
    select rows holds (groups.filter keep) = select rows holds groups := by
  induction groups with
  | nil => rfl
  | cons group groups ih =>
      obtain ⟨here, later⟩ := List.forall_mem_cons.mp h
      cases kept : keep group with
      | true => simp only [select, List.filter_cons, kept, if_true, List.flatMap_cons] at ih ⊢; rw [ih later]
      | false =>
          have none : (rows group).filter holds = [] := by
            apply List.filter_eq_nil_iff.mpr
            intro row member
            simp [here kept row member]
          simp only [select, List.filter_cons, kept, Bool.false_eq_true, if_false, List.flatMap_cons, none] at ih ⊢
          exact ih later

end Selection

end DuckGlue
