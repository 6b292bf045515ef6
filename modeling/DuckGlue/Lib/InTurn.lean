import DuckGlue.Lib.Fallible

/-! # Elements taken in turn

A loop takes the elements of a list in turn and ends early where one of them does not let
it go on. What it does is what it does for the elements it comes to.
-/

namespace DuckGlue

variable {α R ε β : Type}

/-- What is done for the elements of a list, as far as they let the loop go on. -/
def inTurn (does : α → List R) (goesOn : α → Bool) : List α → List R
  | [] => []
  | x :: xs => does x ++ if goesOn x then inTurn does goesOn xs else []

/-- A loop over the list comes to the element. -/
inductive Reached (goesOn : α → Bool) : List α → α → Prop where
  | here {x : α} {xs : List α} : Reached goesOn (x :: xs) x
  | later {x y : α} {xs : List α} (on : goesOn x = true) (reached : Reached goesOn xs y) : Reached goesOn (x :: xs) y

variable {does : α → List R} {goesOn : α → Bool} {xs : List α} {x : α}

theorem mem_inTurn {r : R} : r ∈ inTurn does goesOn xs ↔ ∃ x, Reached goesOn xs x ∧ r ∈ does x := by
  constructor
  · intro member
    induction xs with
    | nil => cases member
    | cons x xs ih =>
        rcases List.mem_append.mp member with here | later
        · exact ⟨x, .here, here⟩
        · split_ifs at later with on
          · obtain ⟨y, reached, done⟩ := ih later
            exact ⟨y, .later on reached, done⟩
          · cases later
  · intro ⟨y, reached, done⟩
    induction reached with
    | here => exact List.mem_append_left _ done
    | later on _ ih =>
        apply List.mem_append_right
        rw [if_pos on]
        exact ih done

theorem Reached.mem (reached : Reached goesOn xs x) : x ∈ xs := by
  induction reached with
  | here => exact List.mem_cons_self
  | later _ _ ih => exact List.mem_cons_of_mem _ ih

/-- A sequence that comes to a step that throws throws what it does. -/
theorem mapM_of_reached {run : α → Except ε β} {e : ε} (on : ∀ x ∈ xs, goesOn x = true → ∃ b, run x = .ok b)
    (reached : Reached goesOn xs x) (thrown : run x = .error e) : xs.mapM run = .error e := by
  induction reached with
  | here =>
      rw [List.mapM_cons, thrown]
      rfl
  | @later first last rest goes _ ih =>
      obtain ⟨b, ran⟩ := on first List.mem_cons_self goes
      rw [List.mapM_cons, ran]
      have later := ih (fun y member => on y (List.mem_cons_of_mem _ member)) thrown
      change (rest.mapM run >>= fun bs => pure (b :: bs)) = .error e
      rw [later]
      rfl

/-- A sequence that throws has come to a step that throws the same. -/
theorem reached_of_mapM {run : α → Except ε β} {e : ε} (on : ∀ x ∈ xs, ∀ b, run x = .ok b → goesOn x = true)
    (thrown : xs.mapM run = .error e) : ∃ x, Reached goesOn xs x ∧ run x = .error e := by
  induction xs with
  | nil => cases thrown
  | cons x xs ih =>
      cases ran : run x with
      | error other =>
          rw [List.mapM_cons, ran] at thrown
          cases thrown
          exact ⟨x, .here, ran⟩
      | ok b =>
          rw [List.mapM_cons, ran] at thrown
          have later : xs.mapM run = .error e := by
            change (xs.mapM run >>= fun bs => pure (b :: bs)) = .error e at thrown
            exact Fallible.error_of_bind (fun bs => ⟨b :: bs, rfl⟩) thrown
          obtain ⟨y, reached, failed⟩ := ih (fun y member => on y (List.mem_cons_of_mem _ member)) later
          exact ⟨y, .later (on x List.mem_cons_self b ran) reached, failed⟩

end DuckGlue
