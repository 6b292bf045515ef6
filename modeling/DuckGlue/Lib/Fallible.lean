import Mathlib.Data.List.Forall2

/-! # Fallible computations

How a sequence of `Except` steps ends, read off how its steps end.
-/

namespace DuckGlue.Fallible

variable {ε α β : Type} {x : Except ε α} {f : α → Except ε β} {e : ε}

@[simp] theorem bind_eq_ok {b : β} : x >>= f = .ok b ↔ ∃ a, x = .ok a ∧ f a = .ok b := by
  cases x <;> simp [bind, Except.bind]

@[simp] theorem bind_eq_error :
    x >>= f = .error e ↔ x = .error e ∨ ∃ a, x = .ok a ∧ f a = .error e := by
  cases x <;> simp [bind, Except.bind]

/-- Where only the first step can fail it has. -/
theorem error_of_bind (passes : ∀ a, ∃ b, f a = .ok b) (thrown : x >>= f = .error e) : x = .error e := by
  cases bind_eq_error.mp thrown with
  | inl first => exact first
  | inr later =>
      obtain ⟨a, _, failed⟩ := later
      obtain ⟨b, passed⟩ := passes a
      rw [passed] at failed
      cases failed

/-- What fails alike passes alike. -/
theorem passes_iff_of_fails_iff {y : Except ε β} (fails : ∀ e, x = .error e ↔ y = .error e) :
    (∃ a, x = .ok a) ↔ ∃ b, y = .ok b := by
  cases x with
  | error e =>
      rw [(fails e).mp rfl]
      exact iff_of_false nofun nofun
  | ok a =>
      cases y with
      | error e => cases (fails e).mpr rfl
      | ok b => exact iff_of_true ⟨a, rfl⟩ ⟨b, rfl⟩

@[simp] theorem pure_eq_ok {a b : α} : (pure a : Except ε α) = .ok b ↔ a = b := by
  simp [pure, Except.pure]

@[simp] theorem pure_ne_error {a : α} : (pure a : Except ε α) ≠ .error e := by
  simp [pure, Except.pure]

@[simp] theorem exists_unit_ok {x : Except ε Unit} {p : Unit → Prop} :
    (∃ u, x = .ok u ∧ p u) ↔ x = .ok () ∧ p () :=
  ⟨fun ⟨(), h⟩ => h, fun h => ⟨(), h⟩⟩

/-- A guard that throws is passed. -/
theorem guard_eq_ok {guarded : Prop} [Decidable guarded] {stop : Except ε α} {rest : Except ε β} {b : β}
    (throws : stop = .error e) : (if guarded then stop >>= f else rest) = .ok b ↔ ¬ guarded ∧ rest = .ok b := by
  subst throws
  by_cases h : guarded <;> simp [h, bind, Except.bind]

theorem stop_eq_ok {guarded : Prop} [Decidable guarded] {stop rest : Except ε β} {b : β}
    (throws : stop = .error e) : (if guarded then stop else rest) = .ok b ↔ ¬ guarded ∧ rest = .ok b := by
  subst throws
  by_cases h : guarded <;> simp [h]

@[simp] theorem throw_ne_ok {a : α} : (throw e : Except ε α) ≠ .ok a := by
  simp [throw, throwThe, MonadExceptOf.throw]

/-- The same where the guard throws on the spot. -/
theorem guard_throw_eq_ok {guarded : Prop} [Decidable guarded] {rest : Except ε β} {b : β} :
    (if guarded then (throw e : Except ε α) >>= f else rest) = .ok b ↔ ¬ guarded ∧ rest = .ok b :=
  guard_eq_ok rfl

theorem stop_throw_eq_ok {guarded : Prop} [Decidable guarded] {rest : Except ε β} {b : β} :
    (if guarded then (throw e : Except ε β) else rest) = .ok b ↔ ¬ guarded ∧ rest = .ok b :=
  stop_eq_ok rfl

@[simp] theorem map_eq_ok {h : α → β} {b : β} : h <$> x = .ok b ↔ ∃ a, x = .ok a ∧ h a = b := by
  cases x <;> simp [Functor.map, Except.map]

/-- A sequence runs through exactly when every element does. -/
theorem forM_eq_ok {xs : List α} {g : α → Except ε Unit} :
    xs.forM g = .ok () ↔ ∀ a ∈ xs, g a = .ok () := by
  induction xs with
  | nil => simp [List.forM, pure, Except.pure]
  | cons a xs ih =>
      have step : (a :: xs).forM g = (g a >>= fun _ => xs.forM g) := rfl
      simp only [step, bind_eq_ok, ih, exists_unit_ok, List.forall_mem_cons]

/-- A sequence stops at the error of one of its elements. -/
theorem forM_eq_error {xs : List α} {g : α → Except ε Unit} (h : xs.forM g = .error e) : ∃ a ∈ xs, g a = .error e := by
  induction xs with
  | nil => exact absurd h pure_ne_error
  | cons a xs ih =>
      have step : (a :: xs).forM g = (g a >>= fun _ => xs.forM g) := rfl
      rw [step, bind_eq_error] at h
      obtain first | ⟨_, -, later⟩ := h
      · exact ⟨a, List.mem_cons_self, first⟩
      · obtain ⟨b, member, thrown⟩ := ih later
        exact ⟨b, List.mem_cons_of_mem a member, thrown⟩

theorem mapM_eq_ok {xs : List α} {g : α → Except ε β} {ys : List β} :
    xs.mapM g = .ok ys ↔ List.Forall₂ (fun a b => g a = .ok b) xs ys := by
  induction xs generalizing ys with
  | nil =>
      rw [List.mapM_nil, pure_eq_ok, List.forall₂_nil_left_iff]
      exact eq_comm
  | cons a xs ih =>
      simp only [List.mapM_cons, bind_eq_ok, pure_eq_ok, List.forall₂_cons_left_iff, ih]
      constructor
      · rintro ⟨b, here, rest, later, rfl⟩
        exact ⟨b, rest, here, later, rfl⟩
      · rintro ⟨b, rest, here, later, rfl⟩
        exact ⟨b, here, rest, later, rfl⟩

/-- Each result is that of the element at its position. -/
theorem getElem?_mapM {xs : List α} {g : α → Except ε β} {ys : List β} (h : xs.mapM g = .ok ys) (position : Nat) :
    ys[position]?.map Except.ok = xs[position]?.map g := by
  induction mapM_eq_ok.mp h generalizing position with
  | nil => rfl
  | cons here rest ih =>
      cases position with
      | zero => simp [here]
      | succ position => simpa using ih (mapM_eq_ok.mpr rest) position

/-- An element has its result. -/
theorem mem_mapM {xs : List α} {g : α → Except ε β} {ys : List β} (h : xs.mapM g = .ok ys) {a : α} (member : a ∈ xs) :
    ∃ b ∈ ys, g a = .ok b := by
  induction mapM_eq_ok.mp h with
  | nil => cases member
  | cons here rest ih =>
      rcases List.mem_cons.mp member with rfl | later
      · exact ⟨_, List.mem_cons_self, here⟩
      · obtain ⟨b, inRest, found⟩ := ih (mapM_eq_ok.mpr rest) later
        exact ⟨b, List.mem_cons_of_mem _ inRest, found⟩

/-- A result is that of some element. -/
theorem mem_of_mapM {xs : List α} {g : α → Except ε β} {ys : List β} (h : xs.mapM g = .ok ys) {b : β} (member : b ∈ ys) :
    ∃ a ∈ xs, g a = .ok b := by
  obtain ⟨position, at_⟩ := List.mem_iff_getElem?.mp member
  have here := getElem?_mapM h position
  rw [at_] at here
  obtain ⟨a, there, same⟩ := Option.map_eq_some_iff.mp here.symm
  exact ⟨a, List.mem_of_getElem? there, same⟩

/-- The results beside what they are of. -/
def tabulate (g : α → Except ε β) (xs : List α) : Except ε (List (α × β)) :=
  xs.mapM fun a => return (a, ← g a)

section Tabulate

variable {xs : List α} {g : α → Except ε β} {pairs : List (α × β)}

theorem tabulate_cons {a : α} :
    tabulate g (a :: xs) = .ok pairs ↔ ∃ b rest, g a = .ok b ∧ tabulate g xs = .ok rest ∧ pairs = (a, b) :: rest := by
  simp only [tabulate, List.mapM_cons, bind_eq_ok, pure_eq_ok]
  constructor
  · rintro ⟨_, ⟨b, here, rfl⟩, rest, later, rfl⟩
    exact ⟨b, rest, here, later, rfl⟩
  · rintro ⟨b, rest, here, later, rfl⟩
    exact ⟨_, ⟨b, here, rfl⟩, rest, later, rfl⟩

theorem mem_tabulate (h : tabulate g xs = .ok pairs) {pair : α × β} :
    pair ∈ pairs ↔ pair.1 ∈ xs ∧ g pair.1 = .ok pair.2 := by
  induction xs generalizing pairs with
  | nil =>
      cases h
      simp
  | cons a xs ih =>
      obtain ⟨b, rest, here, later, rfl⟩ := tabulate_cons.mp h
      obtain ⟨a', b'⟩ := pair
      simp only [List.mem_cons, Prod.mk.injEq, ih later]
      grind

theorem exists_of_tabulate (h : tabulate g xs = .ok pairs) {a : α} (member : a ∈ xs) : ∃ b, g a = .ok b := by
  induction xs generalizing pairs with
  | nil => cases member
  | cons a' xs ih =>
      obtain ⟨b, rest, here, later, rfl⟩ := tabulate_cons.mp h
      cases member with
      | head => exact ⟨b, here⟩
      | tail _ member => exact ih later member

/-- The elements whose results pass a test. -/
theorem filter_tabulate (h : tabulate g xs = .ok pairs) (p : β → Bool) :
    (pairs.filter fun pair => p pair.2).map (·.1) = xs.filter fun a => (g a).toOption.any p := by
  induction xs generalizing pairs with
  | nil =>
      cases h
      rfl
  | cons a xs ih =>
      obtain ⟨b, rest, here, later, rfl⟩ := tabulate_cons.mp h
      have result : (g a).toOption.any p = p b := by rw [here]; rfl
      simp only [List.filter_cons, result, ← ih later]
      split <;> rfl

end Tabulate

/-- The results of a sequence put together. -/
def collect (f : α → Except ε (List β)) (xs : List α) : Except ε (List β) := (xs.mapM f).map List.flatten

/-- A sequence runs through where every element has a result. -/
theorem mapM_isOk {xs : List α} {g : α → Except ε β} :
    (xs.mapM g).isOk = true ↔ ∀ a ∈ xs, (g a).isOk = true := by
  induction xs with
  | nil => exact iff_of_true rfl nofun
  | cons a xs ih =>
      rw [List.mapM_cons, List.forall_mem_cons, ← ih]
      cases g a with
      | error failed => exact iff_of_false nofun fun both => nomatch both.1
      | ok b =>
          cases xs.mapM g with
          | error failed => exact iff_of_false nofun fun both => nomatch both.2
          | ok bs => exact iff_of_true rfl ⟨rfl, rfl⟩

/-- A second pass over the results is one pass over the elements. -/
theorem mapM_of_mapM_ok {ε' γ : Type} {xs : List α} {g : α → Except ε β} {ys : List β} {h : β → Except ε' γ}
    {both : α → Except ε' γ} (done : xs.mapM g = .ok ys) (agrees : ∀ a b, g a = .ok b → h b = both a) :
    ys.mapM h = xs.mapM both := by
  have results := mapM_eq_ok.mp done
  clear done
  induction results with
  | nil => rfl
  | cons here _ ih => rw [List.mapM_cons, List.mapM_cons, ih, agrees _ _ here]

theorem mapM_congr {xs : List α} {g h : α → Except ε β} (agrees : ∀ a ∈ xs, g a = h a) : xs.mapM g = xs.mapM h := by
  induction xs with
  | nil => rfl
  | cons a xs ih =>
      obtain ⟨here, later⟩ := List.forall_mem_cons.mp agrees
      rw [List.mapM_cons, List.mapM_cons, here, ih later]

/-- The result of an element, nothing where it fails. -/
def resultOf (g : α → Except ε (List β)) (a : α) : List β := (g a).toOption.getD []

theorem collect_isOk {xs : List α} {g : α → Except ε (List β)} :
    (collect g xs).isOk = true ↔ ∀ a ∈ xs, (g a).isOk = true := by
  rw [← mapM_isOk, collect]
  cases xs.mapM g with
  | error failed => exact iff_of_false nofun nofun
  | ok ys => exact iff_of_true rfl rfl

theorem collect_eq_ok {xs : List α} {g : α → Except ε (List β)} (runs : ∀ a ∈ xs, (g a).isOk = true) :
    collect g xs = .ok (xs.flatMap (resultOf g)) := by
  induction xs with
  | nil => rfl
  | cons a xs ih =>
      obtain ⟨here, later⟩ := List.forall_mem_cons.mp runs
      have rest := ih later
      unfold collect at rest ⊢
      rw [List.mapM_cons, List.flatMap_cons]
      cases first : g a with
      | error failed =>
          rw [first] at here
          cases here
      | ok b =>
          cases more : xs.mapM g with
          | error failed =>
              rw [more] at rest
              cases rest
          | ok bs =>
              rw [more] at rest
              have same : bs.flatten = xs.flatMap (resultOf g) := Except.ok.inj rest
              have own : resultOf g a = b := by rw [resultOf, first]; rfl
              rw [own, ← same]
              rfl

/-- Two results of which none is there are the same where errors do not differ. -/
theorem eq_of_not_isOk [Subsingleton ε] {x y : Except ε α} (left : ¬x.isOk = true) (right : ¬y.isOk = true) : x = y := by
  cases x with
  | ok _ => exact absurd rfl left
  | error failed =>
      cases y with
      | ok _ => exact absurd rfl right
      | error other => rw [Subsingleton.elim failed other]

/-- What is collected of every part is collected of the whole. -/
theorem collect_collect [Subsingleton ε] {γ : Type} {xs : List γ} {parts : γ → List α} {g : α → Except ε (List β)} :
    collect (fun x => collect g (parts x)) xs = collect g (xs.flatMap parts) := by
  by_cases runs : ∀ a ∈ xs.flatMap parts, (g a).isOk = true
  · have eachPart : ∀ x ∈ xs, ∀ a ∈ parts x, (g a).isOk = true := by
      intro x member a part
      exact runs a (List.mem_flatMap.mpr ⟨x, member, part⟩)
    have whole : ∀ x ∈ xs, (collect g (parts x)).isOk = true := by
      intro x member
      exact collect_isOk.mpr (eachPart x member)
    have own : ∀ x ∈ xs, resultOf (fun x => collect g (parts x)) x = (parts x).flatMap (resultOf g) := by
      intro x member
      dsimp only [resultOf]
      rw [collect_eq_ok (eachPart x member)]
      rfl
    rw [collect_eq_ok runs, collect_eq_ok whole, List.flatMap_assoc, List.flatMap_congr own]
  · have fails : ¬∀ x ∈ xs, (collect g (parts x)).isOk = true := by
      intro whole
      apply runs
      intro a member
      obtain ⟨x, inXs, part⟩ := List.mem_flatMap.mp member
      exact collect_isOk.mp (whole x inXs) a part
    rw [← collect_isOk] at runs fails
    exact eq_of_not_isOk fails runs

end DuckGlue.Fallible
