import DuckGlue.Catalog.CreatedTable
import DuckGlue.Catalog.TableVersions

/-! # Table properties

ALTER TABLE SET and RESET write the table parameters by their exact keys, and
`GetParameter` reads them in any case. A fetch gives the parameters in no particular
order, so a key is read as it was written where every spelling of it agrees.
-/

namespace DuckGlue

open StringUtil GlueSchemaEntry Fallible

/-- ALTER TABLE ... SET and RESET. The options of SET are a `case_insensitive_map_t`. -/
inductive PropertyStatement where
  | set (tableOptions : List (Text × Option OptionValue))
      (distinct : tableOptions.Pairwise fun a b => ciEquals a.1 b.1 = false)
  | reset (tableOptions : List Text)

namespace GlueSchemaEntry

/-- `AlterTableProperties`: the request it sends. -/
def alterTableProperties : PropertyStatement → Except Exception TableUpdate
  | .set tableOptions _ => setTableProperties tableOptions
  | .reset tableOptions => resetTableProperties tableOptions

/-- What `GetParameter` reads after a statement, against what it read before. -/
structure PropertiesAgree (table stored : GlueTableInfo) (set : List (Text × Text)) (unset : List Text) : Prop where
  assigned : ∀ entry ∈ set, ∀ key, ciEquals key entry.1 = true → stored.getParameter key = entry.2
  removed : ∀ other ∈ unset, ∀ key, ciEquals key other = true → stored.getParameter key = []
  others : ∀ key, (∀ entry ∈ set, ciEquals key entry.1 = false) → (∀ other ∈ unset, ciEquals key other = false) →
    stored.getParameter key = table.getParameter key

/-- The spellings of a key the statement leaves in the table agree: with the value set,
with none where the key was reset, with each other everywhere else. -/
structure SpellingsAgree (parameters : Parameters) (set : List (Text × Text)) (unset : List Text) : Prop where
  assigned : ∀ entry ∈ set, ∀ key value, parameters.lookup key = some value → ciEquals key entry.1 = true →
    key ≠ entry.1 → value = entry.2
  removed : ∀ other ∈ unset, ∀ key value, parameters.lookup key = some value → ciEquals key other = true →
    key ∉ unset → value = []
  others : ∀ key value key' value', parameters.lookup key = some value → parameters.lookup key' = some value' →
    ciEquals key key' = true → (∀ entry ∈ set, ciEquals key entry.1 = false) →
    (∀ other ∈ unset, ciEquals key other = false) → value = value'

section Orders

variable {parameters stored : Parameters} {key value : Text}

/-- The value that is read is that of some spelling. -/
theorem inAnyCase_eq_some (found : parameters.inAnyCase key = some value) :
    ∃ other, parameters.lookup other = some value ∧ ciEquals other key = true := by
  obtain ⟨entry, first, rfl⟩ := Option.map_eq_some_iff.mp found
  exact ⟨entry.1, AList.mem_lookup_iff.mpr (List.mem_of_find?_eq_some first),
    by simpa using List.find?_some first⟩

theorem inAnyCase_eq_none : parameters.inAnyCase key = none ↔
    ∀ other value, parameters.lookup other = some value → ciEquals other key = false := by
  unfold Parameters.inAnyCase
  rw [Option.map_eq_none_iff, List.find?_eq_none]
  constructor
  · intro none other value found
    exact Bool.eq_false_iff.mpr (none ⟨other, value⟩ (AList.mem_lookup_iff.mp found))
  · intro none entry member
    exact Bool.eq_false_iff.mp (none entry.1 entry.2 (AList.mem_lookup_iff.mpr member))

/-- Any entry can be the first one, so a value that is read in every order is that of
every spelling. -/
theorem spelling_of_reads {other given : Text}
    (every : ∀ stored : Parameters, stored.same parameters = true → (stored.inAnyCase key).getD [] = value)
    (found : parameters.lookup other = some given) (same : ciEquals other key = true) : given = value := by
  have member : (⟨other, given⟩ : Sigma fun _ : Text => Text) ∈ parameters.entries := AList.mem_lookup_iff.mp found
  have order := List.perm_cons_erase member
  have read := every
    ⟨⟨other, given⟩ :: parameters.entries.erase ⟨other, given⟩, (List.perm_nodupKeys order).mp parameters.nodupKeys⟩
    (decide_eq_true order.symm)
  unfold Parameters.inAnyCase at read
  rw [List.find?_cons, same] at read
  exact read

/-- A value all spellings have is read in every order. -/
theorem reads_of_spellings (order : stored.same parameters = true)
    (all : ∀ other given, parameters.lookup other = some given → ciEquals other key = true → given = value)
    (here : value = [] ∨ ∃ other, parameters.lookup other = some value ∧ ciEquals other key = true) :
    (stored.inAnyCase key).getD [] = value := by
  cases read : stored.inAnyCase key with
  | some given =>
      obtain ⟨other, found, same⟩ := inAnyCase_eq_some read
      rw [Parameters.lookup_same order] at found
      exact all other given found same
  | none =>
      rcases here with rfl | ⟨other, found, same⟩
      · rfl
      · rw [← Parameters.lookup_same order] at found
        have differs := inAnyCase_eq_none.mp read other value found
        rw [same] at differs
        cases differs

end Orders

section Requests

variable {table : GlueTableInfo} {set : List (Text × Text)} {unset : List Text} {key : Text}

theorem lookup_removeAll (parameters : Parameters) :
    (unset.foldl (fun parameters key => parameters.erase key) parameters).lookup key =
      if key ∈ unset then none else parameters.lookup key := by
  induction unset generalizing parameters with
  | nil => simp
  | cons other unset ih =>
      rw [List.foldl_cons, ih]
      by_cases same : key = other
      · subst same
        simp [AList.lookup_erase]
      · simp [same, AList.lookup_erase_ne same]

theorem lookup_assignAll_of_ne (parameters : Parameters) (others : ∀ entry ∈ set, key ≠ entry.1) :
    (set.foldl (fun parameters entry => parameters.insert entry.1 entry.2) parameters).lookup key =
      parameters.lookup key := by
  induction set generalizing parameters with
  | nil => rfl
  | cons entry set ih =>
      rw [List.foldl_cons, ih _ fun entry member => others entry (List.mem_cons_of_mem _ member)]
      exact AList.lookup_insert_ne (others entry List.mem_cons_self)

theorem lookup_assignAll (parameters : Parameters) (distinct : set.Pairwise fun a b => ciEquals a.1 b.1 = false)
    {entry : Text × Text} (member : entry ∈ set) :
    (set.foldl (fun parameters entry => parameters.insert entry.1 entry.2) parameters).lookup entry.1 =
      some entry.2 := by
  induction set generalizing parameters with
  | nil => cases member
  | cons first set ih =>
      obtain ⟨differs, distinct⟩ := List.pairwise_cons.mp distinct
      rw [List.foldl_cons]
      cases member with
      | head =>
          rw [lookup_assignAll_of_ne]
          · exact AList.lookup_insert _
          · intro other member same
            have apart := differs other member
            rw [same, ciEquals_refl] at apart
            cases apart
      | tail _ member => exact ih _ distinct member

/-- SET assigns each key once, in any case, and RESET assigns none. -/
theorem alterTableProperties_keys {statement : PropertyStatement}
    (accepted : alterTableProperties statement = .ok (.parameters set unset)) :
    (set = [] ∨ unset = []) ∧ set.Pairwise fun a b => ciEquals a.1 b.1 = false := by
  cases statement with
  | set tableOptions distinct =>
      simp only [alterTableProperties, setTableProperties, bind_eq_ok, pure_eq_ok, TableUpdate.parameters.injEq]
        at accepted
      obtain ⟨evaluated, values, entries, checked, rfl, rfl⟩ := accepted
      constructor
      · exact .inr rfl
      · rw [evaluateOptions_ok values] at distinct
        have names : entries.map (·.1) = evaluated.map (·.1) := by
          clear values distinct
          induction mapM_eq_ok.mp checked with
          | nil => rfl
          | cons here rest ih =>
              simp only [bind_eq_ok, pure_eq_ok, exists_unit_ok] at here
              rw [List.map_cons, List.map_cons, ih (mapM_eq_ok.mpr rest), ← here.2]
        have apart : (evaluated.map (·.1)).Pairwise fun a b => ciEquals a b = false :=
          List.pairwise_map.mpr (List.pairwise_map.mp distinct)
        rw [← names] at apart
        exact List.pairwise_map.mp apart
  | reset tableOptions =>
      simp only [alterTableProperties, resetTableProperties, bind_eq_ok, pure_eq_ok, exists_unit_ok,
        TableUpdate.parameters.injEq] at accepted
      obtain ⟨_, rfl, rfl⟩ := accepted
      exact ⟨.inl rfl, .nil⟩

theorem differs_comm {a b : Text} (differs : ciEquals a b = false) : ciEquals b a = false := by
  apply Bool.eq_false_iff.mpr
  intro same
  have turned := ciEquals_comm same
  rw [differs] at turned
  cases turned

theorem ne_of_differs {other : Text} (differs : ciEquals key other = false) : key ≠ other := by
  intro same
  rw [same, ciEquals_refl] at differs
  cases differs

/-- A key the request does not write keeps its value in the table. -/
theorem lookup_apply_of_ne (notSet : ∀ entry ∈ set, key ≠ entry.1) (notUnset : key ∉ unset) :
    ((TableUpdate.parameters set unset).apply table).parameters.lookup key = table.parameters.lookup key := by
  change (set.foldl _ (unset.foldl _ table.parameters)).lookup key = _
  rw [lookup_assignAll_of_ne _ notSet, lookup_removeAll, if_neg notUnset]

/-- So do its other spellings. -/
theorem lookup_apply_spelling {other : Text} (same : ciEquals other key = true)
    (notSet : ∀ entry ∈ set, ciEquals key entry.1 = false) (notUnset : ∀ other ∈ unset, ciEquals key other = false) :
    ((TableUpdate.parameters set unset).apply table).parameters.lookup other = table.parameters.lookup other := by
  apply lookup_apply_of_ne
  · intro entry member
    apply ne_of_differs
    rw [ciEquals_congr same]
    exact notSet entry member
  · intro member
    have differs := notUnset other member
    rw [← ciEquals_congr same, ciEquals_refl] at differs
    cases differs

/-- A spelling of a key that was set. -/
theorem lookup_apply_set (keys : set = [] ∨ unset = []) (distinct : set.Pairwise fun a b => ciEquals a.1 b.1 = false)
    {entry : Text × Text} (member : entry ∈ set) (same : ciEquals key entry.1 = true) :
    ((TableUpdate.parameters set unset).apply table).parameters.lookup key =
      if key = entry.1 then some entry.2 else table.parameters.lookup key := by
  have none : unset = [] := by
    rcases keys with empty | none
    · rw [empty] at member
      cases member
    · exact none
  split_ifs with spelled
  · rw [spelled]
    exact lookup_assignAll _ distinct member
  · apply lookup_apply_of_ne
    · intro other otherMember spelledOther
      have apart : other ≠ entry := by
        intro equal
        exact spelled (spelledOther.trans (by rw [equal]))
      have symmetric : Std.Symm fun a b : Text × Text => ciEquals a.1 b.1 = false := ⟨fun _ _ => differs_comm⟩
      have differs := distinct.forall otherMember member apart
      rw [← spelledOther, same] at differs
      cases differs
    · simp [none]

/-- A spelling of a key that was reset. -/
theorem lookup_apply_unset (keys : set = [] ∨ unset = []) {other : Text} (member : other ∈ unset) :
    ((TableUpdate.parameters set unset).apply table).parameters.lookup key =
      if key ∈ unset then none else table.parameters.lookup key := by
  have none : set = [] := by
    rcases keys with none | empty
    · exact none
    · rw [empty] at member
      cases member
  subst none
  exact lookup_removeAll _

end Requests

/-- What ALTER TABLE SET and RESET leave is read as written in every order the parameters
can have just when the spellings they leave of each key agree. -/
theorem alterTableProperties_agrees_iff {statement : PropertyStatement} {table : GlueTableInfo}
    {set : List (Text × Text)} {unset : List Text}
    (accepted : alterTableProperties statement = .ok (.parameters set unset)) :
    (∀ stored : GlueTableInfo,
        stored.parameters.same ((TableUpdate.parameters set unset).apply table).parameters = true →
          PropertiesAgree table stored set unset) ↔
      SpellingsAgree table.parameters set unset := by
  obtain ⟨keys, distinct⟩ := alterTableProperties_keys accepted
  constructor
  · intro agree
    constructor
    · intro entry member key value found same other
      apply spelling_of_reads _ _ (ciEquals_refl key)
      · exact ((TableUpdate.parameters set unset).apply table).parameters
      · intro stored order
        exact (agree { table with parameters := stored } order).assigned entry member key same
      · rw [lookup_apply_set keys distinct member same, if_neg other]
        exact found
    · intro other member key value found same kept
      apply spelling_of_reads _ _ (ciEquals_refl key)
      · exact ((TableUpdate.parameters set unset).apply table).parameters
      · intro stored order
        exact (agree { table with parameters := stored } order).removed other member key same
      · rw [lookup_apply_unset keys member, if_neg kept]
        exact found
    · intro key value key' value' found found' same notSet notUnset
      have reads : ∀ stored : Parameters,
          stored.same ((TableUpdate.parameters set unset).apply table).parameters = true →
            (stored.inAnyCase key).getD [] = table.getParameter key := by
        intro stored order
        exact (agree { table with parameters := stored } order).others key notSet notUnset
      have left : ((TableUpdate.parameters set unset).apply table).parameters.lookup key = some value := by
        rw [lookup_apply_spelling (ciEquals_refl key) notSet notUnset, found]
      have left' : ((TableUpdate.parameters set unset).apply table).parameters.lookup key' = some value' := by
        rw [lookup_apply_spelling (ciEquals_comm same) notSet notUnset, found']
      exact (spelling_of_reads reads left (ciEquals_refl key)).trans (spelling_of_reads reads left' (ciEquals_comm same)).symm
  · intro agree stored order
    constructor
    · intro entry member key same
      apply reads_of_spellings order
      · intro other given found folded
        have spelled : ciEquals other entry.1 = true := (ciEquals_congr folded).trans same
        rw [lookup_apply_set keys distinct member spelled] at found
        split_ifs at found with written
        · cases found
          rfl
        · exact agree.assigned entry member other given found spelled written
      · right
        refine ⟨entry.1, ?_, ?_⟩
        · rw [lookup_apply_set keys distinct member (ciEquals_refl _), if_pos rfl]
        · rw [ciEquals_iff] at same ⊢
          exact same.symm
    · intro other member key same
      apply reads_of_spellings order
      · intro spelling given found folded
        rw [lookup_apply_unset keys member] at found
        split_ifs at found with removed
        exact agree.removed other member spelling given found ((ciEquals_congr folded).trans same) removed
      · exact .inl rfl
    · intro key notSet notUnset
      have left : ∀ other, ciEquals other key = true →
          ((TableUpdate.parameters set unset).apply table).parameters.lookup other = table.parameters.lookup other :=
        fun other same => lookup_apply_spelling same notSet notUnset
      rw [getParameter_eq, getParameter_eq]
      apply reads_of_spellings order
      · intro other given found folded
        rw [left other folded] at found
        cases read : table.parameters.inAnyCase key with
        | some value =>
            obtain ⟨first, foundFirst, foldedFirst⟩ := inAnyCase_eq_some read
            have spelled : ciEquals other first = true :=
              (ciEquals_congr folded).trans (ciEquals_comm foldedFirst)
            apply agree.others other given first value found foundFirst spelled
            · exact fun entry member => (ciEquals_congr folded).trans (notSet entry member)
            · exact fun unsetKey member => (ciEquals_congr folded).trans (notUnset unsetKey member)
        | none =>
            have differs := inAnyCase_eq_none.mp read other given found
            rw [folded] at differs
            cases differs
      · cases read : table.parameters.inAnyCase key with
        | some value =>
            obtain ⟨first, foundFirst, foldedFirst⟩ := inAnyCase_eq_some read
            right
            exact ⟨first, by rw [left first foldedFirst, foundFirst]; rfl, foldedFirst⟩
        | none => exact .inl rfl

/-- Properties without other spellings are read as written. -/
theorem alterTableProperties_agrees_single :
    let table : GlueTableInfo := { parameters := AList.insert "owner".toList "analytics".toList ∅ }
    let finance : OptionValue := { scalar := ColumnSet.textOption "finance" }
    let statement : PropertyStatement := .set [("owner".toList, some finance)] (List.pairwise_singleton _ _)
    alterTableProperties statement = .ok (.parameters [("owner".toList, "finance".toList)] []) ∧
      ((∀ stored : GlueTableInfo,
          stored.parameters.same
              ((TableUpdate.parameters [("owner".toList, "finance".toList)] []).apply table).parameters = true →
            PropertiesAgree table stored [("owner".toList, "finance".toList)] []) ↔
        SpellingsAgree table.parameters [("owner".toList, "finance".toList)] []) := by
  intro table finance statement
  have accepted : alterTableProperties statement = .ok (.parameters [("owner".toList, "finance".toList)] []) := by rfl
  exact ⟨accepted, alterTableProperties_agrees_iff accepted⟩

/-- SET (Owner = 'finance') adds a second spelling of a key that is stored as `owner`. -/
theorem setTableProperties_otherSpelling :
    let table : GlueTableInfo := { parameters := AList.insert "owner".toList "analytics".toList ∅ }
    let finance : OptionValue := { scalar := ColumnSet.textOption "finance" }
    let statement : PropertyStatement := .set [("Owner".toList, some finance)] (List.pairwise_singleton _ _)
    let stored : GlueTableInfo :=
      { parameters := AList.insert "owner".toList "analytics".toList (AList.insert "Owner".toList "finance".toList ∅) }
    alterTableProperties statement = .ok (.parameters [("Owner".toList, "finance".toList)] []) ∧
      stored.parameters.same
          ((TableUpdate.parameters [("Owner".toList, "finance".toList)] []).apply table).parameters = true ∧
        stored.getParameter "Owner" = "analytics".toList ∧
        ¬ PropertiesAgree table stored [("Owner".toList, "finance".toList)] [] := by
  intro table finance statement stored
  have read : stored.getParameter "Owner" = "analytics".toList := by rfl
  refine ⟨by rfl, by decide, read, ?_⟩
  intro agree
  have written := agree.assigned _ List.mem_cons_self "Owner" (ciEquals_refl _)
  rw [read] at written
  revert written
  decide

end GlueSchemaEntry

end DuckGlue
