import Mathlib.Data.List.TakeDrop

/-! # Delimited text

Rows of fields written as lines: the fields of a row between separators, a line break
after every row. A reader goes through the text once. An escape character makes the
next character part of the field, a line break ends the row, and a row of one empty
field is no row. What is written is read back row by row as long as every field is one
field to the reader and no row is a blank line.
-/

namespace DuckGlue.DelimitedText

variable {α : Type} [DecidableEq α]

/-- The characters a text is split at. -/
structure Dialect (α : Type) where
  separator : α
  escape : Option α
  isBreak : α → Bool
  separator_stays : isBreak separator = false
  separator_ne_escape : escape ≠ some separator

variable (dialect : Dialect α)

namespace Dialect

/-- The character makes the next one part of the field. A line break never does. -/
def opens (c : α) : Bool := dialect.escape = some c && !dialect.isBreak c

/-- The text is one field to a reader: nothing in it ends a field or a row, and no
escape at its end takes the character after it. -/
inductive IsField : List α → Prop where
  | nil : IsField []
  | escape {c taken : α} {text : List α} (opens : dialect.opens c = true) (rest : IsField text) :
      IsField (c :: taken :: text)
  | plain {c : α} {text : List α} (stays : dialect.isBreak c = false) (plain : dialect.opens c = false)
      (differs : c ≠ dialect.separator) (rest : IsField text) : IsField (c :: text)

/-- The row the reader has come to the end of: none on a blank line. -/
def endRow (fields : List (List α)) (field : List α) : List (List (List α)) :=
  if fields = [] ∧ field = [] then [] else [fields ++ [field]]

/-- The raw fields of each row. `fields` and `field` are read already, and `pending` is
an escape that has not taken its character. -/
def scan : List α → List (List α) → List α → List α → List (List (List α))
  | [], fields, field, _ => endRow fields field
  | c :: text, fields, field, pending =>
      if pending ≠ [] then scan text fields (field ++ pending ++ [c]) []
      else if dialect.isBreak c then endRow fields field ++ scan text [] [] []
      else if dialect.opens c then scan text fields field [c]
      else if c = dialect.separator then scan text (fields ++ [field]) [] []
      else scan text fields (field ++ [c]) []

/-- A raw field without its escapes; `taken` says that the next character is the one an
escape takes. -/
def unescapeFrom : Bool → List α → List α
  | _, [] => []
  | true, c :: text => c :: unescapeFrom false text
  | false, c :: text => if dialect.opens c then unescapeFrom true text else c :: unescapeFrom false text

def unescape (text : List α) : List α := dialect.unescapeFrom false text

/-- The text with the escape before every character that needs it. -/
def escaped (text : List α) : List α :=
  match dialect.escape with
  | none => text
  | some escape => text.flatMap fun c => if c = escape ∨ c = dialect.separator then [escape, c] else [c]

end Dialect

open Dialect

variable {dialect} {c : α} {raw text field : List α} {fields : List (List α)}

theorem scan_pending {pending : List α} (some : pending ≠ []) :
    dialect.scan (c :: text) fields field pending = dialect.scan text fields (field ++ pending ++ [c]) [] := by
  rw [scan, if_pos some]

theorem scan_break (breaks : dialect.isBreak c = true) :
    dialect.scan (c :: text) fields field [] = endRow fields field ++ dialect.scan text [] [] [] := by
  rw [scan, if_neg (by simp), if_pos breaks]

theorem not_isBreak_of_opens (opens : dialect.opens c = true) : dialect.isBreak c = false := by
  simp only [Dialect.opens, Bool.and_eq_true, Bool.not_eq_true'] at opens
  exact opens.2

theorem scan_escape (opens : dialect.opens c = true) :
    dialect.scan (c :: text) fields field [] = dialect.scan text fields field [c] := by
  rw [scan, if_neg (by simp), if_neg (by simp [not_isBreak_of_opens opens]), if_pos opens]

theorem opens_separator : dialect.opens dialect.separator = false := by
  simp [opens, dialect.separator_ne_escape]

theorem scan_separator :
    dialect.scan (dialect.separator :: text) fields field [] = dialect.scan text (fields ++ [field]) [] [] := by
  rw [scan, if_neg (by simp), if_neg (by simp [dialect.separator_stays]), if_neg (by simp [opens_separator]), if_pos rfl]

theorem scan_plain (stays : dialect.isBreak c = false) (plain : dialect.opens c = false)
    (differs : c ≠ dialect.separator) :
    dialect.scan (c :: text) fields field [] = dialect.scan text fields (field ++ [c]) [] := by
  rw [scan, if_neg (by simp), if_neg (by simp [stays]), if_neg (by simp [plain]), if_neg differs]

theorem unescape_escape {taken : α} (opens : dialect.opens c = true) :
    dialect.unescape (c :: taken :: text) = taken :: dialect.unescape text := by
  simp [unescape, unescapeFrom, opens]

theorem unescape_plain (plain : dialect.opens c = false) :
    dialect.unescape (c :: text) = c :: dialect.unescape text := by
  simp [unescape, unescapeFrom, plain]

theorem Dialect.IsField.append (h : dialect.IsField raw) (more : dialect.IsField text) : dialect.IsField (raw ++ text) := by
  induction h with
  | nil => exact more
  | escape opens _ ih => exact .escape opens ih
  | plain stays plain differs _ ih => exact .plain stays plain differs ih

theorem isField_escape_iff (opens : dialect.opens c = true) :
    dialect.IsField (c :: text) ↔ ∃ taken rest, text = taken :: rest ∧ dialect.IsField rest := by
  constructor
  · intro h
    cases h with
    | escape _ rest => exact ⟨_, _, rfl, rest⟩
    | plain _ plain => simp [opens] at plain
  · rintro ⟨taken, rest, rfl, h⟩
    exact .escape opens h

theorem isField_plain_iff (plain : dialect.opens c = false) :
    dialect.IsField (c :: text) ↔ dialect.isBreak c = false ∧ c ≠ dialect.separator ∧ dialect.IsField text := by
  constructor
  · intro h
    cases h with
    | escape opens => simp [plain] at opens
    | plain stays _ differs rest => exact ⟨stays, differs, rest⟩
  · rintro ⟨stays, differs, rest⟩
    exact .plain stays plain differs rest

/-- A reader takes a field whole. -/
theorem scan_field (h : dialect.IsField raw) (text : List α) (fields : List (List α)) (field : List α) :
    dialect.scan (raw ++ text) fields field [] = dialect.scan text fields (field ++ raw) [] := by
  induction h generalizing field with
  | nil => simp
  | escape opens _ ih =>
      rw [List.cons_append, scan_escape opens, List.cons_append, scan_pending (by simp), ih]
      simp
  | plain stays plain differs _ ih =>
      rw [List.cons_append, scan_plain stays plain differs, ih]
      simp

/-- The line a row is written as. -/
def line (dialect : Dialect α) (row : List (List α)) : List α := [dialect.separator].intercalate row

omit [DecidableEq α] in
theorem line_cons (first second : List α) (row : List (List α)) :
    line dialect (first :: second :: row) = first ++ dialect.separator :: line dialect (second :: row) := by
  simp [line, List.intercalate, List.intersperse_cons_cons]

theorem scan_fields {row : List (List α)} (some : row ≠ []) (isFields : ∀ raw ∈ row, dialect.IsField raw)
    (text : List α) : dialect.scan (line dialect row ++ text) fields [] [] =
      dialect.scan text (fields ++ row.dropLast) (row.getLast some) [] := by
  induction row generalizing fields with
  | nil => exact absurd rfl some
  | cons first row ih =>
      obtain ⟨here, later⟩ := List.forall_mem_cons.mp isFields
      cases row with
      | nil =>
          have only : line dialect [first] = first := by simp [line, List.intercalate]
          rw [only, scan_field here]
          simp
      | cons second row =>
          rw [line_cons, List.append_assoc, scan_field here, List.cons_append, scan_separator, ih (by simp) later]
          simp

/-- A reader takes the first fields of a row, whatever the ones after them are. -/
theorem scan_front {front back : List (List α)} (some : back ≠ []) (isFields : ∀ raw ∈ front, dialect.IsField raw)
    (text : List α) : dialect.scan (line dialect (front ++ back) ++ text) fields [] [] =
      dialect.scan (line dialect back ++ text) (fields ++ front) [] [] := by
  induction front generalizing fields with
  | nil => simp
  | cons first front ih =>
      obtain ⟨here, later⟩ := List.forall_mem_cons.mp isFields
      obtain ⟨second, rest, shape⟩ := List.exists_cons_of_ne_nil (List.append_ne_nil_of_right_ne_nil front some)
      rw [List.cons_append, shape, line_cons, ← shape, List.append_assoc, scan_field here, List.cons_append,
        scan_separator, ih later]
      simp

/-- A row of fields that is no blank line is read as it was written. -/
theorem scan_line {row : List (List α)} (some : row ≠ []) (isFields : ∀ raw ∈ row, dialect.IsField raw)
    (visible : row ≠ [[]]) (breaks : dialect.isBreak c = true) (text : List α) :
    dialect.scan (line dialect row ++ c :: text) [] [] [] = row :: dialect.scan text [] [] [] := by
  have whole : row.dropLast ++ [row.getLast some] = row := List.dropLast_concat_getLast some
  rw [scan_fields some isFields, scan_break breaks, List.nil_append, endRow, if_neg, whole]
  · rfl
  · rintro ⟨front, last⟩
    rw [front, last] at whole
    exact visible whole.symm

/-- The text of rows, each ended by the line break `c`. -/
def written (dialect : Dialect α) (c : α) (rows : List (List (List α))) : List α :=
  rows.flatMap fun row => line dialect row ++ [c]

omit [DecidableEq α] in
theorem written_cons (row : List (List α)) (rows : List (List (List α))) :
    written dialect c (row :: rows) = line dialect row ++ c :: written dialect c rows := by
  simp [written]

/-- Rows of fields, none of them a blank line, are read as they were written. -/
theorem scan_written {rows : List (List (List α))} (breaks : dialect.isBreak c = true)
    (isRow : ∀ row ∈ rows, row ≠ [] ∧ (∀ raw ∈ row, dialect.IsField raw) ∧ row ≠ [[]]) (text : List α) :
    dialect.scan (written dialect c rows ++ text) [] [] [] = rows ++ dialect.scan text [] [] [] := by
  induction rows with
  | nil => rfl
  | cons row rows ih =>
      obtain ⟨⟨some, isFields, visible⟩, later⟩ := List.forall_mem_cons.mp isRow
      rw [written_cons, List.append_assoc, List.cons_append, scan_line some isFields visible breaks, ih later]
      rfl

/-- Every raw field a reader gives is a field. -/
theorem isField_of_scan {pending : List α} {row : List (List α)} (fieldsAre : ∀ raw ∈ fields, dialect.IsField raw)
    (fieldIs : dialect.IsField field) (pendingIs : pending = [] ∨ ∃ c, pending = [c] ∧ dialect.opens c = true)
    (member : row ∈ dialect.scan text fields field pending) : ∀ raw ∈ row, dialect.IsField raw := by
  have ended : ∀ fields field, (∀ raw ∈ fields, dialect.IsField raw) → dialect.IsField field →
      ∀ row ∈ endRow fields field, ∀ raw ∈ row, dialect.IsField raw := by
    intro fields field fieldsAre fieldIs row member
    unfold endRow at member
    split_ifs at member
    · cases member
    · obtain rfl := List.mem_singleton.mp member
      exact List.forall_mem_append.mpr ⟨fieldsAre, by simpa using fieldIs⟩
  induction text generalizing fields field pending with
  | nil => exact ended fields field fieldsAre fieldIs row member
  | cons c text ih =>
      unfold scan at member
      split_ifs at member with open_ breaks opens separates
      · obtain rfl | ⟨escape, rfl, opens⟩ := pendingIs
        · exact absurd rfl open_
        · refine ih fieldsAre ?_ (.inl rfl) member
          rw [List.append_assoc]
          exact fieldIs.append (.escape opens .nil)
      · cases List.mem_append.mp member with
        | inl here => exact ended fields field fieldsAre fieldIs row here
        | inr later => exact ih (by simp) .nil (.inl rfl) later
      · exact ih fieldsAre fieldIs (.inr ⟨c, rfl, opens⟩) member
      · exact ih (List.forall_mem_append.mpr ⟨fieldsAre, by simpa using fieldIs⟩) .nil (.inl rfl) member
      · exact ih fieldsAre (fieldIs.append (.plain (by simpa using breaks) (by simpa using opens) separates .nil))
          (.inl rfl) member

/-- The fields read before stay the first ones of the row being read. -/
theorem scan_head {pending : List α} (some : fields ≠ []) : ∃ raw more rows,
    dialect.scan text fields field pending = (fields ++ raw :: more) :: rows := by
  induction text generalizing fields field pending with
  | nil => exact ⟨field, [], [], by simp [scan, endRow, some]⟩
  | cons c text ih =>
      unfold scan
      split_ifs with open_ breaks opens separates
      · exact ih some
      · exact ⟨field, [], dialect.scan text [] [] [], by simp [endRow, some]⟩
      · exact ih some
      · obtain ⟨raw, more, rows, rest⟩ := @ih [] (fields ++ [field]) [] (by simp)
        exact ⟨field, raw :: more, rows, by rw [rest]; simp⟩
      · exact ih some

section OneColumn

/-- A line without a separator of its own is read as rows of one field. -/
theorem scan_separatorless {pending : List α} (breaks : dialect.isBreak c = true) (plain : dialect.separator ∉ raw) :
    ∃ rows field', (∀ row ∈ rows, ∃ raw, raw ≠ [] ∧ row = [raw]) ∧ ∀ text,
      dialect.scan (raw ++ c :: text) [] field pending = rows ++ dialect.scan text [] field' [] := by
  have ended : ∀ field : List α, ∀ row ∈ endRow [] field, ∃ raw, raw ≠ [] ∧ row = [raw] := by
    intro field row member
    unfold endRow at member
    split_ifs at member with blank
    · cases member
    · obtain rfl := List.mem_singleton.mp member
      exact ⟨field, fun empty => blank ⟨rfl, empty⟩, rfl⟩
  induction raw generalizing field pending with
  | nil =>
      cases pending with
      | nil => exact ⟨endRow [] field, [], ended field, fun text => scan_break breaks⟩
      | cons escape more => exact ⟨[], _, by simp, fun text => scan_pending (by simp)⟩
  | cons first raw ih =>
      rw [List.mem_cons, not_or] at plain
      by_cases open_ : pending = []
      · subst open_
        cases breaks' : dialect.isBreak first with
        | true =>
            obtain ⟨rows, field', single, rest⟩ := @ih [] [] plain.2
            refine ⟨endRow [] field ++ rows, field', ?_, fun text => ?_⟩
            · exact List.forall_mem_append.mpr ⟨ended field, single⟩
            · rw [List.cons_append, scan_break breaks', rest, List.append_assoc]
        | false =>
            cases opens : dialect.opens first with
            | true =>
                obtain ⟨rows, field', single, rest⟩ := @ih field [first] plain.2
                exact ⟨rows, field', single, fun text => by rw [List.cons_append, scan_escape opens, rest]⟩
            | false =>
                obtain ⟨rows, field', single, rest⟩ := @ih (field ++ [first]) [] plain.2
                exact ⟨rows, field', single, fun text => by
                  rw [List.cons_append, scan_plain breaks' opens (Ne.symm plain.1), rest]⟩
      · obtain ⟨rows, field', single, rest⟩ := @ih (field ++ pending ++ [first]) [] plain.2
        exact ⟨rows, field', single, fun text => by rw [List.cons_append, scan_pending open_, rest]⟩

/-- Rows of one column are read as rows of one field that is not empty. -/
theorem scan_oneColumn {raws : List (List α)} (breaks : dialect.isBreak c = true)
    (single : ∀ raw ∈ raws, dialect.IsField raw ∨ dialect.separator ∉ raw) {row : List (List α)}
    (member : row ∈ dialect.scan (written dialect c (raws.map ([·]))) [] field []) : ∃ raw, raw ≠ [] ∧ row = [raw] := by
  induction raws generalizing field with
  | nil =>
      rw [List.map_nil, written, List.flatMap_nil, scan, endRow] at member
      split_ifs at member with blank
      · cases member
      · obtain rfl := List.mem_singleton.mp member
        exact ⟨field, fun empty => blank ⟨rfl, empty⟩, rfl⟩
  | cons raw raws ih =>
      obtain ⟨here, later⟩ := List.forall_mem_cons.mp single
      have only : line dialect [raw] = raw := by simp [line, List.intercalate]
      rw [List.map_cons, written_cons, only] at member
      cases here with
      | inl isField =>
          rw [scan_field isField, scan_break breaks, List.mem_append, endRow] at member
          cases member with
          | inl first =>
              split_ifs at first with blank
              · cases first
              · obtain rfl := List.mem_singleton.mp first
                exact ⟨field ++ raw, fun empty => blank ⟨rfl, empty⟩, rfl⟩
          | inr rest => exact ih later rest
      | inr plain =>
          obtain ⟨rows, field', single, rest⟩ := @scan_separatorless α _ dialect c raw field [] breaks plain
          rw [rest, List.mem_append] at member
          cases member with
          | inl first => exact single row first
          | inr after => exact ih later after

end OneColumn

section Escaped

/-- The escape of a character that needs one is no line break. -/
theorem opens_of_special {e : α} (escape : dialect.escape = some e) (stays : dialect.isBreak c = false)
    (special : c = e ∨ c = dialect.separator) (separated : c = dialect.separator → ∃ c, dialect.opens c = true) :
    dialect.opens e = true := by
  cases special with
  | inl same =>
      subst same
      simp [Dialect.opens, escape, stays]
  | inr same =>
      obtain ⟨other, opens⟩ := separated same
      have here : other = e := by
        simp only [Dialect.opens, escape, Bool.and_eq_true, decide_eq_true_eq, Option.some.injEq] at opens
        exact opens.1.symm
      exact here ▸ opens

/-- A text without line breaks is one field once escaped, unless its separators have no
escape that works. -/
theorem isField_escaped (noBreak : ∀ c ∈ text, dialect.isBreak c = false)
    (separated : dialect.separator ∈ text → ∃ c, dialect.opens c = true) : dialect.IsField (dialect.escaped text) := by
  unfold escaped
  cases escape : dialect.escape with
  | none =>
      have plain : ∀ c, dialect.opens c = false := by simp [opens, escape]
      have absent : dialect.separator ∉ text := by
        intro member
        obtain ⟨c, opens⟩ := separated member
        rw [plain c] at opens
        cases opens
      induction text with
      | nil => exact .nil
      | cons c text ih =>
          rw [List.mem_cons, not_or] at absent
          obtain ⟨stays, later⟩ := List.forall_mem_cons.mp noBreak
          exact .plain stays (plain c) (Ne.symm absent.1)
            (ih later (fun member => absurd member absent.2) absent.2)
  | some e =>
      induction text with
      | nil => exact .nil
      | cons c text ih =>
          obtain ⟨stays, later⟩ := List.forall_mem_cons.mp noBreak
          have rest := ih later fun member => separated (List.mem_cons_of_mem c member)
          dsimp only at rest ⊢
          rw [List.flatMap_cons]
          split_ifs with special
          · exact .escape (opens_of_special escape stays special (fun same => separated (same ▸ List.mem_cons_self))) rest
          · rw [not_or] at special
            have plain : dialect.opens c = false := by simp [Dialect.opens, escape, Ne.symm special.1]
            exact .plain stays plain special.2 rest

/-- The escaped text reads back. -/
theorem unescape_escaped (noBreak : ∀ c ∈ text, dialect.isBreak c = false)
    (separated : dialect.separator ∈ text → ∃ c, dialect.opens c = true) :
    dialect.unescape (dialect.escaped text) = text := by
  unfold escaped
  cases escape : dialect.escape with
  | none =>
      have plain : ∀ c, dialect.opens c = false := by simp [opens, escape]
      induction text with
      | nil => rfl
      | cons c text ih =>
          have rest := ih (List.forall_mem_cons.mp noBreak).2 fun member => separated (List.mem_cons_of_mem c member)
          dsimp only at rest ⊢
          rw [unescape_plain (plain c), rest]
  | some e =>
      induction text with
      | nil => rfl
      | cons c text ih =>
          obtain ⟨stays, later⟩ := List.forall_mem_cons.mp noBreak
          have rest := ih later fun member => separated (List.mem_cons_of_mem c member)
          dsimp only at rest ⊢
          rw [List.flatMap_cons]
          split_ifs with special
          · have opens := opens_of_special escape stays special fun same => separated (same ▸ List.mem_cons_self)
            exact (unescape_escape opens).trans (congrArg _ rest)
          · rw [not_or] at special
            have plain : dialect.opens c = false := by simp [Dialect.opens, escape, Ne.symm special.1]
            exact (unescape_plain plain).trans (congrArg _ rest)

/-- An escape is needed to have a separator in a field. -/
theorem separator_not_mem (h : dialect.IsField raw) (inert : ∀ c, dialect.opens c = false) :
    dialect.separator ∉ dialect.unescape raw := by
  induction h with
  | nil => exact List.not_mem_nil
  | escape opens _ ih => simp [inert] at opens
  | plain stays plain differs _ ih =>
      rw [unescape_plain plain, List.mem_cons, not_or]
      exact ⟨Ne.symm differs, ih⟩

theorem unescape_ne_nil (h : dialect.IsField raw) (some : raw ≠ []) : dialect.unescape raw ≠ [] := by
  cases h with
  | nil => exact absurd rfl some
  | escape opens _ => simp [unescape_escape opens]
  | plain stays plain differs _ => simp [unescape_plain plain]

end Escaped

section Nulls

variable (dialect) (null : List α) (columns : ℕ)

/-- The text of a value: `null` stands for a missing one. -/
def fieldText (value : Option (List α)) : List α :=
  match value with
  | none => null
  | some text => dialect.escaped text

/-- The value of a raw field. -/
def value (raw : List α) : Option (List α) := if raw = null then none else some (dialect.unescape raw)

/-- A row of so many columns: fields too many are left out, and missing ones are NULL. -/
def readRow (raws : List (List α)) : List (Option (List α)) :=
  (raws.map (value dialect null) ++ List.replicate columns none).take columns

def readText (text : List α) : List (List (Option (List α))) :=
  (dialect.scan text [] [] []).map (readRow dialect null columns)

/-- The text of rows of values, each ended by the line break `c`. -/
def writeText (c : α) (rows : List (List (Option (List α)))) : List α :=
  written dialect c (rows.map fun row => row.map (fieldText dialect null))

/-- What a row may hold: no text with a line break or that is the text of NULL, and
without an escape no separator. -/
def Writable (row : List (Option (List α))) : Prop :=
  ∀ text, some text ∈ row → (∀ c ∈ text, dialect.isBreak c = false) ∧ text ≠ null ∧
    (dialect.escape = none → dialect.separator ∉ text)

/-- What rows must satisfy to be read back. -/
structure Readable (rows : List (List (Option (List α)))) : Prop where
  /-- The text of NULL is one field to the reader. -/
  missing : ∀ row ∈ rows, none ∈ row → dialect.IsField null
  /-- The escape before a separator works. -/
  escaped : ∀ row ∈ rows, ∀ text, some text ∈ row → dialect.separator ∈ text → ∃ c, dialect.opens c = true
  /-- No text is written as NULL is. -/
  distinct : ∀ row ∈ rows, ∀ text, some text ∈ row → dialect.escaped text ≠ null
  /-- No row of one column is written as a blank line. -/
  visible : columns = 1 → ∀ row ∈ rows, row ≠ [some []] ∧ (null = [] → row ≠ [none])

variable {dialect null columns}

theorem readRow_cons (positive : 0 < columns) (raw : List α) (raws : List (List α)) :
    ∃ more, readRow dialect null columns (raw :: raws) = value dialect null raw :: more := by
  cases columns with
  | zero => omega
  | succ columns => exact ⟨_, rfl⟩

theorem readRow_of_length {raws : List (List α)} (length : raws.length = columns) :
    readRow dialect null columns raws = raws.map (value dialect null) := by
  have full : (raws.map (value dialect null)).length = columns := by rw [List.length_map, length]
  rw [readRow, ← full, List.take_left]

theorem value_ne_none {raw : List α} (differs : raw ≠ null) : value dialect null raw ≠ none := by
  simp [value, differs]

theorem value_fieldText {v : Option (List α)}
    (reads : ∀ text, v = some text → dialect.unescape (dialect.escaped text) = text) :
    value dialect null (fieldText dialect null v) = v ↔ ∀ text, v = some text → dialect.escaped text ≠ null := by
  cases v with
  | none => simp [value, fieldText]
  | some text =>
      have back := reads text rfl
      simp [value, fieldText, back]

theorem isField_of_rows {row : List (List α)} (member : row ∈ dialect.scan text [] [] []) :
    ∀ raw ∈ row, dialect.IsField raw :=
  isField_of_scan (by simp) .nil (.inl rfl) member

section Rows

variable {rows : List (List (Option (List α)))}

/-- Where no escape works no text with a separator is ever read. -/
theorem separator_not_read (inert : ∀ c, dialect.opens c = false) {row : List (Option (List α))}
    (member : row ∈ readText dialect null columns text) {read : List α} (here : some read ∈ row) :
    dialect.separator ∉ read := by
  obtain ⟨raws, inText, rfl⟩ := List.mem_map.mp member
  cases List.mem_append.mp (List.mem_of_mem_take here) with
  | inr padded => simp at padded
  | inl own =>
      obtain ⟨raw, inRow, same⟩ := List.mem_map.mp own
      unfold value at same
      split_ifs at same
      cases same
      exact separator_not_mem (isField_of_rows inText raw inRow) inert

theorem scan_ne_nil {row : List (List α)} {pending : List α} (member : row ∈ dialect.scan text fields field pending) :
    row ≠ [] := by
  have ended : ∀ fields field, ∀ row ∈ endRow (α := α) fields field, row ≠ [] := by
    intro fields field row member
    unfold endRow at member
    split_ifs at member
    · cases member
    · obtain rfl := List.mem_singleton.mp member
      simp
  induction text generalizing fields field pending with
  | nil => exact ended fields field row member
  | cons c text ih =>
      unfold scan at member
      split_ifs at member
      · exact ih member
      · cases List.mem_append.mp member with
        | inl here => exact ended fields field row here
        | inr later => exact ih later
      · exact ih member
      · exact ih member
      · exact ih member

/-- A NULL in the first column is only read where the text of NULL is a field. -/
theorem first_ne_none (notField : ¬ dialect.IsField null) (positive : 0 < columns)
    {row : List (Option (List α))} : none :: row ∉ readText dialect null columns text := by
  intro member
  obtain ⟨raws, inText, same⟩ := List.mem_map.mp member
  obtain ⟨raw, more, rfl⟩ := List.exists_cons_of_ne_nil (scan_ne_nil inText)
  obtain ⟨rest, shape⟩ := @readRow_cons α _ dialect null columns positive raw more
  rw [shape, List.cons.injEq] at same
  refine value_ne_none ?_ same.1
  rintro rfl
  exact notField (isField_of_rows inText _ List.mem_cons_self)

/-- The texts of a row are fields, that of NULL where there is one. -/
theorem fieldText_isField {row : List (Option (List α))} (writable : Writable dialect null row)
    (escaped : ∀ text, some text ∈ row → dialect.separator ∈ text → ∃ c, dialect.opens c = true)
    (missing : none ∈ row → dialect.IsField null) : ∀ raw ∈ row.map (fieldText dialect null), dialect.IsField raw := by
  intro raw member
  obtain ⟨v, here, rfl⟩ := List.mem_map.mp member
  cases v with
  | none => exact missing here
  | some text => exact isField_escaped (writable text here).1 (escaped text here)

theorem escaped_eq_nil : dialect.escaped text = [] ↔ text = [] := by
  unfold escaped
  cases dialect.escape with
  | none => rfl
  | some e =>
      cases text with
      | nil => simp
      | cons c text =>
          dsimp only
          rw [List.flatMap_cons]
          split_ifs <;> simp

/-- A row that is no blank line. -/
theorem visible_row {row : List (Option (List α))} (length : row.length = columns)
    (visible : columns = 1 → row ≠ [some []] ∧ (null = [] → row ≠ [none])) :
    row.map (fieldText dialect null) ≠ [[]] := by
  intro blank
  obtain ⟨v, rfl, empty⟩ := List.map_eq_singleton_iff.mp blank
  obtain ⟨shown, missing⟩ := visible length.symm
  cases v with
  | none => exact missing empty rfl
  | some text => exact shown (by rw [escaped_eq_nil.mp empty])

/-- A line with a NULL after other columns is not read as its row where the text of NULL
is no field. -/
theorem head_ne_row {front back : List (Option (List α))} (notField : ¬ dialect.IsField null) (some : front ≠ [])
    (isFields : ∀ raw ∈ front.map (fieldText dialect null), dialect.IsField raw)
    (length : front.length < columns) (rows : List (List (Option (List α)))) :
    readText dialect null columns (line dialect ((front ++ none :: back).map (fieldText dialect null)) ++ text) ≠
      (front ++ none :: back) :: rows := by
  intro same
  rw [readText, List.map_append, scan_front (by simp) isFields, List.nil_append] at same
  obtain ⟨raw, more, rest, shape⟩ := @scan_head α _ dialect
    (line dialect ((none :: back).map (fieldText dialect null)) ++ text) [] (front.map (fieldText dialect null)) []
    (by simpa using some)
  have isField := isField_of_scan isFields .nil (.inl rfl) (shape ▸ List.mem_cons_self) raw
    (List.mem_append_right _ List.mem_cons_self)
  rw [shape, List.map_cons, List.cons.injEq] at same
  have at_ := congrArg (·[front.length]?) same.1
  simp only [readRow, List.getElem?_take, length, if_true, List.map_append, List.map_map, List.append_assoc,
    List.map_cons, List.cons_append] at at_
  rw [List.getElem?_append_right (by simp), List.getElem?_append_right (by simp)] at at_
  simp only [List.length_map, Nat.sub_self, List.getElem?_cons_zero, Option.some.injEq] at at_
  refine value_ne_none ?_ at_
  rintro rfl
  exact notField isField

end Rows

theorem map_eq_self {β : Type} {f : β → β} {xs : List β} : xs.map f = xs ↔ ∀ x ∈ xs, f x = x := by
  simpa using @List.map_eq_map_iff _ _ f xs id

theorem exists_singletons {β : Type} {rows : List (List β)} (length : ∀ row ∈ rows, row.length = 1) :
    ∃ values : List β, rows = values.map ([·]) := by
  induction rows with
  | nil => exact ⟨[], rfl⟩
  | cons row rows ih =>
      obtain ⟨here, later⟩ := List.forall_mem_cons.mp length
      obtain ⟨v, rfl⟩ := List.length_eq_one_iff.mp here
      obtain ⟨values, rfl⟩ := ih later
      exact ⟨v :: values, rfl⟩

section ReadBack

variable {rows : List (List (Option (List α)))} (breaks : dialect.isBreak c = true) (positive : 0 < columns)
  (length : ∀ row ∈ rows, row.length = columns) (writable : ∀ row ∈ rows, Writable dialect null row)
  (escaped : ∀ row ∈ rows, ∀ text, some text ∈ row → dialect.separator ∈ text → ∃ c, dialect.opens c = true)
include breaks positive length writable escaped

/-- What is read of one column is never a blank line. -/
theorem visible_of_same (plain : dialect.separator ∉ null)
    (same : readText dialect null columns (writeText dialect null c rows) = rows) (one : columns = 1) :
    ∀ row ∈ rows, row ≠ [some []] ∧ (null = [] → row ≠ [none]) := by
  subst one
  obtain ⟨values, rfl⟩ := exists_singletons length
  have single : ∀ raw ∈ values.map (fieldText dialect null), dialect.IsField raw ∨ dialect.separator ∉ raw := by
    intro raw member
    obtain ⟨v, here, rfl⟩ := List.mem_map.mp member
    have inRows : [v] ∈ values.map ([·]) := List.mem_map_of_mem here
    cases v with
    | none => exact .inr plain
    | some text =>
        exact .inl (isField_escaped (writable _ inRows text List.mem_cons_self).1 (escaped _ inRows text List.mem_cons_self))
  intro row member
  rw [← same] at member
  obtain ⟨raws, inText, rfl⟩ := List.mem_map.mp member
  have shape : (values.map ([·])).map (fun row => row.map (fieldText dialect null)) =
      (values.map (fieldText dialect null)).map ([·]) := by
    simp [List.map_map]
  rw [writeText, shape] at inText
  have isField := isField_of_rows inText
  obtain ⟨raw, some, rfl⟩ := scan_oneColumn breaks single inText
  have only : readRow dialect null 1 [raw] = [value dialect null raw] := rfl
  constructor
  · intro empty
    rw [only, List.cons.injEq, value] at empty
    split_ifs at empty
    · cases empty.1
    · exact unescape_ne_nil (isField raw List.mem_cons_self) some (Option.some.inj empty.1)
  · intro nothing missing
    rw [only, List.cons.injEq] at missing
    exact value_ne_none (fun same => some (same.trans nothing)) missing.1

/-- Where the text of NULL is no field a NULL is never read back. -/
theorem none_not_mem_of_same (visible : columns = 1 → ∀ row ∈ rows, row ≠ [some []] ∧ (null = [] → row ≠ [none]))
    (notField : ¬ dialect.IsField null)
    (same : readText dialect null columns (writeText dialect null c rows) = rows) : ∀ row ∈ rows, none ∉ row := by
  induction rows with
  | nil => simp
  | cons row rows ih =>
      obtain ⟨here, later⟩ := List.forall_mem_cons.mp length
      obtain ⟨writableHere, writableLater⟩ := List.forall_mem_cons.mp writable
      obtain ⟨escapedHere, escapedLater⟩ := List.forall_mem_cons.mp escaped
      have front : writeText dialect null c (row :: rows) =
          line dialect (row.map (fieldText dialect null)) ++ c :: writeText dialect null c rows := by
        rw [writeText, List.map_cons, written_cons, writeText]
      have noNull : none ∉ row := by
        intro missing
        obtain ⟨before, after, rfl, absent⟩ := List.eq_append_cons_of_mem missing
        by_cases first : before = []
        · subst first
          exact first_ne_none notField positive (same ▸ List.mem_cons_self)
        · rw [front] at same
          refine head_ne_row notField first ?_ ?_ _ same
          · exact fieldText_isField (fun text member => writableHere text (List.mem_append_left _ member))
              (fun text member => escapedHere text (List.mem_append_left _ member)) (fun member => absurd member absent)
          · rw [← here, List.length_append, List.length_cons]
            omega
      refine List.forall_mem_cons.mpr ⟨noNull, ih later writableLater escapedLater ?_ ?_⟩
      · exact fun one row member => visible one row (List.mem_cons_of_mem _ member)
      · have some : row.map (fieldText dialect null) ≠ [] := by
          intro empty
          rw [List.map_eq_nil_iff.mp empty] at here
          simp only [List.length_nil] at here
          omega
        have isFields := fieldText_isField writableHere escapedHere fun member => absurd member noNull
        rw [front, readText, scan_line some isFields
          (visible_row here fun one => visible one row List.mem_cons_self) breaks, List.map_cons,
          List.cons.injEq] at same
        exact same.2

/-- Rows written as fields and without blank lines are read field by field. -/
theorem readText_writeText_of_fields (missing : ∀ row ∈ rows, none ∈ row → dialect.IsField null)
    (visible : columns = 1 → ∀ row ∈ rows, row ≠ [some []] ∧ (null = [] → row ≠ [none])) :
    readText dialect null columns (writeText dialect null c rows) =
      rows.map fun row => row.map fun v => value dialect null (fieldText dialect null v) := by
  have isRow : ∀ raws ∈ rows.map fun row => row.map (fieldText dialect null),
      raws ≠ [] ∧ (∀ raw ∈ raws, dialect.IsField raw) ∧ raws ≠ [[]] := by
    intro raws member
    obtain ⟨row, here, rfl⟩ := List.mem_map.mp member
    refine ⟨?_, fieldText_isField (writable row here) (escaped row here) (missing row here),
      visible_row (length row here) fun one => visible one row here⟩
    intro empty
    have zero := length row here
    rw [List.map_eq_nil_iff.mp empty] at zero
    simp only [List.length_nil] at zero
    omega
  have whole := scan_written breaks isRow []
  rw [List.append_nil, scan, endRow, if_pos ⟨rfl, rfl⟩, List.append_nil] at whole
  rw [readText, writeText, whole, List.map_map]
  apply List.map_congr_left
  intro row here
  rw [Function.comp_apply, readRow_of_length (by rw [List.length_map, length row here]), List.map_map]
  rfl

end ReadBack

/-- Written rows are read back exactly when they are readable. -/
theorem readText_writeText_iff {rows : List (List (Option (List α)))} (breaks : dialect.isBreak c = true)
    (positive : 0 < columns) (plain : dialect.separator ∉ null) (length : ∀ row ∈ rows, row.length = columns)
    (writable : ∀ row ∈ rows, Writable dialect null row) :
    readText dialect null columns (writeText dialect null c rows) = rows ↔ Readable dialect null columns rows := by
  have fields : (∀ row ∈ rows, ∀ text, some text ∈ row → dialect.separator ∈ text → ∃ c, dialect.opens c = true) →
      ∀ row ∈ rows, ∀ v ∈ row, (value dialect null (fieldText dialect null v) = v ↔
        ∀ text, v = some text → dialect.escaped text ≠ null) := by
    intro escaped row here v member
    apply value_fieldText
    rintro text rfl
    exact unescape_escaped (writable row here text member).1 (escaped row here text member)
  constructor
  · intro same
    have escaped : ∀ row ∈ rows, ∀ text, some text ∈ row → dialect.separator ∈ text →
        ∃ c, dialect.opens c = true := by
      intro row here text member separated
      by_contra none
      have inert : ∀ c, dialect.opens c = false := by simpa using none
      exact separator_not_read inert (same ▸ here) member separated
    have visible := visible_of_same breaks positive length writable escaped plain same
    have missing : ∀ row ∈ rows, none ∈ row → dialect.IsField null := by
      intro row here member
      by_contra notField
      exact none_not_mem_of_same breaks positive length writable escaped visible notField same row here member
    refine ⟨missing, escaped, fun row here text member => ?_, visible⟩
    have back := readText_writeText_of_fields breaks positive length writable escaped missing visible
    rw [same] at back
    have row_back : row.map (fun v => value dialect null (fieldText dialect null v)) = row :=
      map_eq_self.mp back.symm row here
    exact (fields escaped row here _ member).mp (map_eq_self.mp row_back _ member) text rfl
  · intro readable
    rw [readText_writeText_of_fields breaks positive length writable readable.escaped readable.missing
      readable.visible]
    apply map_eq_self.mpr
    intro row here
    apply map_eq_self.mpr
    intro v member
    apply (fields readable.escaped row here v member).mpr
    rintro text rfl
    exact readable.distinct row here text member

end Nulls

end DuckGlue.DelimitedText
