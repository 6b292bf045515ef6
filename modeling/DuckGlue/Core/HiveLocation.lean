import DuckGlue.Core.StringUtil

/-! # Comparing locations

`s3a://`, `s3n://` and `S3://` name the bucket and key `s3://` names, and a
trailing slash is dropped. What is compared is a normal form of the location as
registered; files are listed and read at the registered spelling.
-/

namespace DuckGlue

open StringUtil Segments

/-- The spellings of the S3 scheme made one. -/
def normalizeScheme (location : Text) : Text :=
  let scheme := lower (location.take 6)
  if scheme = "s3a://".toList ∨ scheme = "s3n://".toList then
    "s3://".toList ++ location.drop 6
  else if lower (location.take 5) = "s3://".toList then
    "s3://".toList ++ location.drop 5
  else location

/-- `ComparableLocation` -/
def comparableLocation (location : Text) : Text := normalizeScheme (rtrim location '/')

/-- `LocationsOverlap`: one comparable location is or holds the other. -/
def locationsOverlap (a b : Text) : Bool :=
  a = b || startsWith a (b ++ "/".toList) || startsWith b (a ++ "/".toList)

/-- A location is a directory of `p` in the sense of `Segments.Below`. -/
abbrev Holds (location p : Text) : Prop := Below '/' location p

section Scheme

variable {d rest : Text} {c : Char}

/-- Below a location without a trailing slash the scheme is the location's own:
a scheme ends in two slashes, and neither can come from the path. -/
theorem normalizeScheme_below (untrimmed : d.getLast? ≠ some '/') (opens : c ≠ '/') :
    normalizeScheme (d ++ '/' :: c :: rest) = normalizeScheme d ++ '/' :: c :: rest := by
  by_cases long : 6 ≤ d.length
  · have five : 5 ≤ d.length := by omega
    simp only [normalizeScheme, List.take_append_of_le_length long,
      List.take_append_of_le_length five, List.drop_append_of_le_length long,
      List.drop_append_of_le_length five]
    split_ifs <;> simp
  · match d, untrimmed, long with
    | [], _, _ => simp [normalizeScheme, lower]
    | [_], _, _ => simp [normalizeScheme, lower]
    | [_, _], _, _ => simp [normalizeScheme, lower]
    | [_, _, _], _, _ => simp [normalizeScheme, lower, toLower_eq_slash, opens]
    | [_, _, _, z], untrimmed, _ =>
        have last : z ≠ '/' := by simpa using untrimmed
        simp [normalizeScheme, lower, toLower_eq_slash, opens, last]
    | [_, _, _, _, z], untrimmed, _ =>
        have last : z ≠ '/' := by simpa using untrimmed
        simp [normalizeScheme, lower, toLower_eq_slash, last]
    | _ :: _ :: _ :: _ :: _ :: _ :: _, _, long => simp at long

theorem normalizeScheme_last (untrimmed : d.getLast? ≠ some '/') : (normalizeScheme d).getLast? ≠ some '/' := by
  have swapped : ∀ n, (∃ x, lower (d.take n) = x ++ ['/'] ∧ x.length + 1 = n) → (d.drop n).getLast? ≠ some '/' ∧
      d.drop n ≠ [] := by
    intro n scheme
    obtain ⟨x, folded, length⟩ := scheme
    by_cases all : d.drop n = []
    · exfalso
      rw [List.take_of_length_le (List.drop_eq_nil_iff.mp all)] at folded
      have last := congrArg List.getLast? folded
      simp only [lower, List.getLast?_map, List.getLast?_append, List.getLast?_singleton, Option.some_or] at last
      obtain ⟨c, ends, slash⟩ := Option.map_eq_some_iff.mp last
      exact untrimmed (ends.trans (congrArg some (toLower_eq_slash.mp slash)))
    · refine ⟨?_, all⟩
      rwa [List.getLast?_drop, if_neg (by simpa [List.drop_eq_nil_iff] using all)]
  unfold normalizeScheme
  dsimp only
  split_ifs with hadoop plain
  · obtain ⟨last, rest⟩ := swapped 6 (hadoop.elim (fun h => ⟨"s3a:/".toList, h, rfl⟩) (fun h => ⟨"s3n:/".toList, h, rfl⟩))
    rwa [List.getLast?_append_of_ne_nil _ rest]
  · obtain ⟨last, rest⟩ := swapped 5 ⟨"s3:/".toList, plain, rfl⟩
    rwa [List.getLast?_append_of_ne_nil _ rest]
  · exact untrimmed

theorem normalizeScheme_eq_nil : normalizeScheme d = [] ↔ d = [] := by
  unfold normalizeScheme
  dsimp only
  refine ⟨fun empty => ?_, fun empty => by simp [empty, lower]⟩
  split_ifs at empty
  · simp at empty
  · simp at empty
  · exact empty

theorem comparableLocation_last (location : Text) : (comparableLocation location).getLast? ≠ some '/' :=
  normalizeScheme_last (Segments.trimEnd_last location)

/-- What lies below a location lies below it when compared. -/
theorem comparableLocation_below {q : Text} (untrimmed : d.getLast? ≠ some '/') (nonempty : q ≠ [])
    (opens : q.head? ≠ some '/') (closes : q.getLast? ≠ some '/') :
    comparableLocation (d ++ '/' :: q) = comparableLocation d ++ '/' :: q := by
  cases q with
  | nil => exact absurd rfl nonempty
  | cons c rest =>
      have last : (d ++ '/' :: c :: rest).getLast? ≠ some '/' := by
        rwa [List.getLast?_append_of_ne_nil _ (by simp), List.getLast?_cons_cons]
      have kept : rtrim (d ++ '/' :: c :: rest) '/' = d ++ '/' :: c :: rest := trimEnd_of_last last
      have own : rtrim d '/' = d := trimEnd_of_last untrimmed
      rw [comparableLocation, comparableLocation, kept, own]
      exact normalizeScheme_below untrimmed (by simpa using opens)

theorem comparableLocation_rtrim (location : Text) :
    comparableLocation (rtrim location '/') = comparableLocation location :=
  congrArg normalizeScheme Segments.trimEnd_trimEnd

end Scheme

end DuckGlue
