import DuckGlue.Core.GlueInfo
import DuckGlue.Lib.Fallible
import DuckGlue.Lib.PagedReads
import Mathlib.Data.List.Range

/-! # Loading the partitions of a table

Against AWS the partitions are split over segments, whose requests run at the same time.
A server that ignores segments answers each of them with the whole table, so what several
segments returned is merged by the partition values, joined to a text.
-/

namespace DuckGlue.GlueAPI

open StringUtil PagedReads

/-- Segment number and total; none asks for the whole table. -/
abbrev Segment := Option (ℕ × ℕ)

/-- A page of partitions; the token of the last is empty. -/
abbrev PartitionsPage := Page GluePartitionInfo Text

/-- `GetPartitionSegmentCount` -/
def getPartitionSegmentCount (setting : Option ℕ) (endpoint : Text) : ℕ :=
  let segments := setting.getD 0
  let segments := if segments = 0 then if endpoint.isEmpty then 8 else 1 else segments
  if segments > 10 then 10 else segments

section Load

variable (glue : Segment → Text → Except Exception PartitionsPage)

def segmentOf (totalSegments segmentNumber : ℕ) : Segment :=
  if totalSegments > 1 then some (segmentNumber, totalSegments) else none

/-- `FetchPartitionSegment`, as long as the fuel lasts. -/
def fetchPartitionSegment (fuel totalSegments segmentNumber : ℕ) : Option (Except Exception (List GluePartitionInfo)) :=
  fetch List.isEmpty (glue (segmentOf totalSegments segmentNumber)) fuel []

/-- The segments one after another; which error is thrown where several fail is left to the
scheduler. -/
def fetchSegments (fuel totalSegments : ℕ) : List ℕ → Option (Except Exception (List (List GluePartitionInfo)))
  | [] => some (.ok [])
  | segment :: rest =>
      match fetchPartitionSegment glue fuel totalSegments segment with
      | none => none
      | some (.error failed) => some (.error failed)
      | some (.ok result) => (fetchSegments fuel totalSegments rest).map fun results => results.map (result :: ·)

def partitionKey (partition : GluePartitionInfo) : Text := join partition.values "\x1f"

/-- `GetPartitions` -/
def getPartitions (fuel : ℕ) (setting : Option ℕ) (endpoint : Text) :
    Option (Except Exception (List GluePartitionInfo)) :=
  let totalSegments := getPartitionSegmentCount setting endpoint
  (fetchSegments glue fuel totalSegments (List.range totalSegments)).map fun results => results.map fun results =>
    if totalSegments > 1 then distinctBy partitionKey [] results.flatten else results.flatten

end Load

theorem getPartitionSegmentCount_pos (setting : Option ℕ) (endpoint : Text) :
    0 < getPartitionSegmentCount setting endpoint := by
  unfold getPartitionSegmentCount
  dsimp only
  split_ifs <;> omega

/-- The server splits the partitions over the segments, or answers each with all of them. -/
def Covers (totalSegments : ℕ) (answer : ℕ → List GluePartitionInfo) (registered : List GluePartitionInfo) : Prop :=
  ((List.range totalSegments).flatMap answer).Perm registered ∨
    ∀ segment < totalSegments, (answer segment).Perm registered

section Merged

variable {glue : Segment → Text → Except Exception PartitionsPage} {fuel totalSegments : ℕ} {setting : Option ℕ}
  {endpoint : Text} {pages : ℕ → List (List GluePartitionInfo)} {registered : List GluePartitionInfo}

theorem fetchSegments_serves {segments : List ℕ}
    (serves : ∀ segment ∈ segments, Serves List.isEmpty (glue (segmentOf totalSegments segment)) [] (pages segment))
    (enough : ∀ segment ∈ segments, (pages segment).length ≤ fuel) :
    fetchSegments glue fuel totalSegments segments = some (.ok (segments.map fun segment => (pages segment).flatten)) := by
  induction segments with
  | nil => rfl
  | cons segment segments ih =>
      have rest := ih (fun other member => serves other (List.mem_cons_of_mem _ member))
        (fun other member => enough other (List.mem_cons_of_mem _ member))
      have first := fetch_serves (serves segment List.mem_cons_self) (enough segment List.mem_cons_self)
      unfold fetchSegments fetchPartitionSegment
      rw [first, rest]
      rfl

/-- Whichever way the server answers, what was read is what is registered. -/
theorem Covers.mem_iff {answer : ℕ → List GluePartitionInfo} (covers : Covers totalSegments answer registered)
    (some : 0 < totalSegments) (partition : GluePartitionInfo) :
    partition ∈ ((List.range totalSegments).map answer).flatten ↔ partition ∈ registered := by
  rw [← List.flatMap_def]
  rcases covers with splits | ignores
  · exact splits.mem_iff
  · rw [List.mem_flatMap]
    constructor
    · rintro ⟨segment, inside, member⟩
      exact (ignores segment (List.mem_range.mp inside)).mem_iff.mp member
    · intro member
      exact ⟨0, List.mem_range.mpr some, (ignores 0 some).mem_iff.mpr member⟩

/-- One segment is the whole table. -/
theorem Covers.perm {answer : ℕ → List GluePartitionInfo} (covers : Covers 1 answer registered) :
    ((List.range 1).map answer).flatten.Perm registered := by
  rw [← List.flatMap_def]
  rcases covers with splits | ignores
  · exact splits
  · simpa using ignores 0 Nat.one_pos

/-- Each registered partition is in the list once if there is one segment, or the joined
values tell the partitions apart. -/
theorem getPartitions_perm_iff
    (serves : ∀ segment < getPartitionSegmentCount setting endpoint,
      Serves List.isEmpty (glue (segmentOf (getPartitionSegmentCount setting endpoint) segment)) [] (pages segment))
    (enough : ∀ segment < getPartitionSegmentCount setting endpoint, (pages segment).length ≤ fuel)
    (covers : Covers (getPartitionSegmentCount setting endpoint) (fun segment => (pages segment).flatten) registered) :
    ∃ merged, getPartitions glue fuel setting endpoint = some (.ok merged) ∧
      (merged.Perm registered ↔
        getPartitionSegmentCount setting endpoint = 1 ∨ (registered.map partitionKey).Nodup) := by
  have some := getPartitionSegmentCount_pos setting endpoint
  unfold getPartitions
  generalize getPartitionSegmentCount setting endpoint = totalSegments at serves enough covers some ⊢
  dsimp only
  rw [fetchSegments_serves (fun segment inside => serves segment (List.mem_range.mp inside))
    (fun segment inside => enough segment (List.mem_range.mp inside))]
  refine ⟨_, rfl, ?_⟩
  split_ifs with several
  · have more : totalSegments ≠ 1 := by omega
    rw [distinctBy_perm_iff (covers.mem_iff some)]
    simp only [more, false_or]
  · have one : totalSegments = 1 := by omega
    subst one
    simp only [covers.perm, true_or]

/-- Two pages of the first segment, the second with its token; the other segments are empty. -/
def twoPages (first second : GluePartitionInfo) (segment : Segment) (token : Text) : Except Exception PartitionsPage :=
  if segment = some (0, 8) then
    if token.isEmpty then .ok ⟨[first], "page 2".toList⟩ else .ok ⟨[second], []⟩
  else .ok ⟨[], []⟩

theorem twoPages_serves (first second : GluePartitionInfo) : ∀ segment < 8,
    Serves List.isEmpty (twoPages first second (segmentOf 8 segment)) [] (if segment = 0 then [[first], [second]] else [[]]) := by
  intro segment inside
  cases segment with
  | zero =>
      have answered : twoPages first second (segmentOf 8 0) [] = .ok ⟨[first], "page 2".toList⟩ := rfl
      have last : twoPages first second (segmentOf 8 0) "page 2".toList = .ok ⟨[second], []⟩ := rfl
      exact .next answered rfl (.last last rfl)
  | succ segment =>
      have other : segmentOf 8 (segment + 1) ≠ some (0, 8) := by
        intro same
        cases same
      have answered : twoPages first second (segmentOf 8 (segment + 1)) [] = .ok ⟨[], []⟩ := if_neg other
      exact .last answered rfl

theorem getPartitions_perm_two : ∃ merged,
    getPartitions (twoPages ⟨["5"], "t/day=5", [], [], ∅, []⟩ ⟨["6"], "t/day=6", [], [], ∅, []⟩) 2 none [] =
        some (.ok merged) ∧
      merged.Perm [⟨["5"], "t/day=5", [], [], ∅, []⟩, ⟨["6"], "t/day=6", [], [], ∅, []⟩] := by
  have covers : Covers 8 (fun segment => (if segment = 0 then
      [[(⟨["5"], "t/day=5", [], [], ∅, []⟩ : GluePartitionInfo)], [⟨["6"], "t/day=6", [], [], ∅, []⟩]] else [[]]).flatten)
      [⟨["5"], "t/day=5", [], [], ∅, []⟩, ⟨["6"], "t/day=6", [], [], ∅, []⟩] := .inl (.refl _)
  have enough : ∀ segment < 8, (if segment = 0 then
      [[(⟨["5"], "t/day=5", [], [], ∅, []⟩ : GluePartitionInfo)], [⟨["6"], "t/day=6", [], [], ∅, []⟩]]
      else [[]]).length ≤ 2 := by
    intro segment inside
    split_ifs <;> decide
  obtain ⟨merged, loaded, perm⟩ := @getPartitions_perm_iff _ 2 none [] _ _
    (twoPages_serves ⟨["5"], "t/day=5", [], [], ∅, []⟩ ⟨["6"], "t/day=6", [], [], ∅, []⟩) enough covers
  exact ⟨merged, loaded, perm.mpr (.inr (by decide))⟩

/-- Values that hold the separator: of two partitions in the eight segments one is lost. -/
theorem getPartitions_loses : ∃ (glue : Segment → Text → Except Exception PartitionsPage)
    (pages : ℕ → List (List GluePartitionInfo)) (merged registered : List GluePartitionInfo),
    (∀ segment < 8, Serves List.isEmpty (glue (segmentOf 8 segment)) [] (pages segment)) ∧
      Covers 8 (fun segment => (pages segment).flatten) registered ∧ (registered.map (·.values)).Nodup ∧
      getPartitions glue 2 none [] = some (.ok merged) ∧ ¬ merged.Perm registered := by
  refine ⟨_, _, _, [⟨["a\x1f", "b"], "t/a", [], [], ∅, []⟩, ⟨["a", "\x1fb"], "t/b", [], [], ∅, []⟩],
    twoPages_serves ⟨["a\x1f", "b"], "t/a", [], [], ∅, []⟩ ⟨["a", "\x1fb"], "t/b", [], [], ∅, []⟩,
    .inl (.refl _), by decide, rfl, ?_⟩
  intro perm
  have lengths := perm.length_eq
  revert lengths
  decide

end Merged

end DuckGlue.GlueAPI
