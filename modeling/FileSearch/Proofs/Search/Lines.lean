import FileSearch.Files.Lines
import FileSearch.Proofs.Search.Outcome
import Mathlib.Data.List.Forall2

/-!
# Paths on lines

An output is read line by line: what a line shows is the path before its carriage return, and lines
that show nothing are passed over. So paths that are written on lines of their own are read back
exactly if a line can carry each of them.
-/

set_option autoImplicit false

namespace FileSearch.Path

/-- The lines of an output. The last one has no end, and is empty where the output ends in one. -/
inductive Lines : Bytes → List Bytes → Prop where
  | last {line : Bytes} : lineEnd ∉ line → Lines line [line]
  | next {line rest : Bytes} {lines : List Bytes} :
      lineEnd ∉ line → Lines rest lines → Lines (line ++ lineEnd :: rest) (line :: lines)

/-- The path that a line shows. -/
inductive Shows : Bytes → Path → Prop where
  | marked {path : Path} : Shows (path ++ [carriageReturn]) path
  | plain {path : Path} : path.getLast? ≠ some carriageReturn → Shows path path

variable {output line : Bytes} {lines : List Bytes} {path : Path} {paths : List Path}

/-! ## One line -/

theorem dropCarriageReturn_append (path : Path) :
    dropCarriageReturn (path ++ [carriageReturn]) = path := by
  simp [dropCarriageReturn]

theorem dropCarriageReturn_of_getLast? (plain : line.getLast? ≠ some carriageReturn) :
    dropCarriageReturn line = line :=
  if_neg (by simpa using plain)

theorem shows_iff : Shows line path ↔ dropCarriageReturn line = path := by
  constructor
  · intro shows
    cases shows with
    | marked => exact dropCarriageReturn_append path
    | plain unmarked => exact dropCarriageReturn_of_getLast? unmarked
  · intro dropped
    subst dropped
    by_cases marked : line.getLast? = some carriageReturn
    · obtain ⟨front, rfl⟩ := List.getLast?_eq_some_iff.mp marked
      rw [dropCarriageReturn_append]
      exact .marked
    · rw [dropCarriageReturn_of_getLast? marked]
      exact .plain marked

theorem Shows.eq_nil_iff (shows : Shows line path) :
    path = [] ↔ line = [] ∨ line = [carriageReturn] := by
  cases shows with
  | marked => simp
  | plain unmarked =>
      constructor
      · exact .inl
      · intro blank
        cases blank with
        | inl empty => exact empty
        | inr lone =>
            subst lone
            exact absurd rfl unmarked

theorem dropCarriageReturn_eq_self_iff :
    dropCarriageReturn line = line ↔ line.getLast? ≠ some carriageReturn := by
  constructor
  · intro same marked
    obtain ⟨front, rfl⟩ := List.getLast?_eq_some_iff.mp marked
    rw [dropCarriageReturn_append] at same
    simpa using congrArg List.length same
  · exact dropCarriageReturn_of_getLast?

/-! ## All lines -/

theorem exists_lines (output : Bytes) : ∃ lines, Lines output lines := by
  induction output with
  | nil => exact ⟨_, .last List.not_mem_nil⟩
  | cons c rest ih =>
      obtain ⟨lines, cut⟩ := ih
      by_cases ends : c = lineEnd
      · subst ends
        have empty : lineEnd ∉ ([] : Bytes) := List.not_mem_nil
        exact ⟨_, .next empty cut⟩
      · have longer {line : Bytes} (oneLine : lineEnd ∉ line) : lineEnd ∉ c :: line :=
          List.not_mem_cons_of_ne_of_not_mem (Ne.symm ends) oneLine
        cases cut with
        | last oneLine => exact ⟨_, .last (longer oneLine)⟩
        | next oneLine others => exact ⟨_, .next (longer oneLine) others⟩

namespace Lines

theorem splitOnP_eq (cut : Lines output lines) : output.splitOnP (· == lineEnd) = lines := by
  have whole {line : Bytes} (oneLine : lineEnd ∉ line) : ∀ c ∈ line, (c == lineEnd) = false := by
    intro c member
    exact beq_eq_false_iff_ne.mpr fun same => oneLine (same ▸ member)
  induction cut with
  | last oneLine => exact List.splitOnP_eq_singleton (whole oneLine)
  | next oneLine _ ih =>
      have ends : (lineEnd == lineEnd) = true := beq_self_eq_true lineEnd
      have split := List.splitOnP_append_cons_of_forall_mem (whole oneLine) lineEnd ends
      rw [split, ih]

theorem lineEnd_notMem (cut : Lines output lines) : ∀ line ∈ lines, lineEnd ∉ line := by
  induction cut with
  | last oneLine => simpa using oneLine
  | next oneLine _ ih => exact List.forall_mem_cons.mpr ⟨oneLine, ih⟩

theorem ended (cut : Lines output lines) : Lines (output ++ [lineEnd]) (lines ++ [[]]) := by
  induction cut with
  | last oneLine => exact .next oneLine (.last List.not_mem_nil)
  | next oneLine _ ih =>
      rw [List.append_assoc, List.cons_append]
      exact .next oneLine ih

theorem ofLines_eq (cut : Lines output lines) :
    ofLines output = (lines.map dropCarriageReturn).filter fun path => !path.isEmpty := by
  rw [ofLines, cut.splitOnP_eq]

theorem forall₂_shows (cut : Lines output lines) :
    List.Forall₂ Shows (lines.filter fun line => line ≠ [] ∧ line ≠ [carriageReturn])
      (ofLines output) := by
  have solid (line : Bytes) : (!(dropCarriageReturn line).isEmpty) =
      decide (line ≠ [] ∧ line ≠ [carriageReturn]) := by
    have shows : Shows line (dropCarriageReturn line) := shows_iff.mpr rfl
    rw [Bool.eq_iff_iff, Bool.not_eq_true', ← Bool.not_eq_true, List.isEmpty_iff,
      decide_eq_true_iff, shows.eq_nil_iff, not_or]
  rw [cut.ofLines_eq, List.filter_map, List.forall₂_map_right_iff]
  simp only [Function.comp_def, solid]
  exact List.forall₂_same.mpr fun line _ => shows_iff.mpr rfl

end Lines

theorem solid_of_mem_ofLines (read : path ∈ ofLines output) : path ≠ [] ∧ lineEnd ∉ path := by
  obtain ⟨lines, cut⟩ := exists_lines output
  rw [cut.ofLines_eq, List.mem_filter, List.mem_map] at read
  obtain ⟨⟨line, listed, shown⟩, solid⟩ := read
  have oneLine : lineEnd ∉ line := cut.lineEnd_notMem line listed
  refine ⟨by simpa using solid, ?_⟩
  cases shows_iff.mpr shown with
  | marked => exact fun member => oneLine (List.mem_append_left _ member)
  | plain => exact oneLine

theorem ofLines_append_lineEnd (output : Bytes) :
    ofLines (output ++ [lineEnd]) = ofLines output := by
  obtain ⟨lines, cut⟩ := exists_lines output
  rw [cut.ended.ofLines_eq, cut.ofLines_eq, List.map_append, List.filter_append]
  exact List.append_nil _

/-! ## Written paths -/

theorem lines_toLines (oneLine : ∀ path ∈ paths, lineEnd ∉ path) :
    Lines (toLines paths) (paths ++ [[]]) := by
  induction paths with
  | nil => exact .last List.not_mem_nil
  | cons path rest ih =>
      obtain ⟨first, others⟩ := List.forall_mem_cons.mp oneLine
      have written : toLines (path :: rest) = path ++ lineEnd :: toLines rest := by
        rw [toLines, List.flatMap_cons, List.append_assoc, List.singleton_append]
        rfl
      rw [written]
      exact .next first (ih others)

theorem ofLines_toLines (oneLine : ∀ path ∈ paths, lineEnd ∉ path) :
    ofLines (toLines paths) =
      (paths.map dropCarriageReturn).filter fun path => !path.isEmpty := by
  rw [(lines_toLines oneLine).ofLines_eq, List.map_append, List.filter_append]
  exact List.append_nil _

theorem ofLines_toLines_eq_iff : ofLines (toLines paths) = paths ↔
    ∀ path ∈ paths, path ≠ [] ∧ lineEnd ∉ path ∧ path.getLast? ≠ some carriageReturn := by
  constructor
  · intro same
    have read : ∀ path ∈ paths, path ≠ [] ∧ lineEnd ∉ path := fun path listed =>
      solid_of_mem_ofLines (same.symm ▸ listed)
    -- No path is lost, so each of them is what its own line shows.
    rw [ofLines_toLines fun path listed => (read path listed).2] at same
    have lengths := (congrArg List.length same).trans (List.length_map dropCarriageReturn).symm
    rw [List.length_filter_eq_length_iff] at lengths
    rw [List.filter_eq_self.mpr lengths] at same
    intro path listed
    obtain ⟨solid, oneLine⟩ := read path listed
    have shown : dropCarriageReturn path = path :=
      List.map_inj_left.mp (same.trans (List.map_id paths).symm) path listed
    exact ⟨solid, oneLine, dropCarriageReturn_eq_self_iff.mp shown⟩
  · intro carried
    have shown : ∀ path ∈ paths, dropCarriageReturn path = id path := fun path listed =>
      dropCarriageReturn_of_getLast? (carried path listed).2.2
    rw [ofLines_toLines fun path listed => (carried path listed).2.1, List.map_congr_left shown,
      List.map_id, List.filter_eq_self]
    intro path listed
    simpa using (carried path listed).1

theorem received_forward_lines {sink : Sink} (accepts : sink.Accepts) (paths : List Path) :
    (sink.forward (paths.flatMap fun path => [path, [lineEnd]])).2.received =
      sink.received ++ toLines paths := by
  obtain ⟨bytes, gets, received⟩ :=
    sink.takes_forward (paths.flatMap fun path => [path, [lineEnd]])
  rw [received, gets.eq_flatten accepts, Specification.flatten_lines]

/-- Paths that a search has written are read back exactly if none of them is empty, holds a line end
or ends in a carriage return. Whatever is read, the paths are those that the lines show, in order,
without the lines that show nothing, and a line end behind the last line changes nothing. -/
theorem ofLines_received_iff (paths : List Path) (output : Bytes) :
    (ofLines (({} : Sink).forward (paths.flatMap fun path => [path, [lineEnd]])).2.received =
        paths ↔
      ∀ path ∈ paths, path ≠ [] ∧ lineEnd ∉ path ∧ path.getLast? ≠ some carriageReturn) ∧
    (∀ path ∈ ofLines output, path ≠ [] ∧ lineEnd ∉ path) ∧
    (∃ lines, Lines output lines ∧
      List.Forall₂ Shows (lines.filter fun line => line ≠ [] ∧ line ≠ [carriageReturn])
        (ofLines output)) ∧
    ofLines (output ++ [lineEnd]) = ofLines output := by
  have accepts : ({} : Sink).Accepts := fun _ => rfl
  refine ⟨?written, fun _ => solid_of_mem_ofLines, ?shown, ofLines_append_lineEnd output⟩
  case written =>
    rw [received_forward_lines accepts, List.nil_append]
    exact ofLines_toLines_eq_iff
  case shown =>
    obtain ⟨lines, cut⟩ := exists_lines output
    exact ⟨lines, cut, cut.forall₂_shows⟩

/-- A path that ends in a carriage return can be read, but not from its own line. -/
example : ofLines [0x61, 0x0D, 0x0D, 0x0A, 0x0D, 0x0A, 0x62] = [[0x61, 0x0D], [0x62]] ∧
    ofLines (toLines [[0x61, 0x0D]]) = [[0x61]] := by
  decide

end FileSearch.Path
