import LabelQuery.Report.Plain
import LabelQuery.Proofs.Filter.Faults
import LabelQuery.Proofs.Text.Lines

/-!
Where the caret of a report points. It comes behind all lines of an expression, as far to the right as the
error is from the start of the whole. Main statement: it stands below the character at fault if the
expression is one line, and otherwise only if that character is in the first line and all later lines
look like the caret's.
-/
namespace LabelQuery

open Text

/-- A line with nothing but a caret in some column. -/
def caretLine (column : Nat) : String :=
  String.ofList (List.replicate column ' ') ++ "^"

/-- Lines show the place of a character: they are those of the expression and, directly below the line with
the character, a caret in its column. -/
def PointsAt (shown : List String) (expression : String) (position : Nat) : Prop :=
  ∃ above below, lines (expression ++ "\n") = above ++ below ∧
    above.length = rowOf expression.toList position + 1 ∧
    shown = above ++ caretLine (columnOf expression.toList position) :: below

theorem Filter.pointsInto_of_error {expression : String} {fault : FilterError} {labels : Labels}
    (h : compile expression = .error fault ∨
      ∃ filter, compile expression = .ok filter ∧ filter.accepts labels = .error fault) :
    fault.PointsInto (tokenize expression) := by
  rcases h with refused | ⟨filter, compiled, fails⟩
  · exact Program.pointsInto_of_ofTokens (compile_eq_error.1 refused)
  · obtain rfl := compile_eq_ok.1 compiled
    exact Program.pointsInto_of_evaluate filter.compiled fails

/-- The character at fault is the first of a token, so it is not white space. -/
theorem FilterError.PointsInto.exists_char {expression : String} {fault : FilterError}
    (points : fault.PointsInto (tokenize expression)) :
    ∃ c, expression.toList[fault.position]? = some c ∧ isBlank c = false := by
  obtain ⟨token, mem, place, -⟩ := points
  have tiles : TilesFrom expression.toList 0 (tokenize expression) := (tilesFrom_iff rfl).2 rfl
  obtain ⟨-, c, rest, here, solid⟩ := (tiles.fits token mem).starts
  refine ⟨c, ?_, solid⟩
  rw [← place, ← List.head?_drop, here, List.head?_cons]

theorem caretLine_inj {first second : Nat} : caretLine first = caretLine second ↔ first = second := by
  constructor
  · intro same
    have lengths := congrArg String.length same
    simpa [caretLine] using lengths
  · exact congrArg caretLine

theorem lines_caretLines (expression : String) (position : Nat) :
    lines (CommandError.caretLines expression position) =
      lines (expression ++ "\n") ++ [caretLine position] := by
  have noFeed : '\n' ∉ (caretLine position).toList := by simp [caretLine]
  have nonempty : caretLine position ≠ "" := by
    simp [← String.toList_inj, caretLine]
  rw [CommandError.caretLines, String.append_assoc]
  exact lines_append_line expression noFeed nonempty

theorem snoc_eq_cons {α : Type} {below : List α} {first last : α} :
    below ++ [last] = first :: below ↔ last = first ∧ ∀ line ∈ below, line = last := by
  induction below generalizing first with
  | nil => simp
  | cons head tail ih =>
    rw [List.cons_append, List.cons.injEq, ih, List.forall_mem_cons]
    grind

/-- A caret that comes last, in the column `position`, points at that character exactly if nothing tells it
from a caret that comes right below the first line. -/
theorem pointsAt_last {expression : String} {position : Nat}
    (inside : position ≤ expression.toList.length) :
    PointsAt (lines (expression ++ "\n") ++ [caretLine position]) expression position ↔
      rowOf expression.toList position = 0 ∧
        ∀ line ∈ (lines (expression ++ "\n")).tail, line = caretLine position := by
  constructor
  · rintro ⟨above, below, cut, row, same⟩
    rw [cut, List.append_assoc, List.append_cancel_left_eq, snoc_eq_cons, caretLine_inj] at same
    have first : rowOf expression.toList position = 0 := (columnOf_eq_iff inside).1 same.1.symm
    rw [first] at row
    obtain ⟨line, rfl⟩ := List.length_eq_one_iff.1 row
    rw [cut]
    exact ⟨first, same.2⟩
  · rintro ⟨first, later⟩
    have nonempty : lines (expression ++ "\n") ≠ [] := by
      rw [lines_newline, ← List.length_pos_iff, List.length_map, length_cutAt]
      exact Nat.succ_pos _
    obtain ⟨line, below, cut⟩ := List.exists_cons_of_ne_nil nonempty
    rw [cut] at later ⊢
    refine ⟨[line], below, cut, by rw [first]; rfl, ?_⟩
    rw [List.cons_append, List.singleton_append, (columnOf_eq_iff inside).2 first]
    exact congrArg (line :: ·) (snoc_eq_cons.2 ⟨rfl, later⟩)

/-- The report of an error shows the lines of the expression and behind them all a caret. The character at
fault is found in its line and column, and the caret points at it exactly if it is in the first line and
no later line differs from the caret's, and so whenever the expression is one line. -/
theorem CommandError.pointsAt_iff {expression : String} {fault : FilterError} {labels : Labels}
    (h : Filter.compile expression = .error fault ∨
      ∃ filter, Filter.compile expression = .ok filter ∧ filter.accepts labels = .error fault) :
    let shown := lines (expression ++ "\n")
    let row := rowOf expression.toList fault.position
    let column := columnOf expression.toList fault.position
    (∃ c line, expression.toList[fault.position]? = some c ∧ isBlank c = false ∧
      shown[row]? = some line ∧ line.toList[column]? = some c) ∧
    ∃ details, (ofFilterError expression fault).details = some details ∧
      lines details = shown ++ [caretLine fault.position] ∧
      Report.errorLines (ofFilterError expression fault) =
        ("Error: " ++ fault.message) :: (lines details).map ("  " ++ ·) ∧
      (PointsAt (lines details) expression fault.position ↔
        row = 0 ∧ ∀ line ∈ shown.tail, line = caretLine fault.position) ∧
      ('\n' ∉ expression.toList → PointsAt (lines details) expression fault.position) := by
  obtain ⟨c, found, solid⟩ := (Filter.pointsInto_of_error h).exists_char
  have inside : fault.position ≤ expression.toList.length :=
    Nat.le_of_lt (List.getElem?_eq_some_iff.1 found).1
  have noFeed : c ≠ '\n' := by
    rintro rfl
    contradiction
  have noReturn : c ≠ '\r' := by
    rintro rfl
    contradiction
  obtain ⟨line, here, there⟩ := getElem?_lines found noFeed noReturn
  have last := lines_caretLines expression fault.position
  have exactly := pointsAt_last inside
  refine ⟨⟨c, line, found, solid, here, there⟩, _, rfl, last, ?_, last ▸ exactly, fun single => ?_⟩
  · simp [Report.errorLines, ofFilterError]
  · have first : rowOf expression.toList fault.position = 0 :=
      List.count_eq_zero.2 fun mem => single (List.mem_of_mem_take mem)
    have alone : (lines (expression ++ "\n")).tail = [] := by
      rw [lines_newline, cutAt_of_notMem single]
      rfl
    rw [last, exactly, alone]
    exact ⟨first, by simp⟩

/-- In `a or (b` the caret is below the `(` that nothing closes. -/
theorem CommandError.pointsAt_iff_group :
    Filter.compile "a or (b" = .error (.unclosedOpen 5) ∧
      ∃ details, (ofFilterError "a or (b" (.unclosedOpen 5)).details = some details ∧
        lines details = ["a or (b", "     ^"] ∧ PointsAt (lines details) "a or (b" 5 := by
  have read : tokenize "a or (b" =
      [⟨.word, "a", 0⟩, ⟨.word, "or", 2⟩, ⟨.symbol, "(", 5⟩, ⟨.word, "b", 6⟩] := by
    decide +kernel
  have refused : Filter.compile "a or (b" = .error (.unclosedOpen 5) := by
    rw [Filter.compile_eq_error, Program.compile, read]
    rfl
  obtain ⟨-, details, same, -, -, -, single⟩ := @pointsAt_iff _ _ (fun _ => none) (.inl refused)
  obtain rfl := Option.some.inj same
  exact ⟨refused, _, rfl, by decide +kernel, single (by decide +kernel)⟩

/-- Where `role` and `and` are on two lines, the caret is in column 5 below the second one, which ends in
column 3, and not below its first character. -/
theorem CommandError.not_pointsAt_and :
    ∃ filter, Filter.compile "role\nand" = .ok filter ∧
      (∀ labels, filter.accepts labels = .error (.missingOperands .and 5)) ∧
      ∃ details, (ofFilterError "role\nand" (.missingOperands .and 5)).details = some details ∧
        lines details = ["role", "and", "     ^"] ∧
        rowOf "role\nand".toList 5 = 1 ∧ columnOf "role\nand".toList 5 = 0 ∧
        ¬PointsAt (lines details) "role\nand" 5 := by
  have read : tokenize "role\nand" = [⟨.word, "role", 0⟩, ⟨.word, "and", 5⟩] := by
    decide +kernel
  have compiled : Program.compile "role\nand" =
      .ok ⟨[.operand "role", .operator .and 5, .operator .fin 8], rfl⟩ := by
    rw [Program.compile, read]
    rfl
  have inside : 5 ≤ "role\nand".toList.length := by decide +kernel
  have row : rowOf "role\nand".toList 5 = 1 := by decide +kernel
  refine ⟨⟨_, _, compiled⟩, Filter.compile_eq_ok.2 rfl, fun labels => rfl, _, rfl, by decide +kernel,
    row, by decide +kernel, ?_⟩
  change ¬PointsAt (lines (caretLines "role\nand" 5)) "role\nand" 5
  rw [lines_caretLines, pointsAt_last inside, row]
  exact fun first => absurd first.1 (by decide)

end LabelQuery
