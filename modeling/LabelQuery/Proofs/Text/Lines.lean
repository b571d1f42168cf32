import LabelQuery.Text.Lines
import Mathlib.Data.List.DropRight

/-!
Pieces between marks, and lines. Main statement: a character stands in the line and in the column that the
line feeds before it give.
-/
namespace LabelQuery.Text

variable {mark c : Char} {text piece : List Char}

theorem notMem_of_mem_cutAt (h : piece ∈ cutAt mark text) : mark ∉ piece := by
  induction text generalizing piece with
  | nil =>
    rw [cutAt, List.mem_singleton] at h
    simp [h]
  | cons c rest ih =>
    rw [cutAt] at h
    split at h
    · rcases List.mem_cons.1 h with rfl | h
      · simp
      · exact ih h
    · next other =>
      split at h
      · rw [List.mem_singleton] at h
        simp [h, Ne.symm other]
      · next first others cut =>
        rw [cut] at ih
        rcases List.mem_cons.1 h with rfl | h
        · simp [Ne.symm other, ih (List.mem_cons_self ..)]
        · exact ih (List.mem_cons_of_mem _ h)

theorem cutAt_of_notMem (h : mark ∉ piece) : cutAt mark piece = [piece] := by
  induction piece with
  | nil => rfl
  | cons c rest ih =>
    obtain ⟨other, later⟩ := not_or.1 (mt List.mem_cons.2 h)
    rw [cutAt, if_neg (Ne.symm other), ih later]

theorem head?_cutAt (mark : Char) (text : List Char) :
    (cutAt mark text).head? = some (text.takeWhile (· ≠ mark)) := by
  induction text with
  | nil => rfl
  | cons c rest ih =>
    rw [cutAt]
    by_cases same : c = mark
    · simp [same]
    · rw [if_neg same, List.takeWhile_cons_of_pos (by simpa using same)]
      cases cut : cutAt mark rest with
      | nil => simp [cut] at ih
      | cons first others => simpa [cut] using ih

theorem cutAt_append (mark : Char) (first second : List Char) :
    cutAt mark (first ++ mark :: second) = cutAt mark first ++ cutAt mark second := by
  induction first with
  | nil => simp [cutAt]
  | cons c rest ih =>
    rw [List.cons_append, cutAt, cutAt, ih]
    by_cases same : c = mark
    · simp [same]
    · rw [if_neg same, if_neg same]
      cases cut : cutAt mark rest with
      | nil => simpa [cut] using head?_cutAt mark rest
      | cons head others => rfl

theorem length_cutAt (mark : Char) (text : List Char) :
    (cutAt mark text).length = text.count mark + 1 := by
  induction text with
  | nil => rfl
  | cons c rest ih =>
    rw [cutAt]
    by_cases same : c = mark
    · simp [same, ih]
    · rw [if_neg same, List.count_cons_of_ne same, ← ih]
      cases cut : cutAt mark rest with
      | nil => simp [cut] at ih
      | cons first others => rfl

/-! ### Lines of a text -/

theorem endLines_append (pieces : List (List Char)) (last : List Char) :
    endLines (pieces ++ [last]) = pieces.map dropReturn ++ endLines [last] := by
  induction pieces with
  | nil => rfl
  | cons first others ih =>
    rw [List.cons_append, List.map_cons, List.cons_append, ← ih]
    cases others <;> rfl

/-- Where a line feed comes last, each piece is a line. -/
theorem lines_newline (text : String) :
    lines (text ++ "\n") =
      (cutAt '\n' text.toList).map fun piece => String.ofList (dropReturn piece) := by
  have cut : cutAt '\n' (text ++ "\n").toList = cutAt '\n' text.toList ++ [[]] := by
    rw [String.toList_append]
    exact cutAt_append '\n' text.toList []
  rw [lines, cut, endLines_append]
  simp [endLines]

theorem lines_append_line (text : String) {last : String} (noFeed : '\n' ∉ last.toList)
    (nonempty : last ≠ "") : lines (text ++ "\n" ++ last) = lines (text ++ "\n") ++ [last] := by
  have cut : cutAt '\n' (text ++ "\n" ++ last).toList = cutAt '\n' text.toList ++ [last.toList] := by
    rw [String.toList_append, String.toList_append, List.append_assoc, ← cutAt_of_notMem noFeed]
    exact cutAt_append '\n' text.toList last.toList
  rw [lines, cut, endLines_append, lines_newline]
  simp [endLines, nonempty]

/-! ### Characters in lines -/

/-- How many line feeds stand before a character. -/
def rowOf (text : List Char) (position : Nat) : Nat :=
  (text.take position).count '\n'

/-- How many characters stand before a character, back to the last line feed. -/
def columnOf (text : List Char) (position : Nat) : Nat :=
  ((text.take position).rtakeWhile (· ≠ '\n')).length

/-- What stands before a place belongs to the first line, or there is a last line feed in it. -/
theorem exists_line (text : List Char) (position : Nat) :
    ∃ line, '\n' ∉ line ∧ columnOf text position = line.length ∧
      (text.take position = line ∧ rowOf text position = 0 ∨
        ∃ first, text.take position = first ++ '\n' :: line ∧
          rowOf text position = first.count '\n' + 1) := by
  let line := (text.take position).rtakeWhile (· ≠ '\n')
  let front := (text.take position).rdropWhile (· ≠ '\n')
  have whole : text.take position = front ++ line := List.rdropWhile_append_rtakeWhile.symm
  have noFeed : '\n' ∉ line := fun mem => by simpa using List.mem_rtakeWhile_imp mem
  have count : line.count '\n' = 0 := List.count_eq_zero.2 noFeed
  refine ⟨line, noFeed, rfl, ?_⟩
  rcases List.eq_nil_or_concat front with none | ⟨first, last, cut⟩
  · left
    rw [rowOf, whole, none]
    exact ⟨rfl, count⟩
  · right
    have nonempty : front ≠ [] := by simp [cut]
    have ending : front.getLast nonempty = last := by
      rw [← Option.some_inj, ← List.getLast?_eq_some_getLast, cut]
      simp
    have stops : ¬decide (front.getLast nonempty ≠ '\n') = true :=
      List.rdropWhile_last_not _ _ nonempty
    have feed : last = '\n' := by simpa [ending] using stops
    refine ⟨first, by rw [whole, cut, feed]; simp, ?_⟩
    simp [rowOf, whole, cut, feed, count]

theorem getElem?_head_cutAt {line after : List Char} (noMark : mark ∉ line) (other : c ≠ mark) :
    ∃ piece, (cutAt mark (line ++ c :: after))[0]? = some piece ∧ piece[line.length]? = some c := by
  have all : ∀ d ∈ line, decide (d ≠ mark) = true := fun d mem =>
    decide_eq_true fun same => noMark (same ▸ mem)
  refine ⟨_, List.head?_eq_getElem?.symm.trans (head?_cutAt mark _), ?_⟩
  rw [List.takeWhile_append_of_pos all]
  simp [other]

theorem getElem?_cutAt {position : Nat} (found : text[position]? = some c) (other : c ≠ '\n') :
    ∃ piece, (cutAt '\n' text)[rowOf text position]? = some piece ∧
      piece[columnOf text position]? = some c := by
  obtain ⟨line, noFeed, column, before⟩ := exists_line text position
  obtain ⟨piece, first, inside⟩ := @getElem?_head_cutAt _ _ line (text.drop (position + 1)) noFeed other
  refine ⟨piece, ?_, column ▸ inside⟩
  have behind : text = text.take position ++ c :: text.drop (position + 1) := by
    obtain ⟨within, rfl⟩ := List.getElem?_eq_some_iff.1 found
    rw [← List.drop_eq_getElem_cons within, List.take_append_drop]
  rcases before with ⟨only, row⟩ | ⟨front, cut, row⟩
  · rw [row, behind, only]
    exact first
  · rw [row, behind, cut, List.append_assoc, List.cons_append, cutAt_append,
      List.getElem?_append_right (by rw [length_cutAt]), length_cutAt, Nat.sub_self]
    exact first

theorem getElem?_dropReturn {position : Nat} (found : piece[position]? = some c) (other : c ≠ '\r') :
    (dropReturn piece)[position]? = some c := by
  unfold dropReturn
  split
  · next ends =>
    have inside : position < piece.length := (List.getElem?_eq_some_iff.1 found).1
    have early : position ≠ piece.length - 1 := by
      rintro rfl
      rw [List.getLast?_eq_getElem?] at ends
      exact other (Option.some.inj (found.symm.trans ends))
    rw [List.getElem?_dropLast, if_pos (by omega), found]
  · exact found

/-- A character that ends no line is found in its line and column. -/
theorem getElem?_lines {text : String} {position : Nat} (found : text.toList[position]? = some c)
    (noFeed : c ≠ '\n') (noReturn : c ≠ '\r') :
    ∃ line, (lines (text ++ "\n"))[rowOf text.toList position]? = some line ∧
      line.toList[columnOf text.toList position]? = some c := by
  obtain ⟨piece, here, inside⟩ := getElem?_cutAt found noFeed
  refine ⟨String.ofList (dropReturn piece), ?_, ?_⟩
  · rw [lines_newline, List.getElem?_map, here]
    rfl
  · rw [String.toList_ofList]
    exact getElem?_dropReturn inside noReturn

theorem columnOf_eq_iff {position : Nat} (inside : position ≤ text.length) :
    columnOf text position = position ↔ rowOf text position = 0 := by
  obtain ⟨line, -, column, before⟩ := exists_line text position
  have length : (text.take position).length = position := List.length_take_of_le inside
  rw [column]
  rcases before with ⟨only, row⟩ | ⟨first, cut, row⟩
  · simp [row, ← only, length]
  · rw [cut, List.length_append, List.length_cons] at length
    omega

end LabelQuery.Text
