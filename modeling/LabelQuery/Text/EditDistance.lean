/-!
The edit distance of two texts: how many characters must be put in, left out or replaced to turn one
into the other. Main statements: its three recursion equations.
-/
namespace LabelQuery.Text

/-- The distances of `x :: xs` from every tail of a text, longest tail first, given the distances of
`xs` from the same tails. -/
def stepRow (x : Char) : List Char → List Nat → List Nat
  | y :: ys, keep :: row =>
    let shorter := stepRow x ys row
    let replaced := row.headD 0 + if x = y then 0 else 1
    min (min (keep + 1) (shorter.headD 0 + 1)) replaced :: shorter
  | _, row => row.map (· + 1)

/-- The distances of the first text from every tail of the second, longest tail first. -/
def distanceRow : List Char → List Char → List Nat
  | [], ys => (List.range (ys.length + 1)).reverse
  | x :: xs, ys => stepRow x ys (distanceRow xs ys)

/-- The least number of insertions, deletions and replacements that turn `xs` into `ys`. -/
def editDistance (xs ys : List Char) : Nat :=
  (distanceRow xs ys).headD 0

theorem distanceRow_cons (xs ys : List Char) (y : Char) :
    distanceRow xs (y :: ys) = editDistance xs (y :: ys) :: distanceRow xs ys := by
  induction xs with
  | nil => simp [editDistance, distanceRow, List.range_succ]
  | cons x xs ih =>
    rw [editDistance, distanceRow, ih, stepRow, List.headD_cons]
    rfl

theorem distanceRow_nil (xs : List Char) : distanceRow xs [] = [xs.length] := by
  induction xs with
  | nil => rfl
  | cons x xs ih => simp [distanceRow, ih, stepRow]

@[simp] theorem editDistance_nil_left (ys : List Char) : editDistance [] ys = ys.length := by
  simp [editDistance, distanceRow, List.range_succ]

@[simp] theorem editDistance_nil_right (xs : List Char) : editDistance xs [] = xs.length := by
  simp [editDistance, distanceRow_nil]

theorem editDistance_cons_cons (x y : Char) (xs ys : List Char) :
    editDistance (x :: xs) (y :: ys) =
      min (min (editDistance xs (y :: ys) + 1) (editDistance (x :: xs) ys + 1))
        (editDistance xs ys + if x = y then 0 else 1) := by
  rw [editDistance, distanceRow, distanceRow_cons, stepRow]
  rfl

end LabelQuery.Text
