import LabelQuery.Text.EditDistance

/-!
What the edit distance counts. Main statement: it is the length of a shortest way from one text to the
other on which each step puts in, leaves out or replaces one character.
-/
namespace LabelQuery.Text

/-- One character is put in, left out or replaced. -/
inductive Edit : List Char → List Char → Prop
  | insertion (c : Char) (xs : List Char) : Edit xs (c :: xs)
  | deletion (c : Char) (xs : List Char) : Edit (c :: xs) xs
  | replacement (x y : Char) (xs : List Char) : Edit (x :: xs) (y :: xs)
  | further (c : Char) {xs ys : List Char} : Edit xs ys → Edit (c :: xs) (c :: ys)

/-- A way of so many edits from one text to another. -/
inductive Edits : Nat → List Char → List Char → Prop
  | done (xs : List Char) : Edits 0 xs xs
  | step {n : Nat} {xs ys zs : List Char} : Edit xs ys → Edits n ys zs → Edits (n + 1) xs zs

def LeastEdits (xs ys : List Char) (n : Nat) : Prop :=
  Edits n xs ys ∧ ∀ m, Edits m xs ys → n ≤ m

namespace Edits

theorem further {n : Nat} {xs ys : List Char} (c : Char) (h : Edits n xs ys) :
    Edits n (c :: xs) (c :: ys) := by
  induction h with
  | done xs => exact .done _
  | step first _ ih => exact .step (.further c first) ih

theorem insertions (ys : List Char) : Edits ys.length [] ys := by
  induction ys with
  | nil => exact .done []
  | cons y ys ih => exact .step (.insertion y []) (ih.further y)

theorem deletions (xs : List Char) : Edits xs.length xs [] := by
  induction xs with
  | nil => exact .done []
  | cons x xs ih => exact .step (.deletion x xs) ih

theorem shorter {m n : Nat} {xs ys : List Char} (h : Edits m xs ys) (other : Edits n xs ys) :
    Edits (min m n) xs ys := by
  rcases Nat.le_total m n with first | second
  · rw [Nat.min_eq_left first]
    exact h
  · rw [Nat.min_eq_right second]
    exact other

end Edits

/-- There is a way as long as the edit distance. -/
theorem edits_editDistance (xs ys : List Char) : Edits (editDistance xs ys) xs ys := by
  induction xs generalizing ys with
  | nil =>
    rw [editDistance_nil_left]
    exact .insertions ys
  | cons x xs hx =>
    induction ys with
    | nil =>
      rw [editDistance_nil_right]
      exact .deletions (x :: xs)
    | cons y ys hy =>
      have deleted : Edits (editDistance xs (y :: ys) + 1) (x :: xs) (y :: ys) :=
        .step (.deletion x xs) (hx (y :: ys))
      have inserted : Edits (editDistance (x :: xs) ys + 1) (x :: xs) (y :: ys) :=
        .step (.insertion y (x :: xs)) (hy.further y)
      have replaced : Edits (editDistance xs ys + if x = y then 0 else 1) (x :: xs) (y :: ys) := by
        split
        · next same =>
          subst same
          exact (hx ys).further x
        · exact .step (.replacement x y xs) ((hx ys).further y)
      rw [editDistance_cons_cons]
      exact (deleted.shorter inserted).shorter replaced

section Bounds

variable (c x y : Char) (xs ys zs : List Char)

theorem editDistance_self : editDistance xs xs = 0 := by
  induction xs with
  | nil => rfl
  | cons x xs ih => simp [editDistance_cons_cons, ih]

theorem editDistance_deletion : editDistance (c :: xs) zs ≤ editDistance xs zs + 1 := by
  cases zs with
  | nil => simp
  | cons z zs =>
    rw [editDistance_cons_cons]
    omega

theorem editDistance_cons_right : editDistance xs (c :: zs) ≤ editDistance xs zs + 1 := by
  cases xs with
  | nil => simp
  | cons x xs =>
    rw [editDistance_cons_cons]
    omega

theorem editDistance_insertion : editDistance xs zs ≤ editDistance (c :: xs) zs + 1 := by
  induction zs with
  | nil =>
    simp
    omega
  | cons z zs ih =>
    have longer := editDistance_cons_right z xs zs
    rw [editDistance_cons_cons]
    omega

theorem editDistance_replacement :
    editDistance (x :: xs) zs ≤ editDistance (y :: xs) zs + 1 := by
  induction zs with
  | nil => simp
  | cons z zs ih =>
    rw [editDistance_cons_cons, editDistance_cons_cons]
    split <;> split <;> omega

theorem editDistance_further (closer : ∀ zs, editDistance xs zs ≤ editDistance ys zs + 1) :
    editDistance (c :: xs) zs ≤ editDistance (c :: ys) zs + 1 := by
  induction zs with
  | nil => simpa using closer []
  | cons z zs ih =>
    have both := closer (z :: zs)
    have rest := closer zs
    rw [editDistance_cons_cons, editDistance_cons_cons]
    omega

end Bounds

/-- One edit makes a difference of at most one. -/
theorem Edit.editDistance_le {xs ys : List Char} (h : Edit xs ys) (zs : List Char) :
    editDistance xs zs ≤ editDistance ys zs + 1 := by
  induction h generalizing zs with
  | insertion c xs => exact editDistance_insertion c xs zs
  | deletion c xs => exact editDistance_deletion c xs zs
  | replacement x y xs => exact editDistance_replacement x y xs zs
  | further c _ ih => exact editDistance_further c _ _ zs ih

theorem Edits.editDistance_le {n : Nat} {xs ys : List Char} (h : Edits n xs ys) :
    editDistance xs ys ≤ n := by
  induction h with
  | done xs => exact Nat.le_of_eq (editDistance_self xs)
  | step first _ ih => exact Nat.le_trans (first.editDistance_le _) (Nat.add_le_add_right ih 1)

/-- The edit distance is the least number of edits that turn one text into the other. -/
theorem leastEdits_editDistance (xs ys : List Char) : LeastEdits xs ys (editDistance xs ys) := by
  constructor
  · exact edits_editDistance xs ys
  · exact fun _ h => h.editDistance_le

end LabelQuery.Text
