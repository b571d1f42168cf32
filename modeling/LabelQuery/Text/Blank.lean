import LabelQuery.Text.CharSet

/-!
White space: the characters that separate tokens of a filter and that a saved filter's name must
not contain.
-/
namespace LabelQuery.Text

/-- The characters with the property `White_Space`. -/
def whiteSpace : CharSet where
  edges := [
  0x9, 0xE, 0x20, 0x21, 0x85, 0x86, 0xA0, 0xA1, 0x1680, 0x1681, 0x2000, 0x200B, 0x2028, 0x202A,
  0x202F, 0x2030, 0x205F, 0x2060, 0x3000, 0x3001]

def isBlank (c : Char) : Bool :=
  whiteSpace.contains c

/-- The ASCII blanks that core knows are blanks here too; the set also holds the non-ASCII ones. -/
theorem isBlank_of_isWhitespace {c : Char} (h : c.isWhitespace = true) : isBlank c = true := by
  simp only [Char.isWhitespace, Bool.or_eq_true, decide_eq_true_eq] at h
  rcases h with ((rfl | rfl) | rfl) | rfl <;> rfl

end LabelQuery.Text
