/-!
The syntax of relaxed documents, as written: texts as lists of their pieces and numbers as numerals.
What a node means is settled later, for a piece or a numeral can be well formed and still mean
nothing.
-/
namespace LabelQuery.Relaxed

inductive Piece
  /-- A character that stands for itself. -/
  | char (c : Char)
  /-- A backslash and a character. -/
  | escape (c : Char)
  /-- A backslash and a zero. -/
  | nul
  /-- `\xHH`. -/
  | byte (code : Nat)
  /-- `\uHHHH`. -/
  | unit (code : Nat)
  deriving DecidableEq, Repr

inductive Sign
  | none
  | plus
  | minus
  deriving DecidableEq, Repr

inductive Magnitude
  /-- Hexadecimal digits after `0x`. -/
  | hex (digits : List Char)
  /-- Digits; digits after a point, if there is one; and an exponent, if there is one. -/
  | decimal (whole : List Char) (fraction : Option (List Char))
      (exponent : Option (Sign × List Char))
  | infinity
  | nan
  deriving DecidableEq, Repr

structure Numeral where
  sign : Sign
  magnitude : Magnitude
  deriving DecidableEq, Repr

inductive Node
  | null
  | bool (value : Bool)
  | text (pieces : List Piece)
  | number (numeral : Numeral)
  | array (items : List Node)
  | object (fields : List (List Piece × Node))

end LabelQuery.Relaxed
