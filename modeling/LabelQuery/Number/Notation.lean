import LabelQuery.Number.Shortest

/-!
Writing floating-point numbers: where the point stands and when an exponent takes its place.
-/
namespace LabelQuery

structure FloatNotation where
  /-- Which of two equally near shortest decimals is written. -/
  tie : Tie
  /-- The numbers of digits before the point that are written without an exponent, a number below one
  counting its zeros after the point as negative ones; `none` if there never is an exponent. -/
  positional : Option (Int × Int)
  /-- Tells whether a whole number written without an exponent ends in `.0`. -/
  pointed : Bool

namespace FloatNotation

/-- Plain digits, and no point in whole numbers. -/
def plain : FloatNotation := ⟨.up, none, false⟩

/-- Plain digits with a point in every number. -/
def pointedPlain : FloatNotation := ⟨.up, none, true⟩

/-- The notation of numbers in data: from 16 digits before the point and from five zeros behind it on,
an exponent. -/
def data : FloatNotation := ⟨.even, some (-4, 16), true⟩

/-- The decimal's digits without the point; `digits` are those of the coefficient. -/
def placed (style : FloatNotation) (digits : List Char) (point : Int) : List Char :=
  if point ≤ 0 then
    '0' :: '.' :: List.replicate (-point).toNat '0' ++ digits
  else if digits.length ≤ point then
    digits ++ List.replicate (point.toNat - digits.length) '0' ++
      (if style.pointed then ['.', '0'] else [])
  else digits.take point.toNat ++ '.' :: digits.drop point.toNat

/-- Digits with an exponent, the point behind the first of them. -/
def scientific (digits : List Char) (point : Int) : List Char :=
  digits.take 1 ++ (if digits.length ≤ 1 then [] else '.' :: digits.drop 1) ++
    'e' :: (toString (point - 1)).toList

def write (style : FloatNotation) (x : Binary64) : String :=
  let shortest := x.shortest style.tie
  let all := Nat.toDigits 10 shortest.coefficient
  -- how many digits stand before the point
  let point : Int := all.length + shortest.scale
  let digits := (all.reverse.dropWhile (· = '0')).reverse
  let magnitude :=
    if x.significand = 0 then '0' :: if style.pointed then ['.', '0'] else []
    else
      match style.positional with
      | some (least, most) =>
        if least ≤ point ∧ point ≤ most then style.placed digits point
        else scientific digits point
      | none => style.placed digits point
  String.ofList (if x.negative then '-' :: magnitude else magnitude)

end FloatNotation

/-- A number as text; one that is not finite has a name. -/
def Double.write (style : FloatNotation) : Double → String
  | .finite value => style.write value
  | .infinite negative => if negative then "-inf" else "inf"
  | .nan => "NaN"

end LabelQuery
