import LabelQuery.Number.Binary64

/-!
The shortest decimal of a binary number: the fewest digits that read back as the same number, and of
those the ones nearest to it. The decimals with a given last place form a grid; the coarsest grid with
a point that reads back has the fewest digits.
-/
namespace LabelQuery

/-- The decimal `coefficient * 10 ^ scale`. -/
structure Decimal where
  coefficient : Nat
  scale : Int
  deriving DecidableEq, Repr

/-- Which of two decimals at the same distance is taken. -/
inductive Tie
  /-- The greater one. -/
  | up
  /-- The one with the even last digit. -/
  | even
  deriving DecidableEq, Repr

namespace Binary64

/-- The decimals that read back as a positive number, in quarters of a unit of its last place: from
`low` to `high`, and the ends too if the significand is even. Below a power of two the numbers are twice
as dense. -/
structure Neighbourhood where
  low : Nat
  middle : Nat
  high : Nat
  closed : Bool

def neighbourhood (x : Binary64) : Neighbourhood where
  low := 4 * x.significand - (if x.significand = 1 <<< 52 ∧ x.exponent ≠ leastExponent then 1 else 2)
  middle := 4 * x.significand
  high := 4 * x.significand + 2
  closed := x.significand % 2 = 0

/-- Tells whether the quotient `num / den` lies in a neighbourhood. -/
def Neighbourhood.contains (around : Neighbourhood) (num den : Nat) : Bool :=
  if around.closed then around.low * den ≤ num && num ≤ around.high * den
  else around.low * den < num && num < around.high * den

/-- The point with last place `scale` that reads back as the number and is nearest to it. -/
def onGrid? (tie : Tie) (x : Binary64) (scale : Int) : Option Nat :=
  let around := x.neighbourhood
  -- a point `n` is `n * num / den` quarters of a unit of the last binary place
  let num := Nat.pow 10 scale.toNat <<< (2 - x.exponent).toNat
  let den := Nat.pow 10 (-scale).toNat <<< (x.exponent - 2).toNat
  let below := around.middle * den / num
  let above := below + 1
  let fits (n : Nat) : Bool := around.contains (n * num) den
  let toBelow := around.middle * den - below * num
  let toAbove := above * num - around.middle * den
  let takeAbove :=
    if toBelow = toAbove then
      match tie with
      | .up => true
      | .even => below % 2 == 1
    else decide (toAbove < toBelow)
  if fits below && (!fits above || !takeAbove) then some below
  else if fits above then some above
  else none

/-- The coarsest of `count + 1` grids, each ten times finer than the one before, that has a point of
the neighbourhood; the last grid is taken if none has. -/
def coarsest (tie : Tie) (x : Binary64) : Nat → Int → Decimal
  | 0, scale => ⟨(onGrid? tie x scale).getD 0, scale⟩
  | count + 1, scale =>
    match onGrid? tie x scale with
    | some coefficient => ⟨coefficient, scale⟩
    | none => coarsest tie x count (scale - 1)

/-- A power of ten above the number: `2 ^ 10` is above `10 ^ 3` by less than one part in forty. -/
def decimalBound (x : Binary64) : Int :=
  (x.significand.log2 + 1 + x.exponent) * 30103 / 100000 + 1

/-- The shortest decimal of the magnitude of a number. No number needs more than 17 digits. -/
def shortest (tie : Tie) (x : Binary64) : Decimal :=
  if x.significand = 0 then ⟨0, 0⟩ else coarsest tie x 20 x.decimalBound

end Binary64

end LabelQuery
