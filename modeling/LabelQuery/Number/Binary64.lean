/-!
Binary floating-point numbers of 64 bits and the reading of decimals as the nearest of them. All
arithmetic is exact, on natural numbers; a decimal halfway between two numbers goes to the one with the
even significand.
-/
namespace LabelQuery

/-- A finite number `± significand * 2 ^ exponent`: the significand has 53 bits unless the exponent is
the least one, -1074. -/
structure Binary64 where
  negative : Bool
  significand : Nat
  exponent : Int
  deriving DecidableEq, Repr

namespace Binary64

/-- The least exponent, at which significands may be short. -/
def leastExponent : Int := -1074

def greatestExponent : Int := 971

/-- The integer nearest to `num / den`, the even one of two. -/
def roundDiv (num den : Nat) : Nat :=
  let floor := num / den
  let twiceRest := 2 * (num % den)
  if twiceRest < den then floor
  else if den < twiceRest then floor + 1
  else floor + floor % 2

/-- The greatest power of two at or below the positive quotient `num / den`. -/
def binaryOrder (num den : Nat) : Int :=
  let high : Int := num.log2 - den.log2
  if den <<< high.toNat ≤ num <<< (-high).toNat then high else high - 1

/-- The number nearest to `± num / den`, unless that lies beyond all finite numbers. -/
def nearest? (negative : Bool) (num den : Nat) : Option Binary64 :=
  if num = 0 then some ⟨negative, 0, leastExponent⟩
  else
    let exponent := max (binaryOrder num den - 52) leastExponent
    let significand := roundDiv (num <<< (-exponent).toNat) (den <<< exponent.toNat)
    let rounded : Binary64 :=
      if significand = 1 <<< 53 then ⟨negative, 1 <<< 52, exponent + 1⟩
      else ⟨negative, significand, exponent⟩
    if rounded.exponent ≤ greatestExponent then some rounded else none

/-- Beyond this many places to the left of the point a decimal is beyond all finite numbers. -/
def mostPlaces : Int := 310

/-- From this many zeros behind the point on a decimal is nearest to zero. -/
def leastPlaces : Int := -330

/-- The number nearest to `± coefficient * 10 ^ scale`, unless that lies beyond all finite numbers.
Decimals that are clearly too great or too small are settled by counting their places. -/
def ofDecimal? (negative : Bool) (coefficient : Nat) (scale : Int) : Option Binary64 :=
  let places := (Nat.toDigits 10 coefficient).length + scale
  if coefficient = 0 ∨ places < leastPlaces then some ⟨negative, 0, leastExponent⟩
  else if mostPlaces < places then none
  else nearest? negative (coefficient * Nat.pow 10 scale.toNat) (Nat.pow 10 (-scale).toNat)

def floorMagnitude (x : Binary64) : Nat :=
  x.significand <<< x.exponent.toNat >>> (-x.exponent).toNat

def isWhole (x : Binary64) : Bool :=
  x.floorMagnitude <<< (-x.exponent).toNat == x.significand <<< x.exponent.toNat

/-- The integer part, the sign kept. -/
def truncate (x : Binary64) : Int :=
  if x.negative then -(x.floorMagnitude : Int) else x.floorMagnitude

end Binary64

/-- A floating-point number, or what stands for one that is not finite. -/
inductive Double
  | finite (value : Binary64)
  | infinite (negative : Bool)
  | nan
  deriving DecidableEq, Repr

/-- The nearest number that a counter with `limit` values holds: parts below one are dropped, and what
is no natural number or too great goes to the nearest end. -/
def Double.saturate (limit : Nat) : Double → Nat
  | .finite value => min value.truncate.toNat (limit - 1)
  | .infinite negative => if negative then 0 else limit - 1
  | .nan => 0

end LabelQuery
