/-! Finite numbers of the format binary64. Every one of them is a whole multiple of 2⁻¹⁰⁷⁴, so a
magnitude is held as that multiple, and arithmetic on it is exact until it is rounded.
-/

namespace JobWatch.Number

/-- A finite binary64 number: its sign, and its magnitude in units of 2⁻¹⁰⁷⁴. Zero has both
signs.
-/
structure Binary64 where
  negative : Bool
  units : Nat
  deriving DecidableEq, Repr

namespace Binary64

/-- How many units make one. -/
def one : Nat :=
  Nat.pow 2 1074

/-- The least magnitude, in units, that the format cannot hold. -/
def limit : Nat :=
  Nat.pow 2 2098

/-- The distance of the format's numbers near a magnitude: 53 significant bits, and never below
one unit.
-/
def spacing (units : Nat) : Nat :=
  Nat.pow 2 (units.log2 - 52)

/-- The quotient rounded to the nearest whole number, a tie to the even one. -/
def divideToEven (numerator denominator : Nat) : Nat :=
  let lower := numerator / denominator
  let twice := 2 * (numerator % denominator)
  if denominator < twice ∨ twice = denominator ∧ lower % 2 = 1 then lower + 1 else lower

/-- The magnitude nearest to a quotient of units, a tie to the even one. -/
def round (numerator denominator : Nat) : Nat :=
  let step := spacing (numerator / denominator)
  divideToEven numerator (denominator * step) * step

/-- The magnitude nearest to a natural number. -/
def ofNat (value : Nat) : Nat :=
  round (value * one) 1

/-- The magnitude nearest to a power of ten. -/
def powerOfTen (exponent : Nat) : Nat :=
  ofNat (Nat.pow 10 exponent)

/-- The magnitude nearest to a product. -/
def multiply (left right : Nat) : Nat :=
  round (left * right) one

/-- The magnitude nearest to a quotient. -/
def divide (left right : Nat) : Nat :=
  round (left * one) right

/-- The magnitude divided by a power of ten, at most 10³⁰⁸ at a time. A magnitude that has become
zero stays zero.
-/
def scaleDown (units exponent : Nat) : Nat :=
  if exponent ≤ 308 then divide units (powerOfTen exponent)
  else if units = 0 then 0
  else scaleDown (divide units (powerOfTen 308)) (exponent - 308)
termination_by exponent

/-- The magnitude multiplied by a power of ten, if the format can hold it. -/
def scaleUp? (units exponent : Nat) : Option Nat :=
  if units = 0 then some 0
  else if exponent ≤ 308 then
    let scaled := multiply units (powerOfTen exponent)
    if scaled < limit then some scaled else none
  else none

/-- A significand times a power of ten. The significand and the power are rounded before they are
combined, so the result can be a neighbour of the number nearest to the exact product.
-/
def ofScaled? (significand : Nat) : Int → Option Nat
  | .ofNat exponent => scaleUp? (ofNat significand) exponent
  | .negSucc exponent => some (scaleDown (ofNat significand) (exponent + 1))

/-- The number has no fractional part. -/
def isWhole (value : Binary64) : Bool :=
  value.units % one == 0

/-- The number without its fractional part. -/
def truncate (value : Binary64) : Int :=
  let magnitude : Int := (value.units / one : Nat)
  if value.negative then -magnitude else magnitude

/-- The 64 bits of the interchange format: sign, biased exponent, fraction. -/
def bits (value : Binary64) : Nat :=
  let exponent := value.units.log2
  let magnitude :=
    if exponent < 52 then value.units
    else (exponent - 52) * Nat.pow 2 52 + value.units / spacing value.units
  if value.negative then Nat.pow 2 63 + magnitude else magnitude

end Binary64

end JobWatch.Number
