import JobWatch.Number.Binary64
import JobWatch.Number.Decimal

/-! JSON documents as they were written: numbers keep their digits, objects keep the order and the
repetitions of their members, and a document that breaks off keeps what came before.
-/

namespace JobWatch

/-- A number as it was written. An empty fraction stands for no decimal point. -/
structure Json.Numeral where
  negative : Bool
  whole : List (Fin 10)
  fraction : List (Fin 10)
  exponent : Option Int
  deriving DecidableEq, Repr

/-- A JSON value. A key, like a string, is `none` or `garbled` when it is written correctly but
stands for no Unicode text. The flag of a container tells that its closing bracket was reached;
`broken` stands where no value could be read.
-/
inductive Json where
  | null
  | bool (value : Bool)
  | number (numeral : Json.Numeral)
  | string (text : String)
  | garbled
  | array (items : List Json) (closed : Bool)
  | object (members : List (Option String × Json)) (closed : Bool)
  | broken
  deriving Inhabited, Repr

namespace Json

/-- A text read as JSON: the value it starts with, and whether anything but space follows. -/
structure Document where
  value : Json
  trailing : Bool

namespace Numeral

/-- The greatest number of digits that still fit into 64 bits are gathered; the first digit that
does not fit, and all behind it, are only counted.
-/
structure Gathered where
  significand : Nat
  dropped : Nat
  full : Bool

/-- One more digit. -/
def Gathered.push (gathered : Gathered) (digit : Fin 10) : Gathered :=
  let next := 10 * gathered.significand + digit.val
  if gathered.full || UInt64.size ≤ next then
    { gathered with dropped := gathered.dropped + 1, full := true }
  else { gathered with significand := next }

/-- The digits of a run, gathered behind a significand. -/
def gather (significand : Nat) (digits : List (Fin 10)) : Gathered :=
  digits.foldl Gathered.push ⟨significand, 0, false⟩

/-- The numeral has neither a decimal point nor an exponent. -/
def isPlain (numeral : Numeral) : Bool :=
  numeral.fraction.isEmpty && numeral.exponent.isNone

/-- The value of a plain numeral that a 64-bit word can hold. Minus zero is left out: it is a
fraction-bearing number in this respect, and keeps its sign.
-/
def integer? (numeral : Numeral) : Option Int :=
  let magnitude : Int := Number.ofDigits numeral.whole
  if !numeral.isPlain then none
  else if numeral.negative then
    if 0 < magnitude ∧ Int64.minValue.toInt ≤ -magnitude then some (-magnitude) else none
  else if magnitude < UInt64.size then some magnitude else none

/-- The magnitude in binary64 units: the leading digits that fit into 64 bits, times a power of
ten.
-/
def units? (numeral : Numeral) : Option Nat :=
  let whole := gather 0 numeral.whole
  let all := gather whole.significand numeral.fraction
  let places : Int := numeral.fraction.length - all.dropped
  Number.Binary64.ofScaled? all.significand
    (numeral.exponent.getD 0 + whole.dropped - places)

/-- The binary64 number that the numeral is read as, if it is not out of range. -/
def float? (numeral : Numeral) : Option Number.Binary64 :=
  numeral.units?.map fun units => ⟨numeral.negative, units⟩

end Numeral

end Json

end JobWatch
