import JobWatch.Number.Binary64

/-! A binary64 number is written with the fewest digits that read back as it, and of those with
the digits nearest to it. The digits are set out positionally, without an exponent.
-/

namespace JobWatch.Number

/-- A decimal number: digits times a power of ten. -/
structure Decimal where
  digits : Nat
  exponent : Int
  deriving DecidableEq, Repr

namespace Shortest

/-- The quarter units that a magnitude shares with the numbers which round to it: the two ends of
that interval, and whether the ends belong to it.
-/
structure Interval where
  low : Nat
  high : Nat
  closed : Bool

/-- The numbers that round to a magnitude. Below a power of two the format is twice as dense, and
an end belongs to the neighbour with the even significand.
-/
def interval (units : Nat) : Interval :=
  let step := Binary64.spacing units
  let atPower := units / step = Nat.pow 2 52 ∧ 1 < step
  { low := 4 * units - (if atPower then step else 2 * step)
    high := 4 * units + 2 * step
    closed := units / step % 2 = 0 }

/-- The interval holds a number of quarter units. -/
def Interval.holds (interval : Interval) (quarters : Nat) : Bool :=
  if interval.closed then interval.low ≤ quarters && quarters ≤ interval.high
  else interval.low < quarters && quarters < interval.high

/-- The multiple of a power of ten that lies nearest to a magnitude, if one of the magnitude's two
neighbours on that grid reads back as it.
-/
def onGrid? (units : Nat) (exponent : Int) : Option Decimal :=
  let raise := Nat.pow 10 (-exponent).toNat
  let step := 4 * Binary64.one * Nat.pow 10 exponent.toNat
  let exact := 4 * units * raise
  let readsBack (digits : Nat) : Bool :=
    let bounds := interval units
    Interval.holds ⟨bounds.low * raise, bounds.high * raise, bounds.closed⟩ (digits * step)
  let below := exact / step
  let nearer := if 2 * (exact % step) < step then below else below + 1
  let other := if 2 * (exact % step) < step then below + 1 else below
  if readsBack nearer then some ⟨nearer, exponent⟩
  else if readsBack other then some ⟨other, exponent⟩
  else none

/-- The shortest decimal of a magnitude: the first grid with a hit, from the coarsest. -/
def decimal (units : Nat) : Decimal :=
  let grids := (List.range 633).map fun (i : Nat) => (308 : Int) - i
  (grids.findSome? (onGrid? units)).getD ⟨0, 0⟩

end Shortest

/-- The decimal set out positionally: zeros behind the digits, or a point among or before them. -/
def Decimal.positional (value : Decimal) : String :=
  let digits := Nat.repr value.digits
  match value.exponent with
  | .ofNat zeros => digits ++ "".pushn '0' zeros
  | .negSucc n =>
    let places := n + 1
    let padded := ("".pushn '0' (places + 1 - digits.length) ++ digits).toList
    let split := padded.length - places
    String.ofList (padded.take split ++ '.' :: padded.drop split)

/-- The text of a binary64 number: a minus sign for every negative number, zero included. -/
def Binary64.text (value : Binary64) : String :=
  let magnitude :=
    if value.units = 0 then "0" else (Shortest.decimal value.units).positional
  if value.negative then "-" ++ magnitude else magnitude

end JobWatch.Number
