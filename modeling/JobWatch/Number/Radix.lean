/-! Natural numbers in bases up to sixteen. -/

namespace JobWatch.Number

/-- The value of a digit in a base of up to sixteen. Letters count in either case. -/
def digitIn? (base : Nat) (c : Char) : Option Nat :=
  let value? :=
    if '0' ≤ c ∧ c ≤ '9' then some (c.toNat - 48)
    else if 'a' ≤ c ∧ c ≤ 'f' then some (c.toNat - 87)
    else if 'A' ≤ c ∧ c ≤ 'F' then some (c.toNat - 55)
    else none
  value?.filter (· < base)

/-- The number that digits in a base stand for. No digits stand for zero. -/
def naturalIn? (base : Nat) (text : List Char) : Option Nat :=
  (text.mapM (digitIn? base)).map fun values =>
    values.foldl (fun number value => base * number + value) 0

/-- A number in hexadecimal, with lower-case letters and no needless zeros. -/
def hexadecimal (value : Nat) : List Char :=
  Nat.toDigits 16 value

end JobWatch.Number
