/-! Integers written in decimal with ASCII digits, and the words that hold them. -/

namespace JobWatch.Number

/-- The value of an ASCII digit. -/
def digit? (c : Char) : Option (Fin 10) :=
  if h : '0' ≤ c ∧ c ≤ '9' then
    some ⟨c.toNat - 48, by
      have hc : c.toNat ≤ 57 := h.2
      omega⟩
  else none

/-- The ASCII character of a digit. -/
def digitChar (digit : Fin 10) : Char :=
  Char.ofNat (48 + digit.val)

/-- The number that digits spell, most significant first. -/
def ofDigits (digits : List (Fin 10)) : Nat :=
  digits.foldl (fun value digit => 10 * value + digit.val) 0

/-- The number that a text of one or more digits spells. Leading zeros count for nothing. -/
def natural? (text : List Char) : Option Nat :=
  match text.mapM digit? with
  | some (first :: rest) => some (ofDigits (first :: rest))
  | _ => none

/-- The number that a text of digits spells, after a plus sign if there is one. -/
def unsigned? : List Char → Option Nat
  | '+' :: digits => natural? digits
  | digits => natural? digits

/-- The number that a text of digits spells, after one sign if there is one. -/
def signed? : List Char → Option Int
  | '+' :: digits => (natural? digits).map Int.ofNat
  | '-' :: digits => (natural? digits).map fun value => -Int.ofNat value
  | digits => (natural? digits).map Int.ofNat

/-- The digits of a number, most significant first and without leading zeros. -/
def toDigits (value : Nat) : List (Fin 10) :=
  if value < 10 then [Fin.ofNat 10 value]
  else toDigits (value / 10) ++ [Fin.ofNat 10 value]
termination_by value

/-- The text of a natural number. -/
def natural (value : Nat) : List Char :=
  (toDigits value).map digitChar

/-- The text of an integer: a minus sign stands before a negative one. -/
def signed : Int → List Char
  | .ofNat value => natural value
  | .negSucc value => '-' :: natural (value + 1)

/-- The signed 64-bit word of a value, if it has one. -/
def int64? (value : Int) : Option Int64 :=
  if Int64.minValue.toInt ≤ value ∧ value ≤ Int64.maxValue.toInt then some (Int64.ofInt value)
  else none

/-- The unsigned 32-bit word of a value, if it has one. -/
def uint32? (value : Int) : Option UInt32 :=
  if 0 ≤ value ∧ value < UInt32.size then some (UInt32.ofNat value.toNat) else none

/-- The unsigned 64-bit word of a value, if it has one. -/
def uint64? (value : Nat) : Option UInt64 :=
  if value < UInt64.size then some (UInt64.ofNat value) else none

end JobWatch.Number
