import JobWatch.Text.Utf8

/-! Octets are read as UTF-16 in either byte order, with U+FFFD for every unit that belongs to no
character.
-/

namespace JobWatch.Text.Utf16

/-- Which octet of a unit comes first. -/
inductive ByteOrder where
  | littleEndian
  | bigEndian

/-- The unit is the first half of a surrogate pair. -/
def isHigh (unit : Nat) : Bool :=
  0xD800 ≤ unit && unit < 0xDC00

/-- The unit is the second half of a surrogate pair. -/
def isLow (unit : Nat) : Bool :=
  0xDC00 ≤ unit && unit < 0xE000

/-- The character that a surrogate pair stands for. -/
def pair (high low : Nat) : Char :=
  Char.ofNat (0x10000 + (high - 0xD800) * 0x400 + (low - 0xDC00))

/-- The units of an octet sequence; `none` stands for an octet left over at the end. -/
def units (order : ByteOrder) : List UInt8 → List (Option Nat)
  | [] => []
  | [_] => [none]
  | a :: b :: rest =>
    some
      (match order with
        | .littleEndian => a.toNat + 256 * b.toNat
        | .bigEndian => 256 * a.toNat + b.toNat)
      :: units order rest

/-- The text of a unit sequence, after an unpaired first half if there is one. A first half that
ends the sequence is one replaced character, also with an octet left over behind it.
-/
def characters : Option Nat → List (Option Nat) → List Char
  | none, [] => []
  | some _, [] => [Utf8.replacement]
  | _, none :: _ => [Utf8.replacement]
  | none, some unit :: rest =>
    if isHigh unit then characters (some unit) rest
    else if isLow unit then Utf8.replacement :: characters none rest
    else Char.ofNat unit :: characters none rest
  | some high, some unit :: rest =>
    if isLow unit then pair high unit :: characters none rest
    else if isHigh unit then Utf8.replacement :: characters (some unit) rest
    else Utf8.replacement :: Char.ofNat unit :: characters none rest

/-- The text of an octet sequence, with each stray unit replaced. -/
def decodeLossy (order : ByteOrder) (octets : List UInt8) : List Char :=
  characters none (units order octets)

end JobWatch.Text.Utf16
