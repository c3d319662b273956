import JobWatch.Number.Radix
import JobWatch.Text.Utf8

/-! Percent-encoding: an octet is written as a percent sign and two hexadecimal digits. -/

namespace JobWatch.Http.Percent

/-- The upper-case hexadecimal digit of a value below sixteen. -/
def hexDigit (value : Nat) : Char :=
  if value < 10 then Char.ofNat (48 + value) else Char.ofNat (55 + value)

/-- An octet, encoded. -/
def octet (octet : UInt8) : List Char :=
  ['%', hexDigit (octet.toNat / 16), hexDigit (octet.toNat % 16)]

/-- A text with the octets of every character that is not kept encoded. -/
def encode (keep : Char → Bool) (text : List Char) : List Char :=
  text.flatMap fun c => if keep c then [c] else (String.utf8EncodeChar c).flatMap octet

/-- The value of an octet that is a hexadecimal digit. -/
def hexValue? (octet : UInt8) : Option Nat :=
  Number.digitIn? 16 (Char.ofNat octet.toNat)

/-- The octets that a text with encoded octets stands for. A percent sign that no two hexadecimal
digits follow stands for itself.
-/
def decode : List UInt8 → List UInt8
  | 0x25 :: high :: low :: rest =>
    match hexValue? high, hexValue? low with
    | some h, some l => UInt8.ofNat (16 * h + l) :: decode rest
    | _, _ => 0x25 :: decode (high :: low :: rest)
  | b :: rest => b :: decode rest
  | [] => []

end JobWatch.Http.Percent
