/-! Octets written in the base64 alphabet, with padding. -/

namespace JobWatch.Text.Base64

/-- The 64 digits in the order of their values. -/
def alphabet : List Char :=
  "ABCDEFGHIJKLMNOPQRSTUVWXYZabcdefghijklmnopqrstuvwxyz0123456789+/".toList

/-- The digit of a value below 64. -/
def digit (value : Nat) : Char :=
  alphabet.getD value '='

/-- The four digits of 24 bits. -/
def digits (value : Nat) : List Char :=
  [digit (value / 262144), digit (value / 4096 % 64), digit (value / 64 % 64), digit (value % 64)]

/-- Three octets are four digits. Missing octets at the end count as zero, and the digits that
hang on them alone are padding.
-/
def encode : List UInt8 → List Char
  | [] => []
  | [a] => (digits (65536 * a.toNat)).take 2 ++ ['=', '=']
  | [a, b] => (digits (65536 * a.toNat + 256 * b.toNat)).take 3 ++ ['=']
  | a :: b :: c :: rest => digits (65536 * a.toNat + 256 * b.toNat + c.toNat) ++ encode rest

end JobWatch.Text.Base64
