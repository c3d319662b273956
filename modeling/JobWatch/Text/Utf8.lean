/-! Octets are read as UTF-8 one maximal piece at a time: a piece is a character, or a stretch
of octets that encodes none. Reading never fails; callers decide what a bad piece means.
-/

namespace JobWatch.Text.Utf8

/-- A character begun but not finished: how many more octets it needs, the bounds of the next
one, and the value gathered so far.
-/
structure Pending where
  owed : Nat
  low : Nat
  high : Nat
  value : Nat

/-- What an octet means between two characters. -/
inductive Lead where
  | whole (c : Char)
  | more (pending : Pending)
  | bad

/-- An octet between two characters. The bounds on the second octet leave out overlong forms,
surrogates and values past U+10FFFF.
-/
def lead (octet : UInt8) : Lead :=
  let b := octet.toNat
  if b < 0x80 then .whole (Char.ofNat b)
  else if b < 0xC2 then .bad
  else if b < 0xE0 then .more ⟨1, 0x80, 0xBF, b - 0xC0⟩
  else if b < 0xF0 then
    .more ⟨2, if b = 0xE0 then 0xA0 else 0x80, if b = 0xED then 0x9F else 0xBF, b - 0xE0⟩
  else if b < 0xF5 then
    .more ⟨3, if b = 0xF0 then 0x90 else 0x80, if b = 0xF4 then 0x8F else 0xBF, b - 0xF0⟩
  else .bad

/-- An octet inside a character: the finished character, what is still owed, or an octet that
cannot stand there.
-/
def Pending.take (pending : Pending) (octet : UInt8) : Lead :=
  let b := octet.toNat
  if pending.low ≤ b ∧ b ≤ pending.high then
    let value := pending.value * 64 + (b - 0x80)
    if pending.owed = 1 then .whole (Char.ofNat value)
    else .more ⟨pending.owed - 1, 0x80, 0xBF, value⟩
  else .bad

/-- Where reading goes on after an octet, given the pieces of what follows it. -/
def Lead.resume (lead : Lead) (next : Option Pending → List (Option Char))
    : List (Option Char) :=
  match lead with
  | .whole c => some c :: next none
  | .more pending => next (some pending)
  | .bad => none :: next none

/-- The pieces of an octet sequence, after an unfinished character if there is one. An octet that
cannot continue that character ends it as a bad piece and is read again as a lead.
-/
def pieces : Option Pending → List UInt8 → List (Option Char)
  | none, [] => []
  | some _, [] => [none]
  | none, b :: rest => (lead b).resume (pieces · rest)
  | some pending, b :: rest =>
    match pending.take b with
    | .bad => none :: (lead b).resume (pieces · rest)
    | taken => taken.resume (pieces · rest)

/-- The pieces of an octet sequence: its characters, and `none` for each stretch that encodes
none.
-/
def decode (octets : List UInt8) : List (Option Char) :=
  pieces none octets

/-- U+FFFD, which stands for a stretch that encodes no character. -/
def replacement : Char :=
  Char.ofNat 0xFFFD

/-- The text of an octet sequence, with each bad stretch replaced. -/
def decodeLossy (octets : List UInt8) : List Char :=
  (decode octets).map (·.getD replacement)

/-- The text of an octet sequence, if every octet belongs to a character. -/
def decode? (octets : List UInt8) : Option (List Char) :=
  (decode octets).mapM id

/-- The octets of a text. -/
def encode (text : List Char) : List UInt8 :=
  text.flatMap String.utf8EncodeChar

end JobWatch.Text.Utf8
