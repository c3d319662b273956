/-! Punycode: a text is written in letters, digits and hyphens. The plain characters come first, and
behind a hyphen a row of numbers tells which other character goes where. The numbers are distances
on the way through all places for all characters, in ascending order of the characters.
-/

namespace JobWatch.Domain.Punycode

-----------------------------------------------------------------------
-- Digits
-----------------------------------------------------------------------

/-- The digit of a value below 36: letters, and then the ten numerals. -/
def digitChar (value : Nat) : Char :=
  if value < 26 then Char.ofNat (97 + value) else Char.ofNat (22 + value)

/-- The value of a digit. -/
def digit? (c : Char) : Option Nat :=
  if 'a' ≤ c ∧ c ≤ 'z' then some (c.toNat - 97)
  else if 'A' ≤ c ∧ c ≤ 'Z' then some (c.toNat - 65)
  else if '0' ≤ c ∧ c ≤ '9' then some (c.toNat - 22)
  else none

/-- The least value of a digit at a place that is not the last digit of its number. Places are
counted in steps of 36.
-/
def threshold (bias place : Nat) : Nat :=
  min 26 (max 1 (place - bias))

/-- The bias for numbers of a size, counted from the number of times it was divided by 35. -/
def biasOf (size : Nat) : Nat :=
  if 455 < size then 36 + biasOf (size / 35) else 36 * size / (size + 38)
termination_by size

/-- The bias behind a distance, where so many characters are placed by then. -/
def adapt (distance placed : Nat) (isFirst : Bool) : Nat :=
  let size := if isFirst then distance / 700 else distance / 2
  biasOf (size + size / placed)

/-- The digits of a number from a place on, the last digit of the number last. -/
def number (bias place value : Nat) : List Char :=
  let least := threshold bias place
  if value < least then [digitChar value]
  else
    digitChar (least + (value - least) % (36 - least))
      :: number bias (place + 36) ((value - least) / (36 - least))
termination_by value
decreasing_by
  have h : 1 ≤ threshold bias place := by simp only [threshold]; omega
  exact Nat.lt_of_le_of_lt (Nat.div_le_self _ _) (by omega)

-----------------------------------------------------------------------
-- Writing
-----------------------------------------------------------------------

/-- A plain character. -/
def isPlain (c : Char) : Bool :=
  c.toNat < 0x80

/-- A text under way: the digits so far, the distance since the last character that was placed, how
many are placed, and the bias.
-/
structure Writer where
  digits : List Char
  distance : Nat
  placed : Nat
  bias : Nat
  isFirst : Bool

namespace Writer

/-- Past one character of the text, when the characters of one code point are placed. -/
def pass (code : Nat) (writer : Writer) (c : Char) : Writer :=
  if c.toNat < code then { writer with distance := writer.distance + 1 }
  else if c.toNat = code then
    { digits := writer.digits ++ number writer.bias 36 writer.distance
      distance := 0
      placed := writer.placed + 1
      bias := adapt writer.distance (writer.placed + 1) writer.isFirst
      isFirst := false }
  else writer

/-- Through the code points of a text in ascending order, from one on. -/
def place (text : List Char) (writer : Writer) (from_ : Nat) : List Nat → Writer
  | [] => writer
  | code :: codes =>
    let arrived :=
      { writer with distance := writer.distance + (code - from_) * (writer.placed + 1) }
    let passed := text.foldl (pass code) arrived
    place text { passed with distance := passed.distance + 1 } (code + 1) codes

end Writer

/-- A text in punycode. -/
def encode (text : List Char) : List Char :=
  let plain := text.filter isPlain
  let codes := ((text.filter (!isPlain ·)).map Char.toNat).mergeSort.eraseDups
  (if plain.isEmpty then [] else plain ++ ['-'])
    ++ (Writer.place text ⟨[], 0, plain.length, 72, true⟩ 0x80 codes).digits

-----------------------------------------------------------------------
-- Reading
-----------------------------------------------------------------------

/-- A text under way: its characters so far, the code point and the place that were reached, the
bias, and of the number under way its value, the next place and that place's weight.
-/
structure Reader where
  text : List Char
  code : Nat
  index : Nat
  bias : Nat
  isFirst : Bool
  distance : Nat
  place : Nat
  weight : Nat

namespace Reader

/-- The reader behind the plain characters. -/
def start (plain : List Char) : Reader :=
  ⟨plain, 0x80, 0, 72, true, 0, 36, 1⟩

/-- The number that has ended puts a character into the text. -/
def put? (reader : Reader) (distance : Nat) : Option Reader :=
  let size := reader.text.length + 1
  let code := reader.code + (reader.index + distance) / size
  let index := (reader.index + distance) % size
  if code.isValidChar then
    some
      { text := reader.text.insertIdx index (Char.ofNat code)
        code, index := index + 1
        bias := adapt distance size reader.isFirst
        isFirst := false
        distance := 0, place := 36, weight := 1 }
  else none

/-- One more digit. -/
def step? (reader : Reader) (c : Char) : Option Reader :=
  (digit? c).bind fun digit =>
    let least := threshold reader.bias reader.place
    let distance := reader.distance + digit * reader.weight
    if digit < least then reader.put? distance
    else
      some
        { reader with
          distance
          place := reader.place + 36
          weight := reader.weight * (36 - least) }

end Reader

/-- The text that is written in punycode. No number may be left under way. -/
def decode? (written : List Char) : Option (List Char) :=
  let digits := (written.reverse.takeWhile (· != '-')).reverse
  let plain := written.take (written.length - digits.length - 1)
  (digits.foldlM Reader.step? (Reader.start plain)).bind fun reader =>
    if reader.place = 36 then some reader.text else none

end JobWatch.Domain.Punycode
