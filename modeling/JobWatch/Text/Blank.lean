import JobWatch.Text.Split

/-! Blank characters are those with the Unicode property White_Space. Trimming removes them at
either end of a text.
-/

namespace JobWatch.Text

/-- The code point ranges with the property White_Space, in ascending order. -/
def blankRanges : List (Nat × Nat) :=
  [(0x9, 0xD), (0x20, 0x20), (0x85, 0x85), (0xA0, 0xA0), (0x1680, 0x1680),
    (0x2000, 0x200A), (0x2028, 0x2029), (0x202F, 0x202F), (0x205F, 0x205F),
    (0x3000, 0x3000)]

/-- The character has the property White_Space. -/
def isBlank (c : Char) : Bool :=
  blankRanges.any fun range => range.1 ≤ c.toNat && c.toNat ≤ range.2

/-- The text from its first character that is not blank. -/
def trimStart (text : List Char) : List Char :=
  text.dropWhile isBlank

/-- The text up to its last character that is not blank. -/
def trimEnd (text : List Char) : List Char :=
  dropTrailing isBlank text

/-- The text without the blanks at its two ends. -/
def trim (text : List Char) : List Char :=
  trimEnd (trimStart text)

end JobWatch.Text
