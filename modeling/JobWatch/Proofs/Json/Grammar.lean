import JobWatch.Json.Value
import JobWatch.Text.Utf16

/-! The grammar of JSON texts, and which value a text spells. It says nothing about how a text is
read.
-/

namespace JobWatch.Json

-----------------------------------------------------------------------
-- Space
-----------------------------------------------------------------------

/-- The characters that may stand between tokens. -/
def IsSpace (c : Char) : Prop :=
  c = ' ' ∨ c = '\t' ∨ c = '\n' ∨ c = '\r'

/-- A text of space only, or no text at all. -/
def IsBlankText (text : List Char) : Prop :=
  ∀ c ∈ text, IsSpace c

theorem isBlankText_nil : IsBlankText [] :=
  fun _ member => nomatch member

-----------------------------------------------------------------------
-- Numbers
-----------------------------------------------------------------------

/-- The whole digits of a number: a single zero, or digits of which the first one is not zero. -/
def IsWhole : List (Fin 10) → Prop
  | [] => False
  | [_] => True
  | first :: _ :: _ => 0 < first.val

/-- The characters of some digits. -/
def digitText (digits : List (Fin 10)) : List Char :=
  digits.map Number.digitChar

/-- The spelling of a fraction: a point and some digits, or nothing. -/
def fractionText (digits : List (Fin 10)) : List Char :=
  if digits.isEmpty then [] else '.' :: digitText digits

/-- The spellings of an exponent: a mark in either case, a sign that need not be there, and some
digits; or nothing.
-/
inductive SpellsExponent : List Char → Option Int → Prop
  | absent : SpellsExponent [] none
  | unsigned {mark first digits} (marks : mark = 'e' ∨ mark = 'E')
    : SpellsExponent (mark :: digitText (first :: digits))
        (some (Number.ofDigits (first :: digits)))
  | plus {mark first digits} (marks : mark = 'e' ∨ mark = 'E')
    : SpellsExponent (mark :: '+' :: digitText (first :: digits))
        (some (Number.ofDigits (first :: digits)))
  | minus {mark first digits} (marks : mark = 'e' ∨ mark = 'E')
    : SpellsExponent (mark :: '-' :: digitText (first :: digits))
        (some (-Number.ofDigits (first :: digits)))

/-- The sign of a number, of which only minus is written. -/
def signText (negative : Bool) : List Char :=
  if negative then ['-'] else []

/-- The spellings of a number. -/
def SpellsNumeral (text : List Char) (numeral : Numeral) : Prop :=
  IsWhole numeral.whole
  ∧ ∃ exponent,
      SpellsExponent exponent numeral.exponent
      ∧ text
        = signText numeral.negative ++ digitText numeral.whole ++ fractionText numeral.fraction
          ++ exponent

-----------------------------------------------------------------------
-- Strings
-----------------------------------------------------------------------

/-- A piece of a string: a character, or the number of a UTF-16 unit. -/
inductive Piece where
  | char (c : Char)
  | unit (code : Nat)

/-- The letters behind a backslash that stand for a character. -/
inductive SpellsEscape : Char → Char → Prop
  | quote : SpellsEscape '"' '"'
  | backslash : SpellsEscape '\\' '\\'
  | slash : SpellsEscape '/' '/'
  | backspace : SpellsEscape 'b' '\x08'
  | formFeed : SpellsEscape 'f' '\x0c'
  | lineFeed : SpellsEscape 'n' '\n'
  | carriageReturn : SpellsEscape 'r' '\r'
  | tab : SpellsEscape 't' '\t'

/-- The hexadecimal digits, in either case. -/
inductive SpellsHex : Char → Nat → Prop
  | decimal {c} (low : '0' ≤ c) (high : c ≤ '9') : SpellsHex c (c.toNat - 48)
  | lower {c} (low : 'a' ≤ c) (high : c ≤ 'f') : SpellsHex c (c.toNat - 87)
  | upper {c} (low : 'A' ≤ c) (high : c ≤ 'F') : SpellsHex c (c.toNat - 55)

/-- The spellings of a string between its quotation marks. -/
inductive SpellsPieces : List Char → List Piece → Prop
  | nil : SpellsPieces [] []
  | literal {c text pieces} (noQuote : c ≠ '"') (noBackslash : c ≠ '\\')
    (noControl : 0x20 ≤ c.toNat) (rest : SpellsPieces text pieces)
    : SpellsPieces (c :: text) (.char c :: pieces)
  | escape {letter meant text pieces} (escape : SpellsEscape letter meant)
    (rest : SpellsPieces text pieces)
    : SpellsPieces ('\\' :: letter :: text) (.char meant :: pieces)
  | unit {a b c d : Char} {first second third fourth : Nat} {text pieces}
    (firstDigit : SpellsHex a first) (secondDigit : SpellsHex b second)
    (thirdDigit : SpellsHex c third) (fourthDigit : SpellsHex d fourth)
    (rest : SpellsPieces text pieces)
    : SpellsPieces ('\\' :: 'u' :: a :: b :: c :: d :: text)
        (.unit (((first * 16 + second) * 16 + third) * 16 + fourth) :: pieces)

/-- The text that pieces make up. Units have to be characters, or surrogates in pairs. -/
def textOf? : List Piece → Option (List Char)
  | [] => some []
  | .char c :: rest => (textOf? rest).map (c :: ·)
  | .unit high :: .unit low :: rest =>
      if Text.Utf16.isHigh high then
        if Text.Utf16.isLow low then (textOf? rest).map (Text.Utf16.pair high low :: ·) else none
      else if Text.Utf16.isLow high then none
      else (textOf? (.unit low :: rest)).map (Char.ofNat high :: ·)
  | .unit code :: rest =>
      if Text.Utf16.isHigh code || Text.Utf16.isLow code then none
      else (textOf? rest).map (Char.ofNat code :: ·)

/-- The string that pieces make up, if they make up any. -/
def stringOf? (pieces : List Piece) : Option String :=
  (textOf? pieces).map String.ofList

/-- The value of a string. -/
def ofString? : Option String → Json
  | some text => .string text
  | none => .garbled

-----------------------------------------------------------------------
-- Values
-----------------------------------------------------------------------

/-- What a text may spell: a value, the items of an array, a member of an object, or all of them. -/
inductive Part where
  | value (value : Json)
  | items (items : List Json)
  | member (member : Option String × Json)
  | members (members : List (Option String × Json))

/-- The spellings of values and of their parts. -/
inductive Spells : List Char → Part → Prop
  | null : Spells "null".toList (.value .null)
  | true : Spells "true".toList (.value (.bool true))
  | false : Spells "false".toList (.value (.bool false))
  | number {text numeral} (spelled : SpellsNumeral text numeral)
    : Spells text (.value (.number numeral))
  | string {text pieces} (spelled : SpellsPieces text pieces)
    : Spells ('"' :: text ++ ['"']) (.value (ofString? (stringOf? pieces)))
  | emptyArray {space} (blank : IsBlankText space)
    : Spells ('[' :: space ++ [']']) (.value (.array [] true))
  | array {text items} (content : Spells text (.items items))
    : Spells ('[' :: text ++ [']']) (.value (.array items true))
  | emptyObject {space} (blank : IsBlankText space)
    : Spells ('{' :: space ++ ['}']) (.value (.object [] true))
  | object {text members} (content : Spells text (.members members))
    : Spells ('{' :: text ++ ['}']) (.value (.object members true))
  | lastItem {left text right item} (leftBlank : IsBlankText left) (rightBlank : IsBlankText right)
    (spelled : Spells text (.value item))
    : Spells (left ++ text ++ right) (.items [item])
  | moreItems {left text right rest item items} (leftBlank : IsBlankText left)
    (rightBlank : IsBlankText right) (spelled : Spells text (.value item))
    (others : Spells rest (.items items))
    : Spells (left ++ text ++ right ++ ',' :: rest) (.items (item :: items))
  | member {key pieces left right text value} (spelledKey : SpellsPieces key pieces)
    (leftBlank : IsBlankText left) (rightBlank : IsBlankText right)
    (spelled : Spells text (.value value))
    : Spells ('"' :: key ++ '"' :: (left ++ ':' :: (right ++ text)))
        (.member (stringOf? pieces, value))
  | lastMember {left text right member} (leftBlank : IsBlankText left)
    (rightBlank : IsBlankText right) (spelled : Spells text (.member member))
    : Spells (left ++ text ++ right) (.members [member])
  | moreMembers {left text right rest member members} (leftBlank : IsBlankText left)
    (rightBlank : IsBlankText right) (spelled : Spells text (.member member))
    (others : Spells rest (.members members))
    : Spells (left ++ text ++ right ++ ',' :: rest) (.members (member :: members))

/-- A JSON text: a value with space around it. -/
def IsTextOf (text : List Char) (value : Json) : Prop :=
  ∃ left body right,
    IsBlankText left ∧ Spells body (.value value) ∧ IsBlankText right ∧ text = left ++ body ++ right

-----------------------------------------------------------------------
-- Plain strings
-----------------------------------------------------------------------

/-- A text that needs no escapes. -/
def IsPlainText (text : List Char) : Prop :=
  ∀ c ∈ text, c ≠ '"' ∧ c ≠ '\\' ∧ 0x20 ≤ c.toNat

/-- A plain text spells its own characters, by induction on it. -/
theorem spellsPieces_plain {text : List Char} (plain : IsPlainText text)
    : SpellsPieces text (text.map .char) := by
  induction text with
  | nil => exact .nil
  | cons c rest ih =>
      obtain ⟨noQuote, noBackslash, noControl⟩ := plain c List.mem_cons_self
      exact .literal noQuote noBackslash noControl
        (ih fun d member => plain d (List.mem_cons_of_mem _ member))

/-- Characters make up the text that they are. -/
theorem stringOf?_chars (text : List Char)
    : stringOf? (text.map .char) = some (String.ofList text) := by
  have same : textOf? (text.map .char) = some text := by
    induction text with
    | nil => rfl
    | cons c rest ih => rw [List.map_cons, textOf?, ih, Option.map_some]
  rw [stringOf?, same, Option.map_some]

/-- A plain text between quotation marks spells itself. -/
theorem spells_plain (text : List Char) (plain : IsPlainText text)
    : Spells ('"' :: text ++ ['"']) (.value (.string (String.ofList text))) := by
  have spelled := Spells.string (spellsPieces_plain plain)
  rwa [stringOf?_chars] at spelled

/-- A value behind a plain key and a colon is a member of that name. -/
theorem spells_member (key : List Char) (plain : IsPlainText key) {text : List Char} {value : Json}
    (spelled : Spells text (.value value))
    : Spells ('"' :: key ++ '"' :: ':' :: text) (.member (some (String.ofList key), value)) := by
  have member := Spells.member (spellsPieces_plain plain) isBlankText_nil isBlankText_nil spelled
  rwa [stringOf?_chars] at member

end JobWatch.Json
