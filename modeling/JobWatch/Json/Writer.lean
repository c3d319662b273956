import JobWatch.Json.Value

/-! A JSON value is written without any space, its numbers with the digits they hold. Only quotes,
backslashes and control characters are escaped in a string, by a letter where there is one.
-/

namespace JobWatch.Json

/-- The lower-case hexadecimal digit of a value below sixteen. -/
def hexDigit (value : Nat) : Char :=
  if value < 10 then Char.ofNat (48 + value) else Char.ofNat (87 + value)

/-- The letter behind a backslash that stands for a character, if it is written in this way. -/
def escapeLetter? : Char → Option Char
  | '"' => some '"'
  | '\\' => some '\\'
  | '\x08' => some 'b'
  | '\x0c' => some 'f'
  | '\n' => some 'n'
  | '\r' => some 'r'
  | '\t' => some 't'
  | _ => none

/-- A character inside a string. -/
def escape (c : Char) : List Char :=
  match escapeLetter? c with
  | some letter => ['\\', letter]
  | none =>
    if c.toNat < 0x20 then
      ['\\', 'u', '0', '0', hexDigit (c.toNat / 16), hexDigit (c.toNat % 16)]
    else [c]

/-- A string between its quotes. -/
def quote (text : String) : List Char :=
  '"' :: text.toList.flatMap escape ++ ['"']

/-- A number as it was written. -/
def Numeral.text (numeral : Numeral) : List Char :=
  (if numeral.negative then ['-'] else [])
    ++ numeral.whole.map Number.digitChar
    ++ (if numeral.fraction.isEmpty then [] else '.' :: numeral.fraction.map Number.digitChar)
    ++ (match numeral.exponent with
      | some exponent => 'e' :: Number.signed exponent
      | none => [])

/-- The numeral of an integer. -/
def Numeral.ofInt : Int → Numeral
  | .ofNat value => ⟨false, Number.toDigits value, [], none⟩
  | .negSucc value => ⟨true, Number.toDigits (value + 1), [], none⟩

/-- The number that an integer is. -/
def ofInt (value : Int) : Json :=
  .number (.ofInt value)

/-- A value that may be absent. -/
def orNull (value : Option Json) : Json :=
  value.getD .null

/-- An object whose members all have names. -/
def record (members : List (String × Json)) : Json :=
  .object (members.map fun member => (some member.1, member.2)) true

/-- Texts with a comma between any two. -/
def joined (texts : List (List Char)) : List Char :=
  List.intercalate [','] texts

mutual

/-- The text of a value. What a document left out or garbled is written as null. -/
def text : Json → List Char
  | .null | .garbled | .broken => "null".toList
  | .bool true => "true".toList
  | .bool false => "false".toList
  | .number numeral => numeral.text
  | .string text => quote text
  | .array items _ => '[' :: joined (itemTexts items) ++ [']']
  | .object members _ => '{' :: joined (memberTexts members) ++ ['}']

/-- The texts of the items of an array. -/
def itemTexts : List Json → List (List Char)
  | [] => []
  | item :: items => item.text :: itemTexts items

/-- The texts of the members of an object: key, colon, value. -/
def memberTexts : List (Option String × Json) → List (List Char)
  | [] => []
  | (key, value) :: members =>
    (quote (key.getD "") ++ ':' :: value.text) :: memberTexts members

end

/-- The text of a value as a string. -/
def render (value : Json) : String :=
  String.ofList value.text

end JobWatch.Json
