import JobWatch.Number.Radix
import JobWatch.Text.Split

/-! Tables of characters, written in lines. The rows stand in ascending order, on a line with single
spaces between them. A row is a range of code points in hexadecimal with a note behind it.
-/

namespace JobWatch.Text

/-- A row of a table: the first and the last code point of a range, and what is noted of them. -/
structure CodeRow where
  first : Nat
  last : Nat
  note : List Char
  deriving DecidableEq, Repr

/-- A character belongs to a row. -/
def CodeRow.holds (row : CodeRow) (c : Char) : Bool :=
  row.first ≤ c.toNat && c.toNat ≤ row.last

/-- The code point at the start of a text, and the rest of the text. -/
def takeCode (text : List Char) : Nat × List Char :=
  let isDigit (c : Char) := (Number.digitIn? 16 c).isSome
  ((Number.naturalIn? 16 (text.takeWhile isDigit)).getD 0, text.dropWhile isDigit)

/-- The row that a text describes. A range of a single code point is written once. -/
def CodeRow.ofText (text : List Char) : CodeRow :=
  match takeCode text with
  | (first, '-' :: rest) =>
    let (last, note) := takeCode rest
    ⟨first, last, note⟩
  | (first, note) => ⟨first, first, note⟩

/-- The characters that a note lists, in lists apart by semicolons. -/
def noteLists (note : List Char) : List (List Char) :=
  (split (· == ';') note).map fun list =>
    (split (· == ',') list).map fun code => Char.ofNat (takeCode code).1

/-- Some of all characters, with notes on them. -/
abbrev CodeTable := List CodeRow

namespace CodeTable

/-- The table that lines describe. -/
def ofLines (lines : List String) : CodeTable :=
  lines.flatMap fun line => (split (· == ' ') line.toList).map CodeRow.ofText

/-- The row of a character. -/
def row? (table : CodeTable) (c : Char) : Option CodeRow :=
  table.find? (·.holds c)

/-- What is noted of a character. -/
def note? (table : CodeTable) (c : Char) : Option (List Char) :=
  (table.row? c).map (·.note)

end CodeTable

end JobWatch.Text
