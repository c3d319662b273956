import JobWatch.Output.Entry
import JobWatch.Text.Split

/-! A server may merge consecutive lines of one context into a single entry. Decompaction gives
every line an entry of its own, with the context it came in.
-/

namespace JobWatch.Output

namespace Lines

/-- A line without the carriage returns at its end. -/
def dropReturns (line : List Char) : List Char :=
  Text.dropTrailing (· == '\r') line

/-- The lines of a text, without the empty ones at its end. A text has at least one line. -/
def ofText (text : List Char) : List (List Char) :=
  let parts := (Text.split (· == '\n') text).map dropReturns
  match Text.dropTrailing List.isEmpty parts with
  | [] => [[]]
  | lines => lines

end Lines

/-- The entries of the single lines of an entry. -/
def Entry.lines (entry : Entry) : List Entry :=
  (Lines.ofText entry.log.toList).map fun line => entry.withLog (String.ofList line)

/-- The entries of the single lines of a list of entries, in order. -/
def decompact (entries : List Entry) : List Entry :=
  entries.flatMap Entry.lines

theorem decompact_append (entries more : List Entry)
    : decompact (entries ++ more) = decompact entries ++ decompact more :=
  List.flatMap_append

end JobWatch.Output
