import JobWatch.Domain.MappingTable
import JobWatch.Text.CodeTable

/-! The spelling of domain names: letters in lower case, wide and decorated characters as plain
ones, and no invisible characters.
-/

namespace JobWatch.Domain

/-- What becomes of a character. -/
inductive Fate where
  | kept
  | replaced (text : List Char)
  | dropped
  | refused
  deriving DecidableEq, Repr

/-- All characters that are not refused. -/
def mapping : Text.CodeTable :=
  Text.CodeTable.ofLines mappingTable

/-- The fate of a character in a row. -/
def Fate.inRow (c : Char) (row : Text.CodeRow) : Fate :=
  match row.note with
  | [] => .kept
  | ['!'] => .dropped
  | ['/'] =>
    if (c.toNat - row.first) % 2 = 0 then .replaced [Char.ofNat (c.toNat + 1)] else .kept
  | '>' :: distance => .replaced [Char.ofNat (c.toNat + (Text.takeCode distance).1)]
  | '<' :: distance => .replaced [Char.ofNat (c.toNat - (Text.takeCode distance).1)]
  | _ :: texts => .replaced ((Text.noteLists texts).getD (c.toNat - row.first) [])

/-- The fate of a character. -/
def Fate.of (c : Char) : Fate :=
  match mapping.row? c with
  | some row => .inRow c row
  | none => .refused

/-- The character is kept as it is. -/
def isKept (c : Char) : Bool :=
  Fate.of c == .kept

/-- The text in the spelling of domain names, if none of its characters is refused. -/
def spell? (text : List Char) : Option (List Char) :=
  (text.mapM fun c =>
    match Fate.of c with
    | .kept => some [c]
    | .replaced text => some text
    | .dropped => some []
    | .refused => none).map List.flatten

end JobWatch.Domain
