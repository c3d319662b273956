import JobWatch.Domain.DirectionTable
import JobWatch.Text.CodeTable

/-! Names in scripts that are written from right to left. When a name has a character of such a
script, each of its labels has one direction, and it begins and ends with a character that shows
it.
-/

namespace JobWatch.Domain

/-- How a character is written. A mark follows the character before it. -/
inductive Direction where
  | leftToRight
  | rightToLeft
  | number
  | arabicNumber
  | mark
  | neutral
  deriving DecidableEq, Repr

/-- All characters that are not written from left to right. -/
def directions : Text.CodeTable :=
  Text.CodeTable.ofLines directionTable

namespace Direction

/-- How a character is written. -/
def of (c : Char) : Direction :=
  match directions.note? c with
  | some ['=', 'r'] => .rightToLeft
  | some ['=', 'e'] => .number
  | some ['=', 'a'] => .arabicNumber
  | some ['=', 'm'] => .mark
  | some _ => .neutral
  | none => .leftToRight

/-- The character makes its name one with two directions. -/
def turns (direction : Direction) : Bool :=
  direction == .rightToLeft || direction == .arabicNumber

/-- The last direction that is not that of a mark is one of these. -/
def endsWith (ends label : List Direction) : Bool :=
  ((label.reverse.dropWhile (· == .mark)).head?).any ends.contains

/-- A label has one direction. The two kinds of numbers do not mix. -/
def isUniform (label : List Direction) : Bool :=
  match label with
  | [] => true
  | .leftToRight :: _ =>
    label.all (!turns ·) && endsWith [.leftToRight, .number] label
  | .rightToLeft :: _ =>
    !label.contains .leftToRight
      && endsWith [.rightToLeft, .number, .arabicNumber] label
      && !(label.contains .number && label.contains .arabicNumber)
  | _ => false

/-- The labels fit together. -/
def fit (labels : List (List Char)) : Bool :=
  let directions := labels.map (·.map of)
  !(directions.any (·.any turns)) || directions.all isUniform

end Direction

end JobWatch.Domain
