import JobWatch.Text.Blank
import JobWatch.Wire.Scalar

/-! Servers write cursor values and identifiers as numbers or as strings. Both are read, and null
stands for zero or for no identifier.
-/

namespace JobWatch.Wire

/-- A whole number of 64 bits with sign. -/
def wholeInt64? (value : Number.Binary64) : Option Int64 :=
  if value.isWhole then Number.int64? value.truncate else none

/-- The integer that a number literal stands for. A literal that is no 64-bit integer counts by
the binary64 number it is read as.
-/
def numeralInteger (numeral : Json.Numeral) : Except Fault Int64 :=
  match numeral.integer?.bind Number.int64? with
  | some value => .ok value
  | none =>
    match numeral.float? with
    | some value =>
      match wholeInt64? value with
      | some value => .ok value
      | none => .error (.notWhole value)
    | none => .error .malformed

/-- The integer that a string stands for: zero if it is blank, and else the digits between the
blanks at its ends. A refused string is reported with those blanks.
-/
def textInteger (text : String) : Except Fault Int64 :=
  match Text.trim text.toList with
  | [] => .ok 0
  | trimmed =>
    match (Number.signed? trimmed).bind Number.int64? with
    | some value => .ok value
    | none => .error (.notInteger text)

/-- A cursor value. -/
def lenientInteger : Reader Int64
  | .null => .ok 0
  | .number numeral => numeralInteger numeral
  | .string text => textInteger text
  | _ => .error .malformed

/-- The text of a number that stands for an identifier. -/
def numeralText (numeral : Json.Numeral) : Except Fault String :=
  match numeral.integer?.bind Number.int64? with
  | some value => .ok (String.ofList (Number.signed value.toInt))
  | none =>
    match numeral.float? with
    | some value => .ok value.text
    | none => .error .malformed

/-- An identifier. -/
def lenientText : Reader (Option String)
  | .null => .ok none
  | .number numeral => (numeralText numeral).map some
  | .string text => .ok (some text)
  | _ => .error .malformed

end JobWatch.Wire
