import JobWatch.Wire.Record

/-! Readers for the parts of a record: words and texts, lists, labels, and values that may be null.
-/

namespace JobWatch.Wire

-----------------------------------------------------------------------
-- Single values
-----------------------------------------------------------------------

/-- A truth value. -/
def bool : Reader Bool
  | .bool value => .ok value
  | _ => .error .malformed

/-- A text. -/
def text : Reader String
  | .string text => .ok text
  | _ => .error .malformed

/-- An integer literal, in the words that hold it. -/
def integerIn (word? : Int → Option α) : Reader α
  | .number numeral =>
    match numeral.integer?.bind word? with
    | some value => .ok value
    | none => .error .malformed
  | _ => .error .malformed

/-- An integer literal of 64 bits with sign. -/
def int64 : Reader Int64 :=
  integerIn Number.int64?

/-- An integer literal of 32 bits without sign. -/
def uint32 : Reader UInt32 :=
  integerIn Number.uint32?

/-- A number literal, rounded to binary64. -/
def binary64 : Reader Number.Binary64
  | .number numeral =>
    match numeral.float? with
    | some value => .ok value
    | none => .error .malformed
  | _ => .error .malformed

/-- A label: a string, or the only key of an object whose value is null. -/
def label : Reader String
  | .string text => .ok text
  | .object [(some key, .null)] true => .ok key
  | _ => .error .malformed

-----------------------------------------------------------------------
-- Readers made of readers
-----------------------------------------------------------------------

/-- A value that may be null. -/
def nullable (read : Reader α) : Reader (Option α)
  | .null => .ok none
  | value => (read value).map some

/-- A value, where null stands for a value of its own. -/
def nullAs (absent : α) (read : Reader α) : Reader α
  | .null => .ok absent
  | value => read value

/-- A list of values. -/
def list (read : Reader α) : Reader (List α)
  | .array items closed =>
    match items.mapM read with
    | .ok values => if closed then .ok values else .error .malformed
    | .error fault => .error fault
  | _ => .error .malformed

-----------------------------------------------------------------------
-- Optional fields
-----------------------------------------------------------------------

/-- A field that may be left out or null. -/
def Slot.optional (slot : Slot) (read : Reader α) : Checked (Option α) :=
  slot.orElse none (nullable read)

/-- A field that may be left out or null, and what it then is. -/
def Slot.either (slot : Slot) (absent : α) (read : Reader α) : Checked α :=
  slot.orElse absent (nullAs absent read)

end JobWatch.Wire
