import JobWatch.Json.Value
import JobWatch.Wire.Fault

/-! A record is written as an object of its named fields, or as an array of its fields in the order
of their declaration. Of several flaws the one that comes first in the document is reported, and a
missing field comes after all that is there.
-/

namespace JobWatch.Wire

/-- How a value is read. -/
abbrev Reader (α : Type) := Json → Except Fault α

-----------------------------------------------------------------------
-- Flaws in document order
-----------------------------------------------------------------------

/-- A fault, and the place among the parts of a value where it shows. -/
structure Flaw where
  position : Nat
  fault : Fault
  deriving DecidableEq, Repr

/-- The flaw that comes first. -/
def Flaw.first (left right : Flaw) : Flaw :=
  if right.position < left.position then right else left

/-- A part of a record that was read, or its first flaw. -/
inductive Checked (α : Type) where
  | sound (value : α)
  | flawed (flaw : Flaw)

namespace Checked

/-- The part under a function. -/
def map (f : α → β) : Checked α → Checked β
  | .sound value => .sound (f value)
  | .flawed flaw => .flawed flaw

/-- Two parts combined. Either may hold the first flaw. -/
def apply (left : Checked (α → β)) (right : Checked α) : Checked β :=
  match left, right with
  | .sound f, .sound value => .sound (f value)
  | .flawed flaw, .sound _ => .flawed flaw
  | .sound _, .flawed flaw => .flawed flaw
  | .flawed flaw, .flawed other => .flawed (flaw.first other)

instance : Functor Checked where
  map := map

instance : Seq Checked where
  seq left right := left.apply (right ())

/-- The part under one more flaw, if there is one. -/
def under (part : Checked α) (flaw? : Option Flaw) : Checked α :=
  match flaw?, part with
  | none, part => part
  | some flaw, .sound _ => .flawed flaw
  | some flaw, .flawed other => .flawed (flaw.first other)

/-- The part itself, or the fault of its first flaw. -/
def toExcept : Checked α → Except Fault α
  | .sound value => .ok value
  | .flawed flaw => .error flaw.fault

end Checked

-----------------------------------------------------------------------
-- Fields
-----------------------------------------------------------------------

/-- The place of one field: its value, or the fault of leaving it out. -/
structure Slot where
  position : Nat
  content : Except Fault Json

namespace Slot

/-- The field's value, read. -/
def present (slot : Slot) (read : Reader α) (value : Json) : Checked α :=
  match read value with
  | .ok value => .sound value
  | .error fault => .flawed ⟨slot.position, fault⟩

/-- A field that has to be there. -/
def required (slot : Slot) (read : Reader α) : Checked α :=
  match slot.content with
  | .ok value => slot.present read value
  | .error fault => .flawed ⟨slot.position, fault⟩

/-- A field that may be left out, and what it then is. -/
def orElse (slot : Slot) (absent : α) (read : Reader α) : Checked α :=
  match slot.content with
  | .ok value => slot.present read value
  | .error _ => .sound absent

end Slot

/-- A value seen as a record: the places of its fields, and the first flaw that does not hang on
what the fields hold.
-/
structure Layout where
  slot : String → Slot
  flaw? : Option Flaw

/-- The place of a field in an object. Absent fields show behind the last member, in the order of
declaration.
-/
def memberSlot (names : List String) (members : List (Option String × Json)) (name : String)
    : Slot :=
  match members.zipIdx.find? (·.1.1 == some name) with
  | some ((_, value), position) => ⟨position, .ok value⟩
  | none => ⟨members.length + 1 + names.idxOf name, .error (.missingField name)⟩

/-- The first flaw in the keys of an object: a key that is no text, or a known name that some
earlier member has.
-/
def keyFlaw? (names : List String) (members : List (Option String × Json)) : Option Flaw :=
  members.zipIdx.findSome? fun (member, position) =>
    match member.1 with
    | none => some ⟨position, .malformed⟩
    | some name =>
      if names.contains name && (members.take position).any (·.1 == some name) then
        some ⟨position, .duplicateField name⟩
      else none

/-- The place of a field in an array. -/
def itemSlot (names : List String) (items : List Json) (name : String) : Slot :=
  let position := names.idxOf name
  match items[position]? with
  | some value => ⟨position, .ok value⟩
  | none => ⟨position, .error .malformed⟩

/-- The record that a value is, for the fields of these names. An array must not have more items
than there are fields.
-/
def layout? (names : List String) : Json → Option Layout
  | .object members closed =>
    some
      { slot := memberSlot names members
        flaw? := keyFlaw? names members
          <|> if closed then none else some ⟨members.length, .malformed⟩ }
  | .array items closed =>
    some
      { slot := itemSlot names items
        flaw? :=
          if names.length < items.length then some ⟨names.length, .malformed⟩
          else if closed then none
          else some ⟨items.length, .malformed⟩ }
  | _ => none

/-- A record with these fields, in the order of declaration. -/
def record (names : List String) (fields : (String → Slot) → Checked α) : Reader α :=
  fun value =>
    match layout? names value with
    | some layout => ((fields layout.slot).under layout.flaw?).toExcept
    | none => .error .malformed

-----------------------------------------------------------------------
-- Documents
-----------------------------------------------------------------------

/-- A document is one value, with nothing but space behind it. -/
def document (read : Reader α) (document : Json.Document) : Except Fault α :=
  match read document.value with
  | .ok value => if document.trailing then .error .malformed else .ok value
  | .error fault => .error fault

end JobWatch.Wire
