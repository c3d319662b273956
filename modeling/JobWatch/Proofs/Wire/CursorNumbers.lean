import JobWatch.Proofs.Wire.Fields
import JobWatch.Proofs.Wire.Literals
import Mathlib.Data.Bool.AllAny

/-! Numbers in the cursor fields of a batch: a field is read as the integer that its literal is read
as, and all other fields as if it was left out.
-/

namespace JobWatch.Wire

-----------------------------------------------------------------------
-- Cursor fields
-----------------------------------------------------------------------

/-- The fields of a batch that hold cursor values. -/
inductive CursorField where
  | offset
  | lastModified
  | execDuration
  | totalSize
  deriving DecidableEq, Repr

namespace CursorField

/-- The name of the field. -/
def name : CursorField → String
  | offset => "offset"
  | lastModified => "lastModified"
  | execDuration => "execDuration"
  | totalSize => "totalSize"

/-- What a batch holds in the field. -/
def value (batch : Output.Batch) : CursorField → Int64
  | offset => batch.offset
  | lastModified => batch.lastModified
  | execDuration => batch.execDuration
  | totalSize => batch.totalSize

/-- A batch with a word in the field. -/
def put (batch : Output.Batch) (word : Int64) : CursorField → Output.Batch
  | offset => { batch with offset := word }
  | lastModified => { batch with lastModified := word }
  | execDuration => { batch with execDuration := word }
  | totalSize => { batch with totalSize := word }

theorem value_put (field : CursorField) (batch : Output.Batch) (word : Int64)
    : field.value (field.put batch word) = word := by
  cases field <;> rfl

end CursorField

namespace Reads

variable {slot other : String → Slot} {batch : Output.Batch} {word : Int64}

/-- A cursor field is read as what the batch holds in it. -/
theorem cursor (reads : Reads slot batch) (field : CursorField)
    : (slot field.name).orElse 0 lenientInteger = .sound (field.value batch) := by
  cases field
  · exact reads.offset
  · exact reads.lastModified
  · exact reads.execDuration
  · exact reads.totalSize

/-- Another word in a cursor field is put into the batch, and all other fields are read as before.
-/
theorem put (reads : Reads slot batch) (field : CursorField)
    (same : ∀ name, name ≠ field.name → (other name).content = (slot name).content)
    (here : (other field.name).orElse 0 lenientInteger = .sound word)
    : Reads other (field.put batch word) := by
  obtain ⟨_, _, _, _, _, _, _, _, _, _, _, _, _, _, _⟩ := reads
  cases field <;> constructor <;>
    first
    | exact here
    | exact Slot.orElse_congr (same _ (by decide)) ‹_›

end Reads

/-- The batches around a cursor field: an object or an array, with a place for the field's value. -/
inductive CursorField.Surrounds (field : CursorField) : (Json → Json) → Prop
  | object (before after : List (Option String × Json))
    : field.Surrounds fun json => .object (before ++ (some field.name, json) :: after) true
  | array {before : List Json} (place : before.length = Output.Batch.fieldNames.idxOf field.name)
    (after : List Json)
    : field.Surrounds fun json => .array (before ++ json :: after) true

theorem CursorField.name_known (field : CursorField) : field.name ∈ Output.Batch.fieldNames := by
  cases field <;> decide

/-- With a value in its place, a cursor field holds this value, and all other fields what they hold
with another value there.
-/
theorem CursorField.Surrounds.layout {field : CursorField} {around : Json → Json}
    (surrounds : field.Surrounds around) {layout : Layout} {other : Json}
    (isRecord : layout? Output.Batch.fieldNames (around other) = some layout)
    (noFlaw : layout.flaw? = none) (json : Json)
    : ∃ here, layout? Output.Batch.fieldNames (around json) = some here
        ∧ here.flaw? = none ∧ (here.slot field.name).content = .ok json
        ∧ ∀ name, name ≠ field.name → (here.slot name).content = (layout.slot name).content := by
  cases surrounds with
  | object before after =>
      obtain rfl := Option.some.inj isRecord
      have keys : keyFlaw? Output.Batch.fieldNames (before ++ (some field.name, other) :: after)
          = none := by
        simpa using noFlaw
      have keysHere : keyFlaw? Output.Batch.fieldNames
          (before ++ (some field.name, json) :: after) = none := keyFlaw?_swap keys
      refine ⟨_, rfl, ?_, ?_, ?_⟩
      · dsimp only
        rw [keysHere]
        rfl
      · exact memberSlot_of_mem keysHere field.name_known
          (List.mem_append_right _ List.mem_cons_self)
      · exact fun name differs => memberSlot_swap differs
  | array place after =>
      obtain rfl := Option.some.inj isRecord
      refine ⟨_, rfl, ?_, itemSlot_here place, fun name differs => ?_⟩
      · simpa using noFlaw
      · exact itemSlot_swap field.name_known place differs

/-- A batch that is read with some value in a cursor field is read with another one that is a word,
and holds this word there.
-/
theorem CursorField.Surrounds.decode_put {field : CursorField} {around : Json → Json}
    (surrounds : field.Surrounds around) {batch : Output.Batch} {other json : Json} {word : Int64}
    (decoded : Output.Batch.decode (around other) = .ok batch)
    (read : lenientInteger json = .ok word)
    : Output.Batch.decode (around json) = .ok (field.put batch word) := by
  obtain ⟨layout, isRecord, noFlaw, reads⟩ := decode_batch_iff.mp decoded
  obtain ⟨here, isRecordHere, noFlawHere, held, same⟩ := surrounds.layout isRecord noFlaw json
  exact decode_batch_iff.mpr
    ⟨here, isRecordHere, noFlawHere, reads.put field same (Slot.orElse_sent 0 held read)⟩

/-- A batch with a value in a cursor field is read as with null there, and as the word that the
value is read as.
-/
theorem decode_cursor_field {field : CursorField} {around : Json → Json}
    (surrounds : field.Surrounds around) {rest batch : Output.Batch} {json : Json}
    (decoded : Output.Batch.decode (around .null) = .ok rest)
    : Output.Batch.decode (around json) = .ok batch
      ↔ ∃ word, lenientInteger json = .ok word ∧ batch = field.put rest word := by
  obtain ⟨layout, isRecord, noFlaw, reads⟩ := decode_batch_iff.mp decoded
  obtain ⟨here, isRecordHere, -, held, -⟩ := surrounds.layout isRecord noFlaw json
  constructor
  · intro decodedHere
    obtain ⟨other, isOther, -, readsHere⟩ := decode_batch_iff.mp decodedHere
    obtain rfl := Option.some.inj (isRecordHere.symm.trans isOther)
    have read := Slot.orElse_present held (readsHere.cursor field)
    exact ⟨_, read, Except.ok.inj (decodedHere.symm.trans (surrounds.decode_put decoded read))⟩
  · rintro ⟨word, read, rfl⟩
    exact surrounds.decode_put decoded read

-----------------------------------------------------------------------
-- Numbers in cursor fields
-----------------------------------------------------------------------

/-- As which words the number of a cursor field is taken. Plain literals are taken exactly, but for
those in the gap below all words; short ones that are no greater than 2⁵³ are taken exactly, so that
fractions among them are refused; and whatever is taken is off by no more than its 2⁴⁹th part.
-/
structure NumberLaw (numeral : Json.Numeral) (taken : Int64 → Prop) : Prop where
  plain : numeral.isPlain
    → ∀ word, taken word
        ↔ numeral.value = word.toInt ∨ InGap numeral.value ∧ word = Int64.minValue
  short : numeral.digits < 2 ^ 53 → -22 ≤ numeral.scale → numeral.magnitude ≤ 2 ^ 53
    → ∀ word, taken word ↔ numeral.value = word.toInt
  close : ∀ word, taken word
    → |numeral.value - word.toInt| ≤ |(word.toInt : ℚ)| / 2 ^ 49 + 1 / 10 ^ 250

/-- A number in a cursor field of a batch is either refused or put into the field as a word, and the
law says as which one.
-/
theorem cursor_number_decoded {field : CursorField} {around : Json → Json}
    (surrounds : field.Surrounds around) {rest : Output.Batch}
    (decoded : Output.Batch.decode (around .null) = .ok rest) {numeral : Json.Numeral}
    {text : List Char} (spelled : Json.IsTextOf text (around (.number numeral)))
    : let answer := document Output.Batch.decode (Json.read (text.map some))
      (∀ batch, answer = .ok batch → batch = field.put rest (field.value batch))
      ∧ NumberLaw numeral fun word => answer = .ok (field.put rest word) := by
  intro answer
  have isAnswer (batch : Output.Batch) : answer = .ok batch
      ↔ ∃ word, numeralInteger numeral = .ok word ∧ batch = field.put rest word := by
    have isRead : answer = Output.Batch.decode (around (.number numeral)) := document_text spelled
    rw [isRead, decode_cursor_field surrounds decoded]
    rfl
  have taken (word : Int64) : answer = .ok (field.put rest word)
      ↔ numeralInteger numeral = .ok word := by
    rw [isAnswer]
    constructor
    · rintro ⟨other, read, same⟩
      have same := congrArg field.value same
      rw [field.value_put, field.value_put] at same
      rw [same, read]
    · exact fun read => ⟨word, read, rfl⟩
  refine ⟨fun batch answered => ?_, ?_, ?_, ?_⟩
  · obtain ⟨word, -, rfl⟩ := (isAnswer batch).mp answered
    rw [field.value_put]
  · exact fun plain word => (taken word).trans (taken_plain plain)
  · exact fun short places small word => (taken word).trans (taken_short short places small)
  · exact fun word answered => taken_close ((taken word).mp answered)

/-- A whole number with a point is taken exactly. -/
theorem pointed_number_is_taken
    : document Output.Batch.decode (Json.read ("\x7b\"offset\":2048.0\x7d".toList.map some))
      = .ok (CursorField.offset.put blankBatch 2048) := by
  let numeral : Json.Numeral := ⟨false, [2, 0, 4, 8], [0], none⟩
  have decoded : Output.Batch.decode (.object [(some "offset", .null)] true) = .ok blankBatch := by
    decide
  have literal : Json.SpellsNumeral "2048.0".toList numeral :=
    ⟨by simp [Json.IsWhole, numeral], [], .absent, by decide⟩
  have plainKey : Json.IsPlainText "offset".toList := List.all_iff_forall_prop.mp (by decide)
  have noSpace := Json.isBlankText_nil
  have object := Json.Spells.object
    (.lastMember noSpace noSpace (Json.spells_member _ plainKey (.number literal)))
  have spelled : Json.IsTextOf "\x7b\"offset\":2048.0\x7d".toList
      (.object [(some "offset", .number numeral)] true) :=
    ⟨[], _, [], noSpace, object, noSpace, by decide⟩
  have surrounds : CursorField.offset.Surrounds
      fun json => .object ([] ++ (some "offset", json) :: []) true := .object [] []
  obtain ⟨-, law⟩ := cursor_number_decoded surrounds decoded spelled
  refine (law.short (by decide) (by decide) ?_ 2048).mpr ?_
  · decide +kernel
  · decide +kernel

/-- The offset of a batch with a literal for it. -/
def offsetOf (literal : String) : Except Fault Int64 :=
  let text := "\x7b\"offset\":" ++ literal ++ "\x7d"
  (document Output.Batch.decode (Json.ofText text)).map (·.offset)

/-- The exact value of a literal. -/
def valueOf (literal : String) : Option ℚ :=
  match (Json.ofText literal).value with
  | .number numeral => some numeral.value
  | _ => none

/-- Literals are rounded before it is told whether they are whole and within reach: of the
following, one is taken as its neighbour, one as the least word although it is less, one as a whole
number although it has a fraction, and one is refused although it is a whole number.
-/
theorem numbers_are_rounded_before_the_test
    : (valueOf "9007199254740993.0" = some 9007199254740993
        ∧ offsetOf "9007199254740993.0" = .ok 9007199254740994)
      ∧ (valueOf "-9223372036854775809" = some (-2 ^ 63 - 1)
        ∧ offsetOf "-9223372036854775809" = .ok Int64.minValue)
      ∧ (valueOf "1.00000000000000000001" = some (1 + 1 / 10 ^ 20)
        ∧ offsetOf "1.00000000000000000001" = .ok 1)
      ∧ valueOf "18014398509481990e-1" = some 1801439850948199
      ∧ (offsetOf "18014398509481990e-1").toOption = none := by
  refine ⟨⟨?_, ?_⟩, ⟨?_, ?_⟩, ⟨?_, ?_⟩, ?_, ?_⟩ <;> decide +kernel

end JobWatch.Wire
