import JobWatch.Proofs.Json.Writing
import JobWatch.Proofs.Wire.Records
import JobWatch.Wire.Lenient
import JobWatch.Wire.Scalar
import Mathlib.Data.List.Nodup

/-! What is read from a record that was written: every field that was sent is read from its member,
and the others are left out.
-/

namespace JobWatch.Wire

variable {α β : Type}

-----------------------------------------------------------------------
-- Places of fields
-----------------------------------------------------------------------

/-- The places of fields hold the members of a record, and nothing else. -/
structure Holds (field : String → Slot) (members : List (String × Json)) : Prop where
  present : ∀ member ∈ members, (field member.1).content = .ok member.2
  absent : ∀ name, name ∉ members.map (·.1) → (field name).content = .error (.missingField name)

/-- Members as an object has them. -/
def named (members : List (String × Json)) : List (Option String × Json) :=
  members.map fun member => (some member.1, member.2)

/-- What the place of a field holds does not depend on the other fields. -/
theorem memberSlot_content (names others : List String) (members : List (Option String × Json))
    (name : String)
    : (memberSlot names members name).content = (memberSlot others members name).content := by
  unfold memberSlot
  split <;> rfl

/-- Members of different names have no flaw in their keys: none has the name of an earlier one. -/
theorem keyFlaw?_named (names : List String) {members : List (String × Json)}
    (distinct : (members.map (·.1)).Nodup)
    : keyFlaw? names (named members) = none := by
  refine List.findSome?_eq_none_iff.mpr fun ⟨member, position⟩ isThere => ?_
  have isMember := List.mem_zipIdx_iff_getElem?.mp isThere
  rw [named, List.getElem?_map] at isMember
  obtain ⟨⟨name, json⟩, found, rfl⟩ := Option.map_eq_some_iff.mp isMember
  have notBefore : ((named members).take position).any (·.1 == some name) = false := by
    refine List.any_eq_false.mpr fun earlier isEarlier => ?_
    obtain ⟨before, inRange, isBefore⟩ := List.mem_take_iff_getElem.mp isEarlier
    intro sameName
    have inMembers : before < members.length := by
      rw [named, List.length_map] at inRange
      omega
    have earlierName : (members.map (·.1))[before]? = some name := by
      subst isBefore
      simpa [named, inMembers] using sameName
    have laterName : (members.map (·.1))[position]? = some name := by simp [found]
    have inRange' : position < (members.map (·.1)).length :=
      (List.getElem?_eq_some_iff.mp laterName).1
    refine List.nodup_iff_getElem?_ne_getElem?.mp distinct before position (by omega) inRange' ?_
    rw [earlierName, laterName]
  simp [notBefore]

/-- A record with members of different names is read as what its fields are read as. -/
theorem record_sent {names : List String} {fields : (String → Slot) → Checked α}
    {members : List (String × Json)} {value : α} (distinct : (members.map (·.1)).Nodup)
    (sound : ∀ field, Holds field members → fields field = .sound value)
    : record names fields (Json.record members) = .ok value := by
  have noFlaw (names : List String) := keyFlaw?_named names distinct
  have holds : Holds (memberSlot names (named members)) members := by
    constructor
    · intro member isMember
      rw [memberSlot_content names [member.1]]
      exact memberSlot_of_mem (noFlaw _) List.mem_cons_self
        (List.mem_map_of_mem (f := fun member => (some member.1, member.2)) isMember)
    · intro name noMember
      refine memberSlot_of_absent fun member isMember sameName => noMember ?_
      obtain ⟨sent, isSent, rfl⟩ := List.mem_map.mp isMember
      exact List.mem_map.mpr ⟨sent, isSent, Option.some.inj sameName⟩
  refine Checked.toExcept_under_eq_ok.mpr ⟨sound _ holds, ?_⟩
  change (keyFlaw? names (named members) <|> _) = none
  rw [noFlaw names]
  rfl

/-- A record is sent as an object, which is not null. -/
theorem record_ne_null (members : List (String × Json)) : Json.record members ≠ .null :=
  Json.noConfusion

-----------------------------------------------------------------------
-- Fields
-----------------------------------------------------------------------

section Fields

variable {slot : Slot} {json : Json} {read : Reader α} {value : α}

/-- A field that has to be there is read from its value. -/
theorem Slot.required_sent (content : slot.content = .ok json) (reads : read json = .ok value)
    : slot.required read = .sound value := by
  rw [required, content]
  simp only [present, reads]

/-- A field that may be left out is read from its value if it is there. -/
theorem Slot.orElse_sent (absent : α) (content : slot.content = .ok json)
    (reads : read json = .ok value)
    : slot.orElse absent read = .sound value := by
  rw [orElse, content]
  simp only [present, reads]

/-- A field that may be left out or null is read from its value if it is neither. -/
theorem Slot.either_sent (absent : α) (content : slot.content = .ok json) (notNull : json ≠ .null)
    (reads : read json = .ok value)
    : slot.either absent read = .sound value := by
  refine orElse_sent absent content ?_
  cases json with
  | null => exact absurd rfl notNull
  | bool | number | string | garbled | array | object | broken => exact reads

/-- A field that is left out is what it then stands for. -/
theorem Slot.orElse_left_out {fault : Fault} (absent : α) (content : slot.content = .error fault)
    : slot.orElse absent read = .sound absent := by
  rw [orElse, content]

/-- An optional field is read from its value, where null stands for none. -/
theorem Slot.optional_sent {encode : α → Json} {value : Option α}
    (content : slot.content = .ok (.orNull (value.map encode)))
    (reads : ∀ value, read (encode value) = .ok value) (notNull : ∀ value, encode value ≠ .null)
    : slot.optional read = .sound value := by
  refine orElse_sent none content ?_
  cases value with
  | none => rfl
  | some value =>
      have some : nullable read (encode value) = (read (encode value)).map .some := by
        have present := notNull value
        cases json : encode value with
        | null => exact absurd json present
        | bool | number | string | garbled | array | object | broken => rfl
      exact some.trans (by rw [reads, Except.map])

end Fields

-----------------------------------------------------------------------
-- Values
-----------------------------------------------------------------------

/-- A list is read item by item. -/
theorem list_sent {read : Reader α} {encode : α → Json}
    (reads : ∀ value, read (encode value) = .ok value) (values : List α)
    : list read (.array (values.map encode) true) = .ok values := by
  have items : (values.map encode).mapM read = .ok values := by
    induction values with
    | nil => rfl
    | cons value rest ih =>
        rw [List.map_cons, List.mapM_cons, reads, ih]
        rfl
  simp only [list, items, if_true]

/-- The integer of a written number is the number, if words of 64 bits reach as far. -/
theorem integer?_ofInt {value : Int} (low : Int64.minValue.toInt ≤ value)
    (high : value < UInt64.size)
    : (Json.Numeral.ofInt value).integer? = some value := by
  cases value with
  | ofNat value =>
      have fits : (value : Int) < UInt64.size := high
      simp only [Json.Numeral.ofInt, Json.Numeral.integer?, Json.Numeral.isPlain,
        Number.ofDigits_toDigits, List.isEmpty_nil, Option.isNone_none, Bool.and_self,
        Bool.not_true, Bool.false_eq_true, if_false, if_pos fits]
      rfl
  | negSucc value =>
      have negative : -((value + 1 : Nat) : Int) = .negSucc value := rfl
      have fits : 0 < ((value + 1 : Nat) : Int) ∧ Int64.minValue.toInt ≤ .negSucc value :=
        ⟨by omega, low⟩
      simp only [Json.Numeral.ofInt, Json.Numeral.integer?, Json.Numeral.isPlain,
        Number.ofDigits_toDigits, List.isEmpty_nil, Option.isNone_none, Bool.and_self,
        Bool.not_true, Bool.false_eq_true, if_false, if_true, negative, if_pos fits]

/-- The integer of a written word of 64 bits is held by this word. -/
theorem int64?_ofInt (word : Int64)
    : (Json.Numeral.ofInt word.toInt).integer?.bind Number.int64? = some word := by
  have high : word.toInt < UInt64.size := Int.lt_trans word.toInt_lt (by decide)
  rw [integer?_ofInt word.minValue_le_toInt high, Option.bind_some, Number.int64?,
    if_pos ⟨word.minValue_le_toInt, word.toInt_le⟩, Int64.ofInt_toInt]

theorem int64_sent (word : Int64) : int64 (.ofInt word.toInt) = .ok word := by
  rw [Json.ofInt, int64, integerIn, int64?_ofInt]

theorem lenientInteger_sent (word : Int64) : lenientInteger (.ofInt word.toInt) = .ok word := by
  rw [Json.ofInt, lenientInteger, numeralInteger, int64?_ofInt]

theorem uint32_sent (word : UInt32) : uint32 (.ofInt word.toNat) = .ok word := by
  have small : word.toNat < 2 ^ 32 := word.toNat_lt
  have low : Int64.minValue.toInt ≤ (word.toNat : Int) :=
    Int.le_trans (by decide) (Int.natCast_nonneg _)
  have high : (word.toNat : Int) < UInt64.size := by
    rw [UInt64.size]
    omega
  have inRange : 0 ≤ (word.toNat : Int) ∧ (word.toNat : Int) < UInt32.size := by
    rw [UInt32.size]
    omega
  rw [Json.ofInt, uint32, integerIn, integer?_ofInt low high, Option.bind_some, Number.uint32?,
    if_pos inRange, Int.toNat_natCast, UInt32.ofNat_toNat]

theorem text_sent (value : String) : text (.string value) = .ok value :=
  rfl

theorem bool_sent (value : Bool) : bool (.bool value) = .ok value :=
  rfl

/-- An identifier is sent as a string or null, and read as it was. -/
theorem lenientText_sent (value : Option String)
    : lenientText (.orNull (value.map .string)) = .ok value := by
  cases value <;> rfl

end JobWatch.Wire
