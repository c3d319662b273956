import JobWatch.Output.Batch
import JobWatch.Proofs.Json.Grammar
import JobWatch.Proofs.Number.Decimal
import JobWatch.Proofs.Text.Cutting
import JobWatch.Proofs.Wire.Records

/-! The ways to spell a cursor value, and what a batch that decodes holds of them. -/

namespace JobWatch.Wire

-----------------------------------------------------------------------
-- Spellings
-----------------------------------------------------------------------

/-- A text of one or more ASCII digits, and the number it spells in base ten. -/
def SpellsNatural (text : List Char) (value : Nat) : Prop :=
  text ≠ [] ∧ (∀ c ∈ text, c.isDigit) ∧ value = Nat.ofDigitChars 10 text 0

/-- A text of digits behind a sign that need not be there. -/
inductive SpellsInteger : List Char → Int → Prop
  | unsigned {digits value} (spelled : SpellsNatural digits value) : SpellsInteger digits value
  | plus {digits value} (spelled : SpellsNatural digits value)
    : SpellsInteger ('+' :: digits) value
  | minus {digits value} (spelled : SpellsNatural digits value)
    : SpellsInteger ('-' :: digits) (-value)

/-- A text of blanks, or no text at all. -/
def IsBlank (text : List Char) : Prop :=
  ∀ c ∈ text, Text.isBlank c

/-- The number of a literal without fraction and exponent. -/
def literalValue (negative : Bool) (whole : List (Fin 10)) : Int :=
  let magnitude : Int := Nat.ofDigitChars 10 (Json.digitText whole) 0
  if negative then -magnitude else magnitude

/-- A signed 64-bit word can hold the value. -/
def IsWord (value : Int) : Prop :=
  -0x8000000000000000 ≤ value ∧ value ≤ 0x7FFFFFFFFFFFFFFF

instance (value : Int) : Decidable (IsWord value) :=
  inferInstanceAs (Decidable (_ ∧ _))

/-- The spellings of a cursor value: null, a blank string, an integer in a string with blanks around
it, or an integer literal.
-/
inductive SpellsCursorValue : Json → Int → Prop
  | null : SpellsCursorValue .null 0
  | blank {text} (blank : IsBlank text) : SpellsCursorValue (.string (String.ofList text)) 0
  | text {left core right value} (leftBlank : IsBlank left) (rightBlank : IsBlank right)
    (spelled : SpellsInteger core value) (word : IsWord value)
    : SpellsCursorValue (.string (String.ofList (left ++ core ++ right))) value
  | literal {negative whole} (isWhole : Json.IsWhole whole)
    (word : IsWord (literalValue negative whole))
    : SpellsCursorValue (.number ⟨negative, whole, [], none⟩) (literalValue negative whole)

/-- What the members of an object say about a cursor field. A field that is left out is zero. -/
inductive FieldSpells (members : List (Option String × Json)) (name : String) : Int → Prop
  | absent (absent : ∀ member ∈ members, member.1 ≠ some name) : FieldSpells members name 0
  | present {json value} (member : (some name, json) ∈ members)
    (spelled : SpellsCursorValue json value)
    : FieldSpells members name value

-----------------------------------------------------------------------
-- Reading the spellings
-----------------------------------------------------------------------

/-- Digits are no blanks. -/
theorem digit_not_blank {c : Char} (digit : c.isDigit) : Text.isBlank c = false := by
  obtain ⟨low, high⟩ := Number.isDigit_bounds digit
  simp only [Text.isBlank, Text.blankRanges, List.any_cons, List.any_nil, Bool.or_false,
    Bool.or_eq_false_iff, Bool.and_eq_false_iff, decide_eq_false_iff_not, Nat.not_le]
  omega

/-- Digits are no signs. -/
theorem digit_not_sign {c : Char} (digit : c.isDigit) : c ≠ '+' ∧ c ≠ '-' := by
  constructor <;> rintro rfl <;> exact absurd digit (by decide)

/-- The text of an integer is read as its value, by cases of the sign. -/
theorem signed?_spelled {text : List Char} {value : Int} (spelled : SpellsInteger text value)
    : Number.signed? text = some value := by
  cases spelled with
  | unsigned spelled =>
      obtain ⟨nonempty, isDigits, rfl⟩ := spelled
      have read := Number.natural?_digits isDigits nonempty
      cases text with
      | nil => exact absurd rfl nonempty
      | cons c rest =>
          obtain ⟨noPlus, noMinus⟩ := digit_not_sign (isDigits c List.mem_cons_self)
          rw [Number.signed?, read, Option.map_some]
          · rfl
          · rintro _ ⟨⟩
            exact noPlus rfl
          · rintro _ ⟨⟩
            exact noMinus rfl
  | plus spelled | minus spelled =>
      obtain ⟨nonempty, isDigits, rfl⟩ := spelled
      rw [Number.signed?, Number.natural?_digits isDigits nonempty]
      rfl

/-- The text of an integer has no blanks at its ends. -/
theorem integer_ends {text : List Char} {value : Int} (spelled : SpellsInteger text value)
    : text ≠ [] ∧ ∀ c ∈ text, Text.isBlank c = false := by
  cases spelled with
  | unsigned spelled =>
      obtain ⟨nonempty, isDigits, _⟩ := spelled
      exact ⟨nonempty, fun c member => digit_not_blank (isDigits c member)⟩
  | plus spelled | minus spelled =>
      obtain ⟨_, isDigits, _⟩ := spelled
      refine ⟨List.cons_ne_nil _ _, fun c member => ?_⟩
      rcases List.mem_cons.mp member with rfl | member
      · decide
      · exact digit_not_blank (isDigits c member)

/-- An integer in a string is read as its value, whatever blanks are around it. -/
theorem textInteger_spelled {left core right : List Char} {value : Int} (leftBlank : IsBlank left)
    (rightBlank : IsBlank right) (spelled : SpellsInteger core value) (word : IsWord value)
    : ∃ read,
        textInteger (String.ofList (left ++ core ++ right)) = .ok read ∧ read.toInt = value := by
  obtain ⟨read, held, same⟩ := Number.int64?_eq_some word.1 word.2
  obtain ⟨nonempty, noBlank⟩ := integer_ends spelled
  have trimmed : Text.trim (left ++ core ++ right) = core :=
    Text.trim_between leftBlank rightBlank (fun c first => noBlank c (List.mem_of_mem_head? first))
      (fun c last => noBlank c (List.mem_of_mem_getLast? last)) nonempty
  refine ⟨read, ?_, same⟩
  rw [textInteger, String.toList_ofList, trimmed]
  cases core with
  | nil => exact absurd rfl nonempty
  | cons c rest => simp only [signed?_spelled spelled, Option.bind_some, held]

/-- The digits of a literal spell its number in base ten. -/
theorem ofDigits_eq (digits : List (Fin 10))
    : Number.ofDigits digits = Nat.ofDigitChars 10 (Json.digitText digits) 0 := by
  have isDigit : ∀ digit, (Number.digitChar digit).isDigit := by decide
  have back : ∀ digit, Number.digitOf (Number.digitChar digit) = digit := by decide
  have spelled : ∀ c ∈ Json.digitText digits, c.isDigit := by
    intro c member
    obtain ⟨digit, _, rfl⟩ := List.mem_map.mp member
    exact isDigit digit
  rw [← Number.ofDigits_map_digitOf spelled, Json.digitText, List.map_map]
  congr 1
  exact (List.map_id'' back digits).symm

/-- Only a single zero among the whole digits of literals is zero: further digits have a first one
that is not zero, and more of them only add to it.
-/
theorem eq_zero_of_ofDigits {whole : List (Fin 10)} (isWhole : Json.IsWhole whole)
    (zero : Number.ofDigits whole = 0)
    : whole = [0] := by
  have grows : ∀ (digits : List (Fin 10)) start,
      start ≤ digits.foldl (fun value digit => 10 * value + digit.val) start := by
    intro digits
    induction digits with
    | nil => exact fun start => Nat.le_refl start
    | cons digit rest ih =>
        intro start
        exact Nat.le_trans (by omega) (ih (10 * start + digit.val))
  match whole, isWhole with
  | [digit], _ =>
      have value : digit.val = 0 := by simpa [Number.ofDigits] using zero
      exact congrArg (fun digit => [digit]) (Fin.ext value)
  | first :: second :: rest, positive =>
      have atLeast := grows (second :: rest) (10 * 0 + first.val)
      have whole : (second :: rest).foldl (fun value digit => 10 * value + digit.val)
          (10 * 0 + first.val) = 0 := zero
      have firstPositive : 0 < first.val := positive
      omega

/-- Minus zero is no integer among the literals, and is read by way of binary64. -/
theorem numeralInteger_minusZero : numeralInteger ⟨true, [0], [], none⟩ = .ok 0 := by
  have float : Json.Numeral.float? ⟨true, [0], [], none⟩ = some ⟨true, 0⟩ := by decide +kernel
  have whole : wholeInt64? ⟨true, 0⟩ = some 0 := by decide +kernel
  have integer : Json.Numeral.integer? ⟨true, [0], [], none⟩ = none := by decide
  simp only [numeralInteger, integer, Option.bind_none, float, whole]

/-- A literal is read as its number, by cases of its sign. -/
theorem numeralInteger_literal {negative : Bool} {whole : List (Fin 10)}
    (isWhole : Json.IsWhole whole) (word : IsWord (literalValue negative whole))
    : ∃ read,
        numeralInteger ⟨negative, whole, [], none⟩ = .ok read
        ∧ read.toInt = literalValue negative whole := by
  obtain ⟨read, held, same⟩ := Number.int64?_eq_some word.1 word.2
  have direct : Json.Numeral.integer? ⟨negative, whole, [], none⟩
      = some (literalValue negative whole)
      → numeralInteger ⟨negative, whole, [], none⟩ = .ok read := by
    intro integer
    rw [numeralInteger, integer, Option.bind_some, held]
  obtain ⟨low, high⟩ := word
  cases negative with
  | false =>
      refine ⟨read, direct ?_, same⟩
      have value : literalValue false whole = Number.ofDigits whole := by
        rw [ofDigits_eq]
        rfl
      have fits : (Number.ofDigits whole : Int) < UInt64.size := by
        rw [← value]
        exact Int.lt_of_le_of_lt high (by decide)
      simp only [Json.Numeral.integer?, Json.Numeral.isPlain, List.isEmpty_nil, Option.isNone_none,
        Bool.and_self, Bool.not_true, Bool.false_eq_true, if_false, if_pos fits, value]
  | true =>
      have value : literalValue true whole = -Number.ofDigits whole := by
        rw [ofDigits_eq]
        rfl
      rcases Nat.eq_zero_or_pos (Number.ofDigits whole) with zero | positive
      · obtain rfl := eq_zero_of_ofDigits isWhole zero
        exact ⟨0, numeralInteger_minusZero, rfl⟩
      · refine ⟨read, direct ?_, same⟩
        have fits : 0 < (Number.ofDigits whole : Int)
            ∧ Int64.minValue.toInt ≤ -(Number.ofDigits whole : Int) := by
          rw [← value, Int64.toInt_minValue]
          exact ⟨Int.natCast_pos.mpr positive, low⟩
        simp only [Json.Numeral.integer?, Json.Numeral.isPlain, List.isEmpty_nil,
          Option.isNone_none, Bool.and_self, Bool.not_true, Bool.false_eq_true, if_false, if_true,
          if_pos fits, value]

/-- Every spelling is read as the value it stands for. -/
theorem lenientInteger_spelled {json : Json} {value : Int} (spelled : SpellsCursorValue json value)
    : ∃ read, lenientInteger json = .ok read ∧ read.toInt = value := by
  cases spelled with
  | null => exact ⟨0, rfl, rfl⟩
  | blank blank =>
      refine ⟨0, ?_, rfl⟩
      rw [lenientInteger, textInteger, String.toList_ofList, Text.trim_blank blank]
  | text leftBlank rightBlank spelled word =>
      exact textInteger_spelled leftBlank rightBlank spelled word
  | literal isWhole word => exact numeralInteger_literal isWhole word

-----------------------------------------------------------------------
-- Batches
-----------------------------------------------------------------------

/-- A cursor field of an object that was read holds what the object says about it, by cases of its
being there.
-/
theorem cursorField_spelled {names : List String} {members : List (Option String × Json)}
    {name : String} {value : Int} {word : Int64} (noFlaw : keyFlaw? names members = none)
    (known : name ∈ names) (spelled : FieldSpells members name value)
    (sound : (memberSlot names members name).orElse 0 lenientInteger = .sound word)
    : word.toInt = value := by
  cases spelled with
  | absent absent =>
      rw [Slot.orElse_absent (memberSlot_of_absent absent) sound]
      rfl
  | present member spelled =>
      obtain ⟨read, reads, same⟩ := lenientInteger_spelled spelled
      have held := Slot.orElse_present (memberSlot_of_mem noFlaw known member) sound
      rw [reads] at held
      rw [← Except.ok.inj held, same]

/-- The cursor of a batch that was read from an object is the one its two fields spell. -/
theorem batch_cursor {members : List (Option String × Json)} {batch : Output.Batch}
    {offset lastModified : Int} (read : Output.Batch.decode (.object members true) = .ok batch)
    (offsetSpelled : FieldSpells members "offset" offset)
    (lastModifiedSpelled : FieldSpells members "lastModified" lastModified)
    : batch.offset.toInt = offset ∧ batch.lastModified.toInt = lastModified := by
  obtain ⟨sound, noFlaw⟩ := record_object read
  simp only [Checked.seq_eq_sound, Checked.map_eq_sound] at sound
  obtain ⟨_, _, ⟨_, _, ⟨_, _, ⟨_, _, sound, _, rfl⟩, _, rfl⟩, _, rfl⟩, _, rfl⟩ := sound
  obtain ⟨_, _, sound, lastModifiedRead, rfl⟩ := sound
  obtain ⟨_, _, ⟨_, _, ⟨_, _, ⟨_, _, sound, _, rfl⟩, _, rfl⟩, _, rfl⟩, _, rfl⟩ := sound
  obtain ⟨_, _, sound, offsetRead, rfl⟩ := sound
  obtain ⟨_, _, ⟨_, _, ⟨_, _, ⟨_, _, ⟨_, _, rfl⟩, _, rfl⟩, _, rfl⟩, _, rfl⟩, _, rfl⟩ := sound
  exact ⟨cursorField_spelled noFlaw (by decide) offsetSpelled offsetRead,
    cursorField_spelled noFlaw (by decide) lastModifiedSpelled lastModifiedRead⟩

end JobWatch.Wire
