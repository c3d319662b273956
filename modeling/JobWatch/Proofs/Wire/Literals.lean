import JobWatch.Proofs.Json.Numerals
import JobWatch.Proofs.Wire.CursorFields

/-! The integers that number literals are read as: exactly the value of a literal where it is short,
or plain and away from the ends of 64 bits, and elsewhere the whole number that it is rounded to.
-/

namespace JobWatch.Wire

-----------------------------------------------------------------------
-- Literals
-----------------------------------------------------------------------

/-- A whole number with the sign of a literal. -/
def signed (negative : Bool) (whole : Nat) : Int :=
  if negative then -whole else whole

/-- The value of a literal is an integer if its magnitude is a whole number. -/
theorem value_eq_iff (numeral : Json.Numeral) (word : Int)
    : numeral.value = word
      ↔ ∃ whole : Nat, numeral.magnitude = whole ∧ word = signed numeral.negative whole := by
  have some := numeral.magnitude_nonneg
  rw [Json.Numeral.value]
  simp only [signed]
  split
  · constructor
    · intro same
      have sign : word ≤ 0 := by exact_mod_cast (show (word : ℚ) ≤ 0 by linarith)
      obtain ⟨whole, opposite⟩ := Int.eq_ofNat_of_zero_le (Int.neg_nonneg_of_nonpos sign)
      obtain rfl : word = -whole := by omega
      refine ⟨whole, ?_, rfl⟩
      push_cast at same
      exact neg_inj.mp same
    · rintro ⟨whole, same, rfl⟩
      rw [same]
      push_cast
      rfl
  · constructor
    · intro same
      have sign : 0 ≤ word := by exact_mod_cast same ▸ some
      obtain ⟨whole, rfl⟩ := Int.eq_ofNat_of_zero_le sign
      exact ⟨whole, by rw [same]; rfl, rfl⟩
    · rintro ⟨whole, same, rfl⟩
      rw [same]
      rfl

/-- The word of a value is the one that holds it. -/
theorem int64?_eq_some_iff {value : Int} {word : Int64}
    : Number.int64? value = some word ↔ word.toInt = value := by
  constructor
  · intro held
    rw [Number.int64?] at held
    split at held
    next bounds =>
        obtain ⟨low, high⟩ := bounds
        rw [← Option.some.inj held]
        exact Int64.toInt_ofInt_of_le low (Int.lt_of_le_sub_one high)
    next => cases held
  · rintro rfl
    rw [Number.int64?, if_pos ⟨word.minValue_le_toInt, word.toInt_le⟩, Int64.ofInt_toInt]

/-- A binary64 number is taken as a word if it is the whole number that the word holds. -/
theorem wholeInt64?_eq_some_iff {value : Number.Binary64} {word : Int64}
    : wholeInt64? value = some word
      ↔ ∃ whole, value.units = whole * Number.Binary64.one
          ∧ word.toInt = signed value.negative whole := by
  rw [wholeInt64?, Number.Binary64.isWhole]
  constructor
  · intro taken
    split at taken
    next whole =>
        have parts := Nat.div_mul_cancel (Nat.dvd_of_mod_eq_zero (beq_iff_eq.mp whole))
        exact ⟨_, parts.symm, int64?_eq_some_iff.mp taken⟩
    next => cases taken
  · rintro ⟨whole, parts, held⟩
    have isWhole : value.units % Number.Binary64.one = 0 := by rw [parts, Nat.mul_mod_left]
    have truncated : value.truncate = signed value.negative whole := by
      rw [Number.Binary64.truncate, parts, Nat.mul_div_cancel _ Number.Binary64.one_pos]
      rfl
    simp only [isWhole, beq_self_eq_true, if_true, int64?_eq_some_iff, truncated, held]

/-- Which plain literals are read as integers: those that a word of 64 bits holds, with or without
sign, except for minus zero.
-/
theorem integer?_plain {numeral : Json.Numeral} (plain : numeral.isPlain)
    : numeral.integer?
      = if numeral.negative then
          if 0 < numeral.digits ∧ numeral.digits ≤ 2 ^ 63 then some (-(numeral.digits : Int))
          else none
        else if numeral.digits < 2 ^ 64 then some (numeral.digits : Int) else none := by
  have noFraction : numeral.fraction = [] := by
    simp only [Json.Numeral.isPlain, Bool.and_eq_true, List.isEmpty_iff] at plain
    exact plain.1
  have digits : numeral.digits = Number.ofDigits numeral.whole := by
    rw [Json.Numeral.digits, noFraction, List.append_nil]
  have least : Int64.minValue.toInt ≤ -(numeral.digits : Int) ↔ numeral.digits ≤ 2 ^ 63 := by
    rw [Int64.toInt_minValue]
    omega
  have most : (numeral.digits : Int) < (UInt64.size : Nat) ↔ numeral.digits < 2 ^ 64 := by
    rw [Int.ofNat_lt, UInt64.size]
    omega
  rw [Json.Numeral.integer?, if_neg (by simpa using plain), ← digits]
  simp only [Int.natCast_pos, least, most]

/-- A literal that is read as an integer stands for this integer. -/
theorem integer?_value {numeral : Json.Numeral} {integer : Int}
    (read : numeral.integer? = some integer)
    : numeral.value = integer := by
  by_cases plain : numeral.isPlain
  · rw [integer?_plain plain] at read
    refine (value_eq_iff _ _).mpr ⟨numeral.digits, Json.Numeral.magnitude_plain plain, ?_⟩
    rw [signed]
    split at read <;> split at read
    · rw [if_pos ‹_›, Option.some.inj read]
    · cases read
    · rw [if_neg ‹_›, Option.some.inj read]
    · cases read
  · rw [Json.Numeral.integer?, if_pos (by simpa using plain)] at read
    cases read

/-- The two routes of a literal: the integer it is read as, if a word holds it, and else the
binary64 number it is read as, if this is whole and a word holds it.
-/
theorem numeralInteger_eq_ok_iff {numeral : Json.Numeral} {word : Int64}
    : numeralInteger numeral = .ok word
      ↔ numeral.integer? = some word.toInt
        ∨ (∀ direct : Int64, numeral.integer? ≠ some direct.toInt)
          ∧ ∃ whole, numeral.units? = some (whole * Number.Binary64.one)
              ∧ word.toInt = signed numeral.negative whole := by
  have route (direct : Int64) : numeral.integer?.bind Number.int64? = some direct
      ↔ numeral.integer? = some direct.toInt := by
    rw [Option.bind_eq_some_iff]
    constructor
    · rintro ⟨integer, read, held⟩
      rw [read, int64?_eq_some_iff.mp held]
    · intro read
      exact ⟨_, read, int64?_eq_some_iff.mpr rfl⟩
  rw [numeralInteger]
  cases held : numeral.integer?.bind Number.int64? with
  | some direct =>
      have read := (route direct).mp held
      constructor
      · intro same
        rw [← Except.ok.inj same]
        exact .inl read
      · rintro (same | ⟨other, -⟩)
        · rw [read, Option.some.injEq, Int64.toInt_inj] at same
          rw [same]
        · exact absurd read (other direct)
  | none =>
      have other (direct : Int64) : numeral.integer? ≠ some direct.toInt := by
        rw [Ne, ← route, held]
        exact (Option.some_ne_none direct).symm
      rw [or_iff_right (other word), and_iff_right other]
      rw [Json.Numeral.float?]
      cases numeral.units? with
      | none => simp
      | some units =>
          rw [Option.map_some]
          dsimp only
          have taken : wholeInt64? ⟨numeral.negative, units⟩ = some word
              ↔ ∃ whole, units = whole * Number.Binary64.one
                ∧ word.toInt = signed numeral.negative whole :=
            wholeInt64?_eq_some_iff
          simp only [Option.some.injEq]
          rw [← taken]
          cases wholeInt64? ⟨numeral.negative, units⟩ <;> simp

-----------------------------------------------------------------------
-- What literals are taken as
-----------------------------------------------------------------------

section Laws

variable {numeral : Json.Numeral} {word : Int64}

/-- A literal that a word was read from directly is taken exactly. -/
theorem taken_directly {direct : Int64} (read : numeral.integer? = some direct.toInt)
    : numeralInteger numeral = .ok word ↔ numeral.value = word.toInt := by
  rw [numeralInteger_eq_ok_iff, or_iff_left fun other => other.1 direct read, integer?_value read,
    read, Option.some.injEq, Int.cast_inj]

/-- A literal of less than 2⁵³ in at most 22 places is taken exactly. -/
theorem taken_short (short : numeral.digits < 2 ^ 53) (places : -22 ≤ numeral.scale)
    (small : numeral.magnitude ≤ 2 ^ 53)
    : numeralInteger numeral = .ok word ↔ numeral.value = word.toInt := by
  by_cases direct : ∃ direct : Int64, numeral.integer? = some direct.toInt
  · obtain ⟨direct, read⟩ := direct
    exact taken_directly read
  · have other : ∀ direct : Int64, numeral.integer? ≠ some direct.toInt := not_exists.mp direct
    obtain ⟨units, read, exact⟩ := Json.Numeral.units?_exact short places small
    rw [numeralInteger_eq_ok_iff, or_iff_right (other word), and_iff_right other, value_eq_iff,
      read]
    refine exists_congr fun whole => and_congr_left fun _ => ?_
    rw [Option.some.injEq]
    exact exact whole

/-- The plain literals just below all words of 64 bits. -/
def InGap (value : ℚ) : Prop :=
  -2 ^ 63 - 1024 ≤ value ∧ value < -2 ^ 63

theorem value_plain (plain : numeral.isPlain)
    : numeral.value = (signed numeral.negative numeral.digits : Int) :=
  (value_eq_iff _ _).mpr ⟨_, Json.Numeral.magnitude_plain plain, rfl⟩

/-- A plain literal that no word is read from directly is minus zero, or beyond all words. -/
theorem beyond_words (plain : numeral.isPlain)
    (other : ∀ direct : Int64, numeral.integer? ≠ some direct.toInt)
    : numeral.negative ∧ (numeral.digits = 0 ∨ 2 ^ 63 < numeral.digits)
      ∨ numeral.negative = false ∧ 2 ^ 63 ≤ numeral.digits := by
  have noWord {integer : Int} (read : numeral.integer? = some integer) : ¬IsWord integer := by
    rintro ⟨low, high⟩
    obtain ⟨direct, -, same⟩ := Number.int64?_eq_some low high
    exact other direct (same ▸ read)
  have read := integer?_plain plain
  simp only [IsWord] at noWord
  cases negative : numeral.negative with
  | true =>
      refine .inl ⟨rfl, ?_⟩
      rw [negative, if_pos rfl] at read
      split at read
      · have beyond := noWord read
        omega
      · omega
  | false =>
      refine .inr ⟨rfl, ?_⟩
      rw [negative, if_neg Bool.false_ne_true] at read
      split at read
      · have beyond := noWord read
        omega
      · omega

/-- Beyond all words, plain literals are read as whole numbers of at least 2⁶³, if they are read.
Only those in the gap are read as 2⁶³ itself.
-/
theorem units?_beyond_words (plain : numeral.isPlain) (great : 2 ^ 63 ≤ numeral.digits)
    {whole : Nat} (read : numeral.units? = some (whole * Number.Binary64.one))
    : 2 ^ 63 ≤ whole ∧ (whole = 2 ^ 63 ↔ numeral.digits ≤ 2 ^ 63 + 1024) := by
  rcases Nat.lt_or_ge (2 ^ 63 + 1024) numeral.digits with beyond | gap
  · have more := Nat.lt_of_mul_lt_mul_right (Json.Numeral.units?_beyond plain beyond read)
    omega
  · rw [Json.Numeral.units?_gap plain great gap, Option.some.injEq,
      Nat.mul_left_inj Number.Binary64.one_pos.ne'] at read
    omega

theorem inGap_iff (value : Int)
    : InGap (value : ℚ) ↔ -2 ^ 63 - 1024 ≤ value ∧ value < -2 ^ 63 := by
  rw [InGap]
  exact_mod_cast Iff.rfl

/-- A plain literal is taken exactly, except for those just below all words: they are taken as the
least word. By cases of the place behind the ends of 64 bits.
-/
theorem taken_plain (plain : numeral.isPlain)
    : numeralInteger numeral = .ok word
      ↔ numeral.value = word.toInt ∨ InGap numeral.value ∧ word = Int64.minValue := by
  have low := word.le_toInt
  have high := word.toInt_lt
  have least : word = Int64.minValue ↔ word.toInt = -2 ^ 63 := Int64.toInt_inj.symm
  rw [value_plain plain, inGap_iff, least, Int.cast_inj]
  by_cases direct : ∃ direct : Int64, numeral.integer? = some direct.toInt
  · obtain ⟨direct, read⟩ := direct
    have directLow := direct.le_toInt
    have same := (value_plain plain).symm.trans (integer?_value read)
    rw [taken_directly read, value_plain plain, Int.cast_inj, Int.cast_inj.mp same]
    omega
  · have other : ∀ direct : Int64, numeral.integer? ≠ some direct.toInt := not_exists.mp direct
    rcases beyond_words plain other with ⟨negative, zero | great⟩ | ⟨positive, great⟩
    · have small : numeral.magnitude ≤ 2 ^ 53 := by
        rw [Json.Numeral.magnitude_plain plain, zero]
        norm_num
      have places : -22 ≤ numeral.scale := by
        rw [Json.Numeral.scale_plain plain]
        decide
      rw [taken_short (zero ▸ by decide) places small, value_plain plain, Int.cast_inj, signed,
        zero]
      simp only [Nat.cast_zero, neg_zero, ite_self]
      omega
    · rw [numeralInteger_eq_ok_iff, or_iff_right (other word), and_iff_right other, signed,
        negative]
      simp only [signed, if_true]
      constructor
      · rintro ⟨whole, read, held⟩
        have bounds := units?_beyond_words plain great.le read
        omega
      · rintro (same | ⟨gap, least⟩)
        · omega
        · exact ⟨2 ^ 63, Json.Numeral.units?_gap plain great.le (by omega), by omega⟩
    · rw [numeralInteger_eq_ok_iff, or_iff_right (other word), and_iff_right other, signed,
        positive]
      simp only [signed, Bool.false_eq_true, if_false]
      constructor
      · rintro ⟨whole, read, held⟩
        have bounds := units?_beyond_words plain great read
        omega
      · rintro (same | ⟨gap, least⟩) <;> omega

/-- A literal that is taken differs from its word by less than the 2⁴⁹th part. -/
theorem taken_close (taken : numeralInteger numeral = .ok word)
    : |numeral.value - word.toInt| ≤ |(word.toInt : ℚ)| / 2 ^ 49 + 1 / 10 ^ 250 := by
  rcases numeralInteger_eq_ok_iff.mp taken with read | ⟨-, whole, read, held⟩
  · rw [integer?_value read, sub_self, abs_zero]
    positivity
  · have close := Json.Numeral.units?_close read
    rw [held, Json.Numeral.value, signed]
    split
    · push_cast
      rwa [abs_neg, Nat.abs_cast, ← neg_add', abs_neg, ← sub_eq_add_neg]
    · rwa [Int.cast_natCast, Nat.abs_cast]

end Laws

end JobWatch.Wire
