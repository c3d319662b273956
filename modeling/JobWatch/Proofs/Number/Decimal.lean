import JobWatch.Number.Decimal

/-! Decimal spellings: an integer is written in its canonical spelling, and every text of digits is
read as the number it spells in base ten.
-/

namespace JobWatch.Number

/-- A digit is written as the character of its value, by cases. -/
theorem digitChar_eq (value : Nat) (small : value < 10)
    : digitChar (Fin.ofNat 10 value) = Nat.digitChar value := by
  match value, small with
  | 0, _ | 1, _ | 2, _ | 3, _ | 4, _ | 5, _ | 6, _ | 7, _ | 8, _ | 9, _ => rfl

/-- A natural number is written with its digits in base ten. Witness: both spellings take the last
digit off in the same way.
-/
theorem natural_eq_toDigits (value : Nat) : natural value = Nat.toDigits 10 value := by
  induction value using Nat.strongRecOn with
  | ind value ih =>
      rw [natural, toDigits, Nat.toDigits_eq_if (by decide)]
      split
      · rw [List.map_singleton, digitChar_eq value ‹_›]
      · have lower := ih (value / 10) (Nat.div_lt_self (by omega) (by decide))
        rw [natural] at lower
        have last : digitChar (Fin.ofNat 10 value) = Nat.digitChar (value % 10) := by
          rw [← digitChar_eq _ (Nat.mod_lt _ (by decide))]
          congr 1
          simp [Fin.ext_iff]
        rw [List.map_append, List.map_singleton, lower, last]

/-- A natural number is written in its canonical spelling. -/
theorem natural_eq_toString (value : Nat) : natural value = (toString value).toList := by
  rw [natural_eq_toDigits, Nat.toString_eq_ofList_toDigits, String.toList_ofList]

/-- An integer is written in its canonical spelling, by cases of its sign. -/
theorem signed_eq_toString (value : Int) : signed value = (toString value).toList := by
  cases value with
  | ofNat value => exact natural_eq_toString value
  | negSucc value =>
      rw [signed, natural_eq_toDigits]
      simp [toString, Int.repr]

/-- A natural number is told by its spelling: its digits are read as the number. -/
theorem natural_injective {value other : Nat} (same : natural value = natural other)
    : value = other := by
  rw [natural_eq_toDigits, natural_eq_toDigits] at same
  have number := congrArg (Nat.ofDigitChars 10 · 0) same
  simpa only [Nat.ofDigitChars_ten_toDigits] using number

/-- A natural number is spelled with digits only. -/
theorem isDigit_of_mem_natural {value : Nat} {c : Char} (member : c ∈ natural value)
    : c.isDigit := by
  obtain ⟨digit, -, rfl⟩ := List.mem_map.mp member
  exact (by decide : ∀ digit, (digitChar digit).isDigit) digit

theorem minus_not_mem (value : Nat) : '-' ∉ natural value := by
  intro member
  exact absurd (isDigit_of_mem_natural member) (by decide)

/-- An integer is spelled with digits and a minus sign, by cases of its sign. -/
theorem isDigit_of_mem_signed {value : Int} {c : Char} (member : c ∈ signed value)
    : c.isDigit ∨ c = '-' := by
  cases value with
  | ofNat value => exact .inl (isDigit_of_mem_natural member)
  | negSucc value =>
      rcases List.mem_cons.mp member with isMinus | member
      · exact .inr isMinus
      · exact .inl (isDigit_of_mem_natural member)

/-- An integer is told by its spelling: only that of a negative one has a minus sign. -/
theorem signed_injective {value other : Int} (same : signed value = signed other)
    : value = other := by
  cases value with
  | ofNat value =>
      cases other with
      | ofNat other => exact congrArg Int.ofNat (natural_injective same)
      | negSucc other =>
          refine absurd ?_ (minus_not_mem value)
          rw [show natural value = '-' :: natural (other + 1) from same]
          exact List.mem_cons_self
  | negSucc value =>
      cases other with
      | ofNat other =>
          refine absurd ?_ (minus_not_mem other)
          rw [show natural other = '-' :: natural (value + 1) from same.symm]
          exact List.mem_cons_self
      | negSucc other =>
          rw [Nat.succ.inj (natural_injective (List.cons.inj same).2)]

/-- Every digit is read as itself, by trying all ten. -/
theorem digit?_digitChar : ∀ digit, digit? (digitChar digit) = some digit := by
  decide

/-- Digits behind others are added to ten times their number, by the recursion on them. -/
theorem ofDigits_concat (digits : List (Fin 10)) (digit : Fin 10)
    : ofDigits (digits ++ [digit]) = 10 * ofDigits digits + digit.val := by
  rw [ofDigits, List.foldl_append]
  rfl

/-- Some digits of a number spell it. Witness: all digits but the last one are those of a tenth. -/
theorem ofDigits_toDigits (value : Nat) : ofDigits (toDigits value) = value := by
  induction value using Nat.strongRecOn with
  | ind value ih =>
      rw [toDigits]
      split
      · simp [ofDigits]
        omega
      · rw [ofDigits_concat, ih (value / 10) (Nat.div_lt_self (by omega) (by decide))]
        simp
        omega

/-- A number below a power of ten has at most as many digits. Witness: a tenth of it has one digit
less, and is below a power that is one less.
-/
theorem length_toDigits_le {width value : Nat} (some : 0 < width) (small : value < Nat.pow 10 width)
    : (toDigits value).length ≤ width := by
  induction width generalizing value with
  | zero => exact absurd some (Nat.lt_irrefl 0)
  | succ width ih =>
      rw [toDigits]
      split
      · simp
      · have power : Nat.pow 10 (width + 1) = Nat.pow 10 width * 10 := rfl
        rw [power] at small
        have notZero : 0 < width := by
          rcases Nat.eq_zero_or_pos width with rfl | some
          · change value < 1 * 10 at small
            omega
          · exact some
        have tenth : value / 10 < Nat.pow 10 width := by omega
        have shorter := ih notZero tenth
        rw [List.length_append, List.length_singleton]
        omega

/-- The digit of a character. -/
def digitOf (c : Char) : Fin 10 :=
  ⟨(c.toNat - 48) % 10, Nat.mod_lt _ (Nat.succ_pos 9)⟩

/-- Leading zeros count for nothing. -/
theorem ofDigits_zeros (count : Nat) (digits : List (Fin 10))
    : ofDigits (List.replicate count (digitOf '0') ++ digits) = ofDigits digits := by
  induction count with
  | zero => rfl
  | succ count ih => exact ih

theorem isDigit_bounds {c : Char} (digit : c.isDigit) : 48 ≤ c.toNat ∧ c.toNat ≤ 57 := by
  simp only [Char.isDigit, Bool.and_eq_true, decide_eq_true_eq] at digit
  exact digit

theorem digit?_of_isDigit {c : Char} (digit : c.isDigit) : digit? c = some (digitOf c) := by
  obtain ⟨low, high⟩ := isDigit_bounds digit
  have bounds : '0' ≤ c ∧ c ≤ '9' := ⟨low, high⟩
  rw [digit?, dif_pos bounds]
  simp only [digitOf, Option.some.injEq, Fin.ext_iff]
  omega

theorem digitOf_val {c : Char} (digit : c.isDigit) : (digitOf c).val = c.toNat - 48 := by
  obtain ⟨low, high⟩ := isDigit_bounds digit
  simp only [digitOf]
  omega

/-- Digits are read one by one, by induction. -/
theorem mapM_digit? {text : List Char} (digits : ∀ c ∈ text, c.isDigit)
    : text.mapM digit? = some (text.map digitOf) := by
  induction text with
  | nil => rfl
  | cons c rest ih =>
      rw [List.mapM_cons, digit?_of_isDigit (digits c List.mem_cons_self),
        ih fun d member => digits d (List.mem_cons_of_mem _ member)]
      rfl

/-- The number of some digits is the one they spell in base ten. Witness: induction on the digits,
behind any number read so far.
-/
theorem ofDigits_map_digitOf {text : List Char} (digits : ∀ c ∈ text, c.isDigit)
    : ofDigits (text.map digitOf) = Nat.ofDigitChars 10 text 0 := by
  suffices general : ∀ start,
      (text.map digitOf).foldl (fun value digit => 10 * value + digit.val) start
        = Nat.ofDigitChars 10 text start from general 0
  induction text with
  | nil => simp
  | cons c rest ih =>
      intro start
      rw [List.map_cons, List.foldl_cons, digitOf_val (digits c List.mem_cons_self),
        Nat.ofDigitChars_cons, ih fun d member => digits d (List.mem_cons_of_mem _ member)]
      rfl

/-- A text of digits is read as the number it spells, leading zeros or not. -/
theorem natural?_digits {text : List Char} (digits : ∀ c ∈ text, c.isDigit) (nonempty : text ≠ [])
    : natural? text = some (Nat.ofDigitChars 10 text 0) := by
  rw [natural?, mapM_digit? digits]
  cases text with
  | nil => exact absurd rfl nonempty
  | cons c rest => simp only [List.map_cons, ← ofDigits_map_digitOf digits]

/-- The word of a value within its range holds this value. -/
theorem int64?_eq_some {value : Int} (low : -0x8000000000000000 ≤ value)
    (high : value ≤ 0x7FFFFFFFFFFFFFFF)
    : ∃ word, int64? value = some word ∧ word.toInt = value := by
  refine ⟨Int64.ofInt value, if_pos ⟨low, high⟩, Int64.toInt_ofInt_of_le low ?_⟩
  exact Int.lt_of_le_sub_one high

end JobWatch.Number
