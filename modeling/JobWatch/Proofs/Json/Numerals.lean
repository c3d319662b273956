import JobWatch.Json.Value
import JobWatch.Proofs.Number.Decimal
import JobWatch.Proofs.Number.Scaling
import Mathlib.Algebra.Order.Field.Power

/-! The exact value of a number literal, and how far the binary64 number that it is read as is from
it. Short literals are read exactly where they are whole; a long one loses its digits behind the
first 64 bits, and the rest is rounded up to three times.
-/

namespace JobWatch

-----------------------------------------------------------------------
-- Digits
-----------------------------------------------------------------------

namespace Number

/-- The number that digits spell behind a number spelled before them. -/
def digitsBehind (start : Nat) (digits : List (Fin 10)) : Nat :=
  digits.foldl (fun value digit => 10 * value + digit.val) start

theorem digitsBehind_append (start : Nat) (digits more : List (Fin 10))
    : digitsBehind start (digits ++ more) = digitsBehind (digitsBehind start digits) more :=
  List.foldl_append

/-- Digits shift the number before them by their count, and add less than that. -/
theorem digitsBehind_bounds (start : Nat) (digits : List (Fin 10))
    : start * 10 ^ digits.length ≤ digitsBehind start digits
      ∧ digitsBehind start digits < (start + 1) * 10 ^ digits.length := by
  induction digits generalizing start with
  | nil => simp [digitsBehind]
  | cons digit rest ih =>
      obtain ⟨low, high⟩ := ih (10 * start + digit.val)
      rw [List.length_cons, Nat.pow_succ']
      constructor
      · calc start * (10 * 10 ^ rest.length) = 10 * start * 10 ^ rest.length := by ring
          _ ≤ (10 * start + digit.val) * 10 ^ rest.length :=
            Nat.mul_le_mul_right _ (Nat.le_add_right _ _)
          _ ≤ digitsBehind start (digit :: rest) := low
      · calc digitsBehind start (digit :: rest)
            < (10 * start + digit.val + 1) * 10 ^ rest.length := high
          _ ≤ 10 * (start + 1) * 10 ^ rest.length := Nat.mul_le_mul_right _ (by omega)
          _ = (start + 1) * (10 * 10 ^ rest.length) := by ring

end Number

namespace Json.Numeral

open JobWatch.Number

-----------------------------------------------------------------------
-- Exact values
-----------------------------------------------------------------------

/-- All digits of a literal, as a whole number. -/
def digits (numeral : Numeral) : Nat :=
  Number.ofDigits (numeral.whole ++ numeral.fraction)

/-- The power of ten that the last digit stands for. -/
def scale (numeral : Numeral) : Int :=
  numeral.exponent.getD 0 - numeral.fraction.length

/-- The exact magnitude of a literal. -/
def magnitude (numeral : Numeral) : ℚ :=
  numeral.digits * 10 ^ numeral.scale

/-- The exact value of a literal. -/
def value (numeral : Numeral) : ℚ :=
  if numeral.negative then -numeral.magnitude else numeral.magnitude

theorem magnitude_nonneg (numeral : Numeral) : 0 ≤ numeral.magnitude :=
  mul_nonneg (Nat.cast_nonneg _) (zpow_nonneg (by norm_num) _)

-----------------------------------------------------------------------
-- Leading digits
-----------------------------------------------------------------------

/-- Gathered digits are the leading ones of a number. None is dropped as long as 64 bits are enough
for all of them.
-/
structure Gathered.Leads (gathered : Gathered) (number : Nat) : Prop where
  low : gathered.significand * 10 ^ gathered.dropped ≤ number
  high : number < (gathered.significand + 1) * 10 ^ gathered.dropped
  full : gathered.full ↔ 0 < gathered.dropped
  fits : gathered.significand < UInt64.size
  long : 0 < gathered.dropped → UInt64.size ≤ number ∧ UInt64.size / 10 ≤ gathered.significand

/-- Where no digit is dropped, all of the number is gathered. -/
theorem Gathered.Leads.whole {gathered : Gathered} {number : Nat} (leads : gathered.Leads number)
    (none : gathered.dropped = 0)
    : gathered.significand = number := by
  have low := leads.low
  have high := leads.high
  rw [none, Nat.pow_zero, Nat.mul_one] at low high
  omega

/-- Where 64 bits are enough, no digit is dropped. -/
theorem Gathered.Leads.none_dropped {gathered : Gathered} {number : Nat}
    (leads : gathered.Leads number) (small : number < UInt64.size)
    : gathered.dropped = 0 := by
  refine Nat.eq_zero_of_not_pos fun some => ?_
  have reached := (leads.long some).1
  omega

/-- One more digit is gathered or dropped, by cases of the room for it. -/
theorem Gathered.Leads.push {gathered : Gathered} {number : Nat} (leads : gathered.Leads number)
    (digit : Fin 10)
    : (gathered.push digit).Leads (10 * number + digit.val) := by
  have small := digit.isLt
  have low := leads.low
  have high := leads.high
  unfold Gathered.push
  dsimp only
  split
  next noRoom =>
      have tenfold : 10 ^ (gathered.dropped + 1) = 10 * 10 ^ gathered.dropped := Nat.pow_succ'
      refine ⟨?_, ?_, by simp, leads.fits, fun _ => ?_⟩
      · dsimp only
        rw [tenfold, Nat.mul_left_comm]
        omega
      · dsimp only
        rw [tenfold, Nat.mul_left_comm]
        omega
      · rcases Nat.eq_zero_or_pos gathered.dropped with none | some
        · have notFull : gathered.full = false := by simpa [none] using leads.full
          have outgrown : UInt64.size ≤ 10 * gathered.significand + digit.val := by
            simpa [notFull] using noRoom
          rw [← leads.whole none]
          rw [UInt64.size] at outgrown ⊢
          dsimp only
          omega
        · obtain ⟨reached, leading⟩ := leads.long some
          exact ⟨by omega, leading⟩
  next room =>
      obtain ⟨notFull, fits⟩ : gathered.full = false ∧ ¬UInt64.size ≤ _ := by
        simpa only [Bool.or_eq_true, decide_eq_true_eq, not_or, Bool.not_eq_true] using room
      have none : gathered.dropped = 0 := by
        have noDrop := mt leads.full.mpr (by simp [notFull])
        omega
      refine ⟨?_, ?_, leads.full, Nat.lt_of_not_le fits, fun some => absurd some (by simp [none])⟩
      · dsimp only
        rw [none, leads.whole none, Nat.pow_zero, Nat.mul_one]
      · dsimp only
        rw [none, leads.whole none, Nat.pow_zero, Nat.mul_one]
        exact Nat.lt_succ_self _

/-- The digits of a run are gathered behind a significand. Witness: induction on the run. -/
theorem gather_leads {significand : Nat} (fits : significand < UInt64.size)
    (digits : List (Fin 10))
    : (gather significand digits).Leads (Number.digitsBehind significand digits) := by
  have start : Gathered.Leads ⟨significand, 0, false⟩ significand :=
    ⟨by simp, by simp, by simp, fits, by simp⟩
  unfold gather Number.digitsBehind
  generalize (⟨significand, 0, false⟩ : Gathered) = gathered at start
  generalize significand = number at start ⊢
  induction digits generalizing gathered number with
  | nil => exact start
  | cons digit rest ih => exact ih _ _ (start.push digit)

/-- The digits that may be dropped behind a significand count for less than its 2⁶⁰th part. -/
theorem Gathered.Leads.next {gathered : Gathered} {number : Nat} (leads : gathered.Leads number)
    (some : 0 < gathered.dropped)
    : (gathered.significand : ℚ) + 1 ≤ gathered.significand * (1 + 1 / 2 ^ 60) := by
  have leading : (2 ^ 60 : ℚ) ≤ gathered.significand := by
    exact_mod_cast Nat.le_trans (by decide) (leads.long some).2
  linarith

/-- Gathered digits stand for nearly the whole number. -/
theorem Gathered.Leads.close {gathered : Gathered} {number : Nat} (leads : gathered.Leads number)
    : (number : ℚ) ≤ gathered.significand * 10 ^ gathered.dropped * (1 + 1 / 2 ^ 60) := by
  rcases Nat.eq_zero_or_pos gathered.dropped with none | some
  · rw [none, leads.whole none, pow_zero, mul_one]
    exact le_mul_of_one_le_right (Nat.cast_nonneg _) (by norm_num)
  · have high : (number : ℚ) ≤ (gathered.significand + 1) * 10 ^ gathered.dropped := by
      exact_mod_cast leads.high.le
    calc (number : ℚ) ≤ (gathered.significand + 1) * 10 ^ gathered.dropped := high
      _ ≤ gathered.significand * (1 + 1 / 2 ^ 60) * 10 ^ gathered.dropped :=
        mul_le_mul_of_nonneg_right (leads.next some) (by positivity)
      _ = _ := by ring

/-- Digits behind gathered ones stand for nearly the same as behind all of them: either number lies
between the significand and the next one, shifted by the same power of ten.
-/
theorem Gathered.Leads.behind {gathered : Gathered} {number : Nat} (leads : gathered.Leads number)
    (digits : List (Fin 10))
    : let whole := Number.digitsBehind number digits
      let kept := Number.digitsBehind gathered.significand digits * 10 ^ gathered.dropped
      (whole : ℚ) ≤ kept * (1 + 1 / 2 ^ 60) ∧ (kept : ℚ) ≤ whole * (1 + 1 / 2 ^ 60) := by
  intro whole kept
  rcases Nat.eq_zero_or_pos gathered.dropped with none | some
  · have same : kept = whole := by
      simp only [kept, whole, none, leads.whole none, Nat.pow_zero, Nat.mul_one]
    have positive : (0 : ℚ) ≤ whole := Nat.cast_nonneg _
    rw [same]
    constructor <;> linarith
  · obtain ⟨wholeLow, wholeHigh⟩ := Number.digitsBehind_bounds number digits
    obtain ⟨keptLow, keptHigh⟩ := Number.digitsBehind_bounds gathered.significand digits
    let power := 10 ^ gathered.dropped * 10 ^ digits.length
    have between (value : Nat) (low : gathered.significand * power ≤ value)
        (high : value ≤ (gathered.significand + 1) * power)
        : (gathered.significand * power : ℚ) ≤ value
          ∧ (value : ℚ) ≤ gathered.significand * power * (1 + 1 / 2 ^ 60) := by
      refine ⟨by exact_mod_cast low, ?_⟩
      calc (value : ℚ) ≤ (gathered.significand + 1) * power := by exact_mod_cast high
        _ ≤ gathered.significand * (1 + 1 / 2 ^ 60) * power :=
          mul_le_mul_of_nonneg_right (leads.next some) (Nat.cast_nonneg _)
        _ = gathered.significand * power * (1 + 1 / 2 ^ 60) := by ring
    have wholeBetween := between whole
      (by
        rw [← Nat.mul_assoc]
        exact Nat.le_trans (Nat.mul_le_mul_right _ leads.low) wholeLow)
      (by
        rw [← Nat.mul_assoc]
        exact Nat.le_trans wholeHigh.le (Nat.mul_le_mul_right _ leads.high))
    have keptBetween := between kept
      (by
        rw [Nat.mul_left_comm, Nat.mul_comm]
        exact Nat.mul_le_mul_right _ keptLow)
      (by
        rw [Nat.mul_left_comm, Nat.mul_comm (10 ^ gathered.dropped)]
        exact Nat.mul_le_mul_right _ keptHigh.le)
    obtain ⟨wholeLow, wholeHigh⟩ := wholeBetween
    obtain ⟨keptLow, keptHigh⟩ := keptBetween
    constructor <;> linarith

/-- What a literal is read by: the leading digits that fit into 64 bits, and how many are dropped.
-/
structure Leading (numeral : Numeral) (significand dropped : Nat) : Prop where
  read : numeral.units? = Binary64.ofScaled? significand (numeral.scale + dropped)
  fits : significand < UInt64.size
  whole : numeral.digits < UInt64.size → dropped = 0 ∧ significand = numeral.digits
  near : Binary64.Near 1 numeral.digits (significand * 10 ^ dropped)
  long : numeral.fraction = [] → UInt64.size ≤ numeral.digits
    → 0 < dropped ∧ UInt64.size / 10 ≤ significand

/-- Every literal is read by leading digits of it. A digit of the fraction may take the place of a
dropped one before the point; it then counts for the same power of ten.
-/
theorem leading (numeral : Numeral)
    : ∃ significand dropped, numeral.Leading significand dropped := by
  have fits : 0 < UInt64.size := by decide
  have whole := gather_leads fits numeral.whole
  have all := gather_leads whole.fits numeral.fraction
  have parts : numeral.digits
      = Number.digitsBehind (Number.digitsBehind 0 numeral.whole) numeral.fraction :=
    Number.digitsBehind_append 0 numeral.whole numeral.fraction
  have read : numeral.units?
      = Binary64.ofScaled?
          (gather (gather 0 numeral.whole).significand numeral.fraction).significand
          (numeral.exponent.getD 0 + (gather 0 numeral.whole).dropped
            - (numeral.fraction.length
              - (gather (gather 0 numeral.whole).significand numeral.fraction).dropped)) := rfl
  generalize Number.digitsBehind 0 numeral.whole = wholeNumber at whole parts
  generalize gather 0 numeral.whole = first at whole all read
  have same : first.dropped = 0
      → Number.digitsBehind first.significand numeral.fraction = numeral.digits := by
    intro none
    rw [parts, whole.whole none]
  have plain : numeral.fraction = []
      → (gather first.significand numeral.fraction).significand = first.significand := by
    intro noFraction
    rw [noFraction]
    rfl
  obtain ⟨high, low⟩ := whole.behind numeral.fraction
  rw [← parts] at high low
  generalize gather first.significand numeral.fraction = second at all read plain
  generalize Number.digitsBehind first.significand numeral.fraction = kept at all same high low
  refine ⟨second.significand, first.dropped + second.dropped, ⟨?_, all.fits, ?_, ?_, ?_⟩⟩
  · rw [read, scale]
    congr 1
    push_cast
    ring
  · intro small
    have less : wholeNumber ≤ numeral.digits := by
      rw [parts]
      exact Nat.le_trans (Nat.le_mul_of_pos_right _ (Nat.pow_pos (by decide)))
        (Number.digitsBehind_bounds _ _).1
    have none := whole.none_dropped (Nat.lt_of_le_of_lt less small)
    rw [same none] at all
    have noneBehind := all.none_dropped small
    exact ⟨by rw [none, noneBehind], all.whole noneBehind⟩
  · have gatheredLow : (second.significand : ℚ) * 10 ^ second.dropped ≤ kept := by
      exact_mod_cast all.low
    have gatheredHigh := all.close
    have power : (0 : ℚ) ≤ 10 ^ first.dropped := by positivity
    push_cast at high low
    rw [Binary64.Near, pow_one, Nat.add_comm, pow_add, ← mul_assoc]
    have shiftedLow := mul_le_mul_of_nonneg_right gatheredLow power
    have shiftedHigh := mul_le_mul_of_nonneg_right gatheredHigh power
    have some : (0 : ℚ) ≤ second.significand * 10 ^ second.dropped * 10 ^ first.dropped := by
      positivity
    have digits : (0 : ℚ) ≤ numeral.digits := Nat.cast_nonneg _
    constructor <;> linarith
  · intro noFraction great
    have number : numeral.digits = wholeNumber := by
      rw [parts, noFraction]
      rfl
    have some : 0 < first.dropped := by
      refine Nat.pos_of_ne_zero fun none => ?_
      have fits := whole.fits
      have whole := whole.whole none
      omega
    exact ⟨Nat.add_pos_left some _, plain noFraction ▸ (whole.long some).2⟩

-----------------------------------------------------------------------
-- Short literals
-----------------------------------------------------------------------

section Short

variable {numeral : Numeral}

/-- A literal of which 64 bits hold all digits is read by these digits. -/
theorem units?_short (small : numeral.digits < UInt64.size)
    : numeral.units? = Binary64.ofScaled? numeral.digits numeral.scale := by
  obtain ⟨significand, dropped, leading⟩ := numeral.leading
  obtain ⟨rfl, rfl⟩ := leading.whole small
  rw [leading.read, Nat.cast_zero, add_zero]

/-- A short literal that is no greater than 2⁵³ is read as a whole number exactly if it is one. -/
theorem units?_exact (short : numeral.digits < 2 ^ 53) (places : -22 ≤ numeral.scale)
    (small : numeral.magnitude ≤ 2 ^ 53)
    : ∃ units, numeral.units? = some units
        ∧ ∀ whole : Nat, units = whole * Binary64.one ↔ numeral.magnitude = whole := by
  rw [units?_short (Nat.lt_trans short (by decide))]
  rw [magnitude] at small ⊢
  generalize numeral.digits = digits at *
  generalize numeral.scale = scale at *
  cases scale with
  | ofNat exponent =>
      have product : (digits : ℚ) * 10 ^ Int.ofNat exponent = (digits * 10 ^ exponent : Nat) := by
        rw [Int.ofNat_eq_natCast, zpow_natCast]
        push_cast
        rfl
      rw [product] at small ⊢
      have scaled := Binary64.scaleUp?_exact (by exact_mod_cast small)
      refine ⟨_, scaled, fun whole => ?_⟩
      rw [Nat.mul_left_inj Binary64.one_pos.ne', Nat.cast_inj]
  | negSucc exponent =>
      have power : (10 : ℚ) ^ (exponent + 1) ≠ 0 := by positivity
      refine ⟨_, rfl, fun whole => ?_⟩
      rw [Binary64.scaleDown_exact short (by omega), zpow_negSucc, ← div_eq_mul_inv,
        div_eq_iff power]
      exact_mod_cast Iff.rfl

end Short

-----------------------------------------------------------------------
-- Rounding errors of literals
-----------------------------------------------------------------------

/-- A literal that is read as a whole number is off by less than its 2⁴⁹th part, or it is nearly
zero. Its digits are cut once, and the number is rounded three times.
-/
theorem units?_close {numeral : Numeral} {whole : Nat}
    (read : numeral.units? = some (whole * Binary64.one))
    : |numeral.magnitude - whole| ≤ whole / 2 ^ 49 + 1 / 10 ^ 250 := by
  obtain ⟨significand, dropped, leading⟩ := numeral.leading
  have digits := leading.near
  have fits := leading.fits
  rw [leading.read] at read
  have cut : Binary64.Near 1 numeral.magnitude
      (significand * 10 ^ (numeral.scale + dropped)) := by
    have power : (0 : ℚ) ≤ 10 ^ numeral.scale := zpow_nonneg (by norm_num) _
    have same : Binary64.Near 0 (10 ^ numeral.scale) (10 ^ numeral.scale) := by
      simp [Binary64.Near]
    have shifted := digits.mul same (Nat.cast_nonneg _) (by positivity) power power
    rwa [mul_assoc, mul_comm (10 ^ dropped), ← zpow_natCast, ← zpow_add₀ (by norm_num)] at shifted
  generalize numeral.scale + dropped = scale at read cut
  have rounded (near : Binary64.Near 3 (significand * 10 ^ scale) whole)
      : |numeral.magnitude - whole| ≤ whole / 2 ^ 49 + 1 / 10 ^ 250 :=
    le_add_of_le_of_nonneg ((cut.trans near).error (Nat.cast_nonneg _)) (by norm_num)
  have tiny (none : whole = 0) (small : (significand * 10 ^ scale : ℚ) ≤ 1 / 10 ^ 251)
      : |numeral.magnitude - whole| ≤ whole / 2 ^ 49 + 1 / 10 ^ 250 := by
    rw [none, Nat.cast_zero, sub_zero, zero_div, zero_add, abs_of_nonneg numeral.magnitude_nonneg]
    calc numeral.magnitude ≤ significand * 10 ^ scale * (1 + 1 / 2 ^ 52) ^ 1 := cut.1
      _ ≤ 1 / 10 ^ 251 * 10 := mul_le_mul small (by norm_num) (by norm_num) (by norm_num)
      _ = 1 / 10 ^ 250 := by norm_num
  cases scale with
  | ofNat exponent =>
      have near := Binary64.scaleUp?_near read
      rw [Binary64.magnitude_whole, ← zpow_natCast] at near
      exact rounded near
  | negSucc exponent =>
      have read : Binary64.scaleDown (Binary64.ofNat significand) (exponent + 1)
          = whole * Binary64.one := Option.some.inj read
      rw [zpow_negSucc, ← div_eq_mul_inv] at rounded tiny
      rcases Nat.lt_or_ge 308 (exponent + 1) with far | near
      · have below := Binary64.scaleDown_far fits.le far
        rw [read] at below
        have none : whole = 0 := by
          refine Nat.eq_zero_of_not_pos fun some => ?_
          have atLeast := Nat.le_mul_of_pos_left Binary64.one some
          omega
        refine tiny none ?_
        have digits : (significand : ℚ) ≤ 10 ^ 20 := by
          exact_mod_cast Nat.le_trans fits.le (by decide)
        have places : (10 : ℚ) ^ 271 ≤ 10 ^ (exponent + 1) :=
          pow_le_pow_right₀ (by norm_num) (by omega)
        have both : (10 : ℚ) ^ 271 = 10 ^ 20 * 10 ^ 251 := (pow_add 10 20 251)
        rw [div_le_div_iff₀ (by positivity) (by positivity), one_mul]
        calc (significand : ℚ) * 10 ^ 251 ≤ 10 ^ 20 * 10 ^ 251 :=
              mul_le_mul_of_nonneg_right digits (by positivity)
          _ = 10 ^ 271 := both.symm
          _ ≤ _ := places
      · rcases Nat.eq_zero_or_pos whole with none | some
        · rw [none, Nat.zero_mul] at read
          exact tiny none ((Binary64.scaleDown_zero near read).trans Binary64.two_units_tiny)
        · have atLeast
              : Binary64.one ≤ Binary64.scaleDown (Binary64.ofNat significand) (exponent + 1) :=
            read ▸ Nat.le_mul_of_pos_left _ some
          have near := Binary64.scaleDown_near near atLeast
          rw [read, Binary64.magnitude_whole] at near
          exact rounded near

-----------------------------------------------------------------------
-- Plain literals
-----------------------------------------------------------------------

section Plain

variable {numeral : Numeral}

theorem scale_plain (plain : numeral.isPlain) : numeral.scale = 0 := by
  obtain ⟨noFraction, noExponent⟩ : numeral.fraction = [] ∧ numeral.exponent = none := by
    simpa [isPlain] using plain
  rw [scale, noFraction, noExponent]
  rfl

theorem magnitude_plain (plain : numeral.isPlain) : numeral.magnitude = numeral.digits := by
  rw [magnitude, scale_plain plain, zpow_zero, mul_one]

/-- Up to half the way to its neighbour, plain literals are read as 2⁶³. -/
theorem units?_gap (plain : numeral.isPlain) (least : 2 ^ 63 ≤ numeral.digits)
    (most : numeral.digits ≤ 2 ^ 63 + 1024)
    : numeral.units? = some (2 ^ 63 * Binary64.one) := by
  have fits : numeral.digits < UInt64.size := by
    rw [UInt64.size]
    omega
  rw [units?_short fits, scale_plain plain]
  exact (Binary64.scaleUp?_zero fits.le).trans (congrArg some (Binary64.ofNat_gap least most))

/-- Behind that they are read as more, if they are read at all. -/
theorem units?_beyond {units : Nat} (plain : numeral.isPlain)
    (least : 2 ^ 63 + 1024 < numeral.digits) (read : numeral.units? = some units)
    : 2 ^ 63 * Binary64.one < units := by
  rcases Nat.lt_or_ge numeral.digits UInt64.size with fits | great
  · rw [units?_short fits, scale_plain plain] at read
    rw [← Option.some.inj ((Binary64.scaleUp?_zero fits.le).symm.trans read)]
    exact Binary64.lt_ofNat least fits
  · obtain ⟨significand, dropped, leading⟩ := numeral.leading
    have noFraction : numeral.fraction = [] := by
      simp only [isPlain, Bool.and_eq_true, List.isEmpty_iff] at plain
      exact plain.1
    obtain ⟨some, long⟩ := leading.long noFraction great
    rw [leading.read, scale_plain plain, zero_add] at read
    exact Binary64.scaleUp?_great long some read

end Plain

end Json.Numeral

end JobWatch
