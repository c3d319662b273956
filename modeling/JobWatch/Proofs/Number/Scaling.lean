import JobWatch.Proofs.Number.Rounding

/-! A number times a power of ten, as it is rounded to binary64. The number, the power and what
comes of them are rounded one by one: three small errors where the result is one or more, and none
where all three are held by the format.
-/

namespace JobWatch.Number.Binary64

-----------------------------------------------------------------------
-- Relative errors
-----------------------------------------------------------------------

/-- The quotient of two numbers is that of at most so many roundings, in either direction. -/
def Near (steps : Nat) (left right : ℚ) : Prop :=
  left ≤ right * (1 + 1 / 2 ^ 52) ^ steps ∧ right ≤ left * (1 + 1 / 2 ^ 52) ^ steps

section Relative

variable {first second : Nat} {left middle right : ℚ}

theorem Near.symm (near : Near first left right) : Near first right left :=
  ⟨near.2, near.1⟩

/-- A rounding is one step. -/
theorem Near.of_close (close : |left - right| ≤ left / 2 ^ 53) : Near 1 left right := by
  obtain ⟨low, high⟩ := abs_le.mp close
  constructor <;> rw [pow_one] <;> linarith

theorem Near.trans (near : Near first left middle) (further : Near second middle right)
    : Near (first + second) left right := by
  constructor
  · calc left ≤ middle * (1 + 1 / 2 ^ 52) ^ first := near.1
      _ ≤ right * (1 + 1 / 2 ^ 52) ^ second * (1 + 1 / 2 ^ 52) ^ first :=
        mul_le_mul_of_nonneg_right further.1 (by positivity)
      _ = right * (1 + 1 / 2 ^ 52) ^ (first + second) := by ring
  · calc right ≤ middle * (1 + 1 / 2 ^ 52) ^ second := further.2
      _ ≤ left * (1 + 1 / 2 ^ 52) ^ first * (1 + 1 / 2 ^ 52) ^ second :=
        mul_le_mul_of_nonneg_right near.2 (by positivity)
      _ = left * (1 + 1 / 2 ^ 52) ^ (first + second) := by ring

theorem Near.inv (near : Near first left right) (positive : 0 < left) (some : 0 < right)
    : Near first left⁻¹ right⁻¹ := by
  have inverted {small great : ℚ} (smallPositive : 0 < small) (greatPositive : 0 < great)
      (bound : small ≤ great * (1 + 1 / 2 ^ 52) ^ first)
      : great⁻¹ ≤ small⁻¹ * (1 + 1 / 2 ^ 52) ^ first := by
    rw [inv_mul_eq_div, le_div_iff₀ smallPositive, inv_mul_le_iff₀ greatPositive]
    exact bound
  exact ⟨inverted some positive near.2, inverted positive some near.1⟩

/-- The errors of factors add up. -/
theorem Near.mul {left' right' : ℚ} (near : Near first left right)
    (near' : Near second left' right')
    (leftSome : 0 ≤ left) (rightSome : 0 ≤ right) (leftSome' : 0 ≤ left') (rightSome' : 0 ≤ right')
    : Near (first + second) (left * left') (right * right') := by
  rw [Near, pow_add]
  constructor
  · rw [mul_mul_mul_comm]
    exact mul_le_mul near.1 near'.1 leftSome' (by positivity)
  · rw [mul_mul_mul_comm]
    exact mul_le_mul near.2 near'.2 rightSome' (by positivity)

/-- Four roundings are off by less than the 2⁴⁹th part. -/
theorem Near.error (near : Near 4 left right) (some : 0 ≤ right)
    : |left - right| ≤ right / 2 ^ 49 := by
  obtain ⟨low, high⟩ := near
  rw [abs_le]
  constructor <;> norm_num at * <;> linarith

end Relative

-----------------------------------------------------------------------
-- Scaling by powers of ten
-----------------------------------------------------------------------

theorem magnitude_nonneg (units : Nat) : 0 ≤ magnitude units := by
  rw [magnitude]
  positivity

theorem magnitude_pos {units : Nat} (some : 0 < units) : 0 < magnitude units :=
  div_pos (by exact_mod_cast some) cast_one_pos

theorem one_le_ofNat {value : Nat} (some : 0 < value) : one ≤ ofNat value := by
  have held := isHeld_power 0
  simp only [Nat.pow_zero] at held
  simpa using le_ofNat held some

theorem ofNat_near (value : Nat) : Near 1 value (magnitude (ofNat value)) :=
  .of_close (ofNat_close value)

theorem one_le_powerOfTen (exponent : Nat) : one ≤ powerOfTen exponent :=
  one_le_ofNat (Nat.pow_pos (by decide))

theorem powerOfTen_pos (exponent : Nat) : 0 < powerOfTen exponent :=
  Nat.lt_of_lt_of_le one_pos (one_le_powerOfTen exponent)

theorem powerOfTen_near (exponent : Nat)
    : Near 1 (10 ^ exponent) (magnitude (powerOfTen exponent)) := by
  have near := ofNat_near (Nat.pow 10 exponent)
  rwa [Nat.pow_eq, Nat.cast_pow] at near

/-- A number scaled up is rounded three times: itself, the power of ten, and their product. -/
theorem scaleUp?_near {value exponent units : Nat}
    (scaled : scaleUp? (ofNat value) exponent = some units)
    : Near 3 (value * 10 ^ exponent) (magnitude units) := by
  rcases Nat.eq_zero_or_pos value with rfl | some
  · have zero : ofNat 0 = 0 := by simpa using ofNat_small (Nat.zero_le _)
    rw [zero, scaleUp?, if_pos rfl, Option.some.injEq] at scaled
    rw [← scaled, Near, magnitude, Nat.cast_zero, zero_div]
    simp
  · have atLeast := one_le_ofNat some
    have power := one_le_powerOfTen exponent
    have positive := one_pos
    rw [scaleUp?, if_neg (by omega)] at scaled
    split at scaled
    · dsimp only at scaled
      split at scaled
      · have normal : 2 ^ 52 * one ≤ ofNat value * powerOfTen exponent := by
          obtain ⟨scale, long, same⟩ := one_scaled
          refine Nat.mul_le_mul (Nat.le_trans ?_ atLeast) power
          rw [same]
          exact Nat.pow_le_pow_right (by decide) (Nat.le_trans (by decide) long)
        rw [← Option.some.inj scaled]
        have factors := (ofNat_near value).mul (powerOfTen_near exponent) (Nat.cast_nonneg _)
          (magnitude_nonneg _) (by positivity) (magnitude_nonneg _)
        have rounded := factors.trans (.of_close (multiply_close normal))
        exact rounded
      · cases scaled
    · cases scaled

/-- The quotient of a number and a power of ten, before it is rounded. -/
theorem quotient_near (value exponent : Nat)
    : Near 2 (value / 10 ^ exponent)
        (magnitude (ofNat value) / magnitude (powerOfTen exponent)) := by
  have power := magnitude_pos (powerOfTen_pos exponent)
  rw [div_eq_mul_inv, div_eq_mul_inv]
  have inverse := (powerOfTen_near exponent).inv (by positivity) power
  have factors := (ofNat_near value).mul inverse (Nat.cast_nonneg _) (magnitude_nonneg _)
    (by positivity) (inv_nonneg.mpr power.le)
  exact factors

/-- A number scaled down to one or more is rounded three times. -/
theorem scaleDown_near {value exponent : Nat} (small : exponent ≤ 308)
    (some : one ≤ scaleDown (ofNat value) exponent)
    : Near 3 (value / 10 ^ exponent) (magnitude (scaleDown (ofNat value) exponent)) := by
  rw [scaleDown, if_pos small] at some ⊢
  have normal := normal_of_one_le (powerOfTen_pos exponent) some
  have close := divide_close (powerOfTen_pos exponent) normal
  have rounded := (quotient_near value exponent).trans (.of_close close)
  exact rounded

/-- Two units are much less than the numbers that are told apart here. -/
theorem two_units_tiny : (2 : ℚ) / one ≤ 1 / 10 ^ 251 := by
  have power (count : Nat) (small : 10 * count ≤ 1000) : (2 ^ 10) ^ count ≤ one :=
    (Nat.pow_mul 2 10 count).symm.trans_le (le_one small)
  have great : 2 * 10 ^ 251 ≤ one := by
    calc 2 * 10 ^ 251 ≤ 10 * 10 ^ 251 := Nat.mul_le_mul_right _ (by decide)
      _ = (10 ^ 3) ^ 84 := by rw [← Nat.pow_succ', ← Nat.pow_mul]
      _ ≤ (2 ^ 10) ^ 84 := Nat.pow_le_pow_left (by decide) 84
      _ ≤ one := power 84 (by decide)
  rw [div_le_div_iff₀ cast_one_pos (by positivity), one_mul]
  exact_mod_cast great

/-- A number scaled down to nothing is less than two units. -/
theorem scaleDown_zero {value exponent : Nat} (small : exponent ≤ 308)
    (none : scaleDown (ofNat value) exponent = 0)
    : (value : ℚ) / 10 ^ exponent ≤ 2 / one := by
  rw [scaleDown, if_pos small, divide] at none
  have power := powerOfTen_pos exponent
  have below : ofNat value * one < powerOfTen exponent := by
    refine Nat.lt_of_not_le fun most => ?_
    have held : IsHeld 1 := by rw [IsHeld, spacing_small (by decide)]
    have some := le_round power held ((Nat.one_mul _).trans_le most)
    omega
  have quotient : magnitude (ofNat value) / magnitude (powerOfTen exponent) ≤ 1 / one := by
    have below : (ofNat value : ℚ) * one ≤ powerOfTen exponent := by exact_mod_cast below.le
    rw [magnitude, magnitude, div_div_div_cancel_right₀ cast_one_pos.ne',
      div_le_div_iff₀ (by exact_mod_cast power) cast_one_pos, one_mul]
    exact below
  calc (value : ℚ) / 10 ^ exponent
      ≤ magnitude (ofNat value) / magnitude (powerOfTen exponent) * (1 + 1 / 2 ^ 52) ^ 2 :=
        (quotient_near value exponent).1
    _ ≤ 1 / one * 2 :=
      mul_le_mul quotient (by norm_num) (by positivity) (div_pos zero_lt_one cast_one_pos).le
    _ = 2 / one := by ring

/-- Powers of ten from ten on are no less than two. -/
theorem two_le_powerOfTen {exponent : Nat} (some : 0 < exponent)
    : 2 * one ≤ powerOfTen exponent := by
  have held := isHeld_power 1
  simp only [Nat.pow_one] at held
  have ten : 2 ≤ 10 ^ exponent :=
    Nat.le_trans (by decide) (Nat.pow_le_pow_right (n := 10) (by decide) some)
  exact le_ofNat held ten

/-- A number below one stays below one when it is scaled down, by the recursion on the power. -/
theorem scaleDown_lt_one {units exponent : Nat} (small : units < one) (some : 0 < exponent)
    : scaleDown units exponent < one := by
  have divided {units power : Nat} (small : units < one) (some : 0 < power)
      : divide units (powerOfTen power) < one := by
    have double := two_le_powerOfTen some
    exact divide_lt_one (powerOfTen_pos power) (by omega)
  fun_induction scaleDown units exponent with
  | case1 units exponent little => exact divided small some
  | case2 exponent great => exact one_pos
  | case3 units exponent great notZero ih =>
      exact ih (divided small (by decide)) (by omega)

/-- A number of 64 bits is scaled down to less than one where the power of ten is too great for the
format.
-/
theorem scaleDown_far {value exponent : Nat} (fits : value ≤ 2 ^ 64) (far : 308 < exponent)
    : scaleDown (ofNat value) exponent < one := by
  have most : ofNat value ≤ 2 ^ 64 * one :=
    ofNat_le (isHeld_power 64) fits
  have least : 2 ^ 65 * one ≤ powerOfTen 308 := by
    generalize same : 308 = great
    have ten : 2 ^ 65 ≤ 10 ^ great :=
      Nat.le_trans (by decide) (Nat.pow_le_pow_right (by decide) (by omega : 20 ≤ great))
    exact le_ofNat (isHeld_power 65) ten
  rw [scaleDown, if_neg (by omega)]
  split
  · exact one_pos
  · exact scaleDown_lt_one (divide_lt_one (powerOfTen_pos _) (by omega)) (by omega)

-----------------------------------------------------------------------
-- Exact scaling
-----------------------------------------------------------------------

/-- A product of at most 2⁵³ is exact: neither factor is greater. -/
theorem scaleUp?_exact {digits exponent : Nat} (small : digits * 10 ^ exponent ≤ 2 ^ 53)
    : scaleUp? (ofNat digits) exponent = some (digits * 10 ^ exponent * one) := by
  rcases Nat.eq_zero_or_pos digits with rfl | some
  · rw [ofNat_small (Nat.zero_le _), Nat.zero_mul, Nat.zero_mul, Nat.zero_mul]
    rfl
  · have digitsSmall : digits ≤ 2 ^ 53 :=
      Nat.le_trans (Nat.le_mul_of_pos_right _ (Nat.pow_pos (by decide))) small
    have powerSmall : 10 ^ exponent ≤ 2 ^ 53 :=
      Nat.le_trans (Nat.le_mul_of_pos_left _ some) small
    have places : exponent ≤ 22 := by
      refine Nat.le_of_not_lt fun long => ?_
      have great := Nat.pow_le_pow_right (n := 10) (by decide) long
      omega
    have notZero : digits * one ≠ 0 := (Nat.mul_pos some one_pos).ne'
    have held : IsHeld (digits * 10 ^ exponent * one) := by simpa using isHeld_whole small 0
    have exact : multiply (digits * one) (10 ^ exponent * one) = digits * 10 ^ exponent * one := by
      rw [multiply, Nat.mul_mul_mul_comm, ← Nat.mul_assoc]
      exact round_exact one_pos held
    rw [scaleUp?, ofNat_small digitsSmall, powerOfTen_exact places, if_neg notZero,
      if_pos (Nat.le_trans places (by decide))]
    dsimp only
    rw [exact, if_pos (lt_limit (Nat.le_trans small (by decide)))]

/-- A number of 53 bits, divided by a power of ten that the format holds, is read as a whole number
exactly if it is one: it is rounded by less than what a fraction of these digits lacks to a whole
number.
-/
theorem scaleDown_exact {digits exponent whole : Nat} (short : digits < 2 ^ 53)
    (places : exponent ≤ 22)
    : scaleDown (ofNat digits) exponent = whole * one ↔ digits = whole * 10 ^ exponent := by
  have ten : 0 < 10 ^ exponent := Nat.pow_pos (by decide)
  have power : 0 < 10 ^ exponent * one := Nat.mul_pos ten one_pos
  rw [scaleDown, if_pos (Nat.le_trans places (by decide)), ofNat_small short.le,
    powerOfTen_exact places]
  constructor
  · intro read
    rcases Nat.eq_zero_or_pos digits with rfl | some
    · have none : divide (0 * one) (10 ^ exponent * one) ≤ 0 :=
        round_le power (Nat.dvd_zero _) (by simp)
      have zero : whole = 0 := by
        rw [read] at none
        exact (Nat.mul_eq_zero.mp (Nat.le_zero.mp none)).resolve_right one_pos.ne'
      rw [zero, Nat.zero_mul]
    · have normal : 2 ^ 52 * (10 ^ exponent * one) ≤ digits * one * one := by
        have factors : 2 ^ 52 * 10 ^ exponent ≤ one := by
          calc 2 ^ 52 * 10 ^ exponent ≤ 2 ^ 52 * 10 ^ 22 :=
                Nat.mul_le_mul_left _ (Nat.pow_le_pow_right (by decide) places)
            _ ≤ 2 ^ 126 := by decide
            _ ≤ one := le_one (by decide)
        rw [← Nat.mul_assoc]
        exact Nat.mul_le_mul_right _ (Nat.le_trans factors (Nat.le_mul_of_pos_left _ some))
      have close := divide_close power normal
      rw [read, magnitude_whole, magnitude_whole, magnitude_whole] at close
      have tenPositive : (0 : ℚ) < (10 ^ exponent : Nat) := by exact_mod_cast ten
      have scaled : |(digits : ℚ) - whole * (10 ^ exponent : Nat)| < 1 := by
        have parts : (digits : ℚ) - whole * (10 ^ exponent : Nat)
            = (digits / (10 ^ exponent : Nat) - whole) * (10 ^ exponent : Nat) := by
          field_simp
        rw [parts, abs_mul, abs_of_pos tenPositive]
        calc _ ≤ (digits : ℚ) / (10 ^ exponent : Nat) / 2 ^ 53 * (10 ^ exponent : Nat) :=
              mul_le_mul_of_nonneg_right close tenPositive.le
          _ = digits / 2 ^ 53 := by field_simp
          _ < 1 := by
              rw [div_lt_one (by norm_num)]
              exact_mod_cast short
      have integer : |(digits : Int) - whole * (10 ^ exponent : Nat)| < 1 := by
        exact_mod_cast scaled
      have same := Int.abs_lt_one_iff.mp integer
      exact_mod_cast sub_eq_zero.mp same
  · rintro rfl
    have less : whole ≤ 2 ^ 53 := Nat.le_trans (Nat.le_mul_of_pos_right _ ten) short.le
    have held : IsHeld (whole * one) := by simpa using isHeld_whole less 0
    rw [divide, Nat.mul_right_comm whole, Nat.mul_assoc (whole * one)]
    exact round_exact power held

-----------------------------------------------------------------------
-- The ends of 64 bits
-----------------------------------------------------------------------

/-- A common factor does not change how a quotient is rounded. -/
theorem divideToEven_scaled (numerator denominator : Nat) {factor : Nat} (positive : 0 < factor)
    : divideToEven (numerator * factor) (denominator * factor)
      = divideToEven numerator denominator := by
  have twice : 2 * (numerator % denominator * factor) = 2 * (numerator % denominator) * factor := by
    ring
  unfold divideToEven
  dsimp only
  rw [Nat.mul_div_mul_right _ _ positive, Nat.mul_mod_mul_right, twice]
  simp only [Nat.mul_lt_mul_right positive, Nat.mul_left_inj positive.ne']

/-- From 2⁶³ on, whole numbers of 64 bits are rounded to multiples of 2¹¹. -/
theorem ofNat_great {value : Nat} (least : 2 ^ 63 ≤ value) (most : value < 2 ^ 64)
    : ofNat value = divideToEven value (2 ^ 11) * 2 ^ 11 * one := by
  obtain ⟨scale, long, same⟩ := one_scaled
  have atPower : spacing (2 ^ 63 * one) = 2 ^ 11 * one := by
    have exponents : 63 + scale - 52 = 11 + scale := by omega
    rw [same, ← Nat.pow_add, ← Nat.pow_add, spacing_eq, Nat.log2_two_pow, exponents]
  have step : spacing (value * one) = 2 ^ 11 * one := by
    rw [← atPower]
    refine spacing_near (Nat.mul_le_mul_right _ least) ?_
    rw [atPower, ← Nat.mul_assoc]
    exact Nat.mul_lt_mul_of_pos_right most one_pos
  rw [ofNat, round, Nat.div_one, Nat.one_mul, step, divideToEven_scaled _ _ one_pos,
    ← Nat.mul_assoc]

/-- Up to half the way to its neighbour, numbers are rounded to 2⁶³. -/
theorem ofNat_gap {value : Nat} (least : 2 ^ 63 ≤ value) (most : value ≤ 2 ^ 63 + 1024)
    : ofNat value = 2 ^ 63 * one := by
  rw [ofNat_great least (by omega)]
  congr 1
  unfold divideToEven
  dsimp only
  split <;> omega

/-- Behind that they are rounded to more. -/
theorem lt_ofNat {value : Nat} (least : 2 ^ 63 + 1024 < value) (most : value < 2 ^ 64)
    : 2 ^ 63 * one < ofNat value := by
  rw [ofNat_great (by omega) most]
  refine Nat.mul_lt_mul_of_pos_right ?_ one_pos
  unfold divideToEven
  dsimp only
  split <;> omega

/-- A number of 64 bits is not changed by the power of ten that is one. -/
theorem scaleUp?_zero {value : Nat} (fits : value ≤ 2 ^ 64)
    : scaleUp? (ofNat value) 0 = some (ofNat value) := by
  have small : ofNat value < limit :=
    Nat.lt_of_le_of_lt (ofNat_le (isHeld_power 64) fits) (lt_limit (Nat.le_refl _))
  have same : multiply (ofNat value) (powerOfTen 0) = ofNat value := by
    rw [powerOfTen_exact (by decide), Nat.pow_zero, Nat.one_mul]
    exact round_exact one_pos (isHeld_round Nat.one_pos)
  rw [scaleUp?, if_pos (Nat.zero_le _), same]
  dsimp only
  rw [if_pos small]
  split
  next zero => rw [zero]
  next => rfl

/-- Numbers of more than 64 bits are beyond 2⁶³ also where only their leading digits are read. -/
theorem scaleUp?_great {value exponent units : Nat} (least : 2 ^ 64 / 10 ≤ value)
    (some : 0 < exponent) (scaled : scaleUp? (ofNat value) exponent = .some units)
    : 2 ^ 63 * one < units := by
  have held {significand : Nat} (bits : significand ≤ 2 ^ 53) (scale : Nat) :=
    isHeld_whole bits scale
  have leading : 3 * 2 ^ 59 * one ≤ ofNat value := le_ofNat (held (by decide) 59) (by omega)
  have ten : 1 * 2 ^ 3 ≤ 10 ^ exponent :=
    Nat.le_trans (by decide) (Nat.pow_le_pow_right (n := 10) (by decide) some)
  have power : 1 * 2 ^ 3 * one ≤ powerOfTen exponent := le_ofNat (held (by decide) 3) ten
  have product : 3 * 2 ^ 62 * one ≤ multiply (ofNat value) (powerOfTen exponent) := by
    refine le_round one_pos (held (by decide) 62) ?_
    calc 3 * 2 ^ 62 * one * one = 3 * 2 ^ 59 * one * (1 * 2 ^ 3 * one) := by ring
      _ ≤ ofNat value * powerOfTen exponent := Nat.mul_le_mul leading power
  have positive := one_pos
  rw [scaleUp?, if_neg (by omega)] at scaled
  split at scaled
  · dsimp only at scaled
    split at scaled
    · rw [← Option.some.inj scaled]
      omega
    · cases scaled
  · cases scaled

end JobWatch.Number.Binary64
