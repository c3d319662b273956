import JobWatch.Number.Binary64
import Mathlib.Algebra.Order.Field.Basic
import Mathlib.Data.Nat.Cast.Order.Field
import Mathlib.Data.Rat.Cast.Order
import Mathlib.Tactic.FieldSimp
import Mathlib.Tactic.Linarith
import Mathlib.Tactic.NormNum
import Mathlib.Tactic.Positivity
import Mathlib.Tactic.Ring

/-! Rounding to binary64: numbers of the format are rounded to themselves, the order is kept, and
the error is at most half the distance of neighbours.
-/

namespace JobWatch.Number.Binary64

-----------------------------------------------------------------------
-- Whole numbers
-----------------------------------------------------------------------

section Whole

variable {numerator denominator bound : Nat}

/-- A quotient is rounded by half at most, by cases of the direction. -/
theorem divideToEven_near (numerator : Nat) (positive : 0 < denominator)
    : |(numerator : Int) - denominator * divideToEven numerator denominator| * 2 ≤ denominator := by
  have parts := Nat.div_add_mod numerator denominator
  have remainder := Nat.mod_lt numerator positive
  unfold divideToEven
  generalize numerator / denominator = lower at *
  generalize numerator % denominator = left at *
  have parts : (denominator : Int) * lower + left = numerator := by exact_mod_cast parts
  dsimp only
  split
  next up =>
      rw [← parts]
      push_cast
      rw [show (denominator : Int) * lower + left - denominator * (lower + 1) = left - denominator
        by ring, abs_of_nonpos (by omega)]
      omega
  next down =>
      rw [← parts, add_sub_cancel_left, abs_of_nonneg (by omega)]
      omega

/-- What a quotient is at least, it is rounded to at least. -/
theorem le_divideToEven (positive : 0 < denominator) (least : bound * denominator ≤ numerator)
    : bound ≤ divideToEven numerator denominator := by
  have lower : bound ≤ numerator / denominator := (Nat.le_div_iff_mul_le positive).mpr least
  unfold divideToEven
  dsimp only
  split
  · exact Nat.le_succ_of_le lower
  · exact lower

/-- What a quotient is at most, it is rounded to at most: it is rounded up only if it is no whole
number.
-/
theorem divideToEven_le (positive : 0 < denominator) (most : numerator ≤ bound * denominator)
    : divideToEven numerator denominator ≤ bound := by
  have lower : numerator / denominator ≤ bound := Nat.div_le_of_le_mul (by rwa [Nat.mul_comm])
  have parts := Nat.div_add_mod numerator denominator
  unfold divideToEven
  dsimp only
  split
  next up =>
      refine Nat.lt_of_le_of_ne lower fun same => ?_
      have remains : 0 < numerator % denominator := by omega
      rw [same, Nat.mul_comm] at parts
      omega
  next down => exact lower

end Whole

-----------------------------------------------------------------------
-- Neighbours
-----------------------------------------------------------------------

/-- The format holds the magnitude. -/
def IsHeld (units : Nat) : Prop :=
  spacing units ∣ units

theorem spacing_eq (units : Nat) : spacing units = 2 ^ (units.log2 - 52) :=
  rfl

theorem spacing_pos (units : Nat) : 0 < spacing units :=
  Nat.two_pow_pos _

/-- The distances of neighbours divide each other, since they are powers of two. -/
theorem spacing_dvd {units greater : Nat} (order : units ≤ greater)
    : spacing units ∣ spacing greater := by
  refine Nat.pow_dvd_pow 2 (Nat.sub_le_sub_right ?_ 52)
  rcases Nat.eq_zero_or_pos units with rfl | positive
  · exact Nat.zero_le _
  · exact (Nat.le_log2 (by omega)).mpr (Nat.le_trans (Nat.log2_self_le (by omega)) order)

/-- Small magnitudes are one unit apart. -/
theorem spacing_small {units : Nat} (small : units < 2 ^ 53) : spacing units = 1 := by
  rcases Nat.eq_zero_or_pos units with rfl | positive
  · rfl
  · have order : units.log2 < 53 := (Nat.log2_lt (by omega)).mpr small
    rw [spacing_eq, show units.log2 - 52 = 0 by omega, Nat.pow_zero]

/-- A magnitude is less than 2⁵³ times the distance of its neighbours. -/
theorem lt_spacing (units : Nat) : units < 2 ^ 53 * spacing units := by
  rw [spacing_eq, ← Nat.pow_add]
  exact Nat.lt_of_lt_of_le Nat.lt_log2_self (Nat.pow_le_pow_right (by decide) (by omega))

/-- A magnitude that is not small is at least 2⁵² times the distance of its neighbours. -/
theorem spacing_le {units : Nat} (normal : 2 ^ 52 ≤ units) : 2 ^ 52 * spacing units ≤ units := by
  have positive : units ≠ 0 := by
    rintro rfl
    exact absurd normal (by decide)
  have order : 52 ≤ units.log2 := (Nat.le_log2 positive).mpr normal
  rw [spacing_eq, ← Nat.pow_add, Nat.add_sub_cancel' order]
  exact Nat.log2_self_le positive

/-- The format holds the numbers of 53 bits, scaled by any power of two. -/
theorem isHeld_scaled {significand : Nat} (bits : significand ≤ 2 ^ 53) (scale : Nat)
    : IsHeld (significand * 2 ^ scale) := by
  have power := Nat.two_pow_pos scale
  rcases Nat.lt_or_eq_of_le bits with below | rfl
  · -- Below the next power of two, neighbours are at most 2 ^ scale apart.
    refine Dvd.dvd.trans ?_ (Dvd.intro_left significand rfl)
    rw [spacing_eq]
    refine Nat.pow_dvd_pow 2 ?_
    rcases Nat.eq_zero_or_pos significand with rfl | positive
    · rw [Nat.zero_mul]
      exact Nat.zero_le _
    · have order : (significand * 2 ^ scale).log2 < 53 + scale := by
        rw [Nat.log2_lt (Nat.mul_pos positive power).ne', Nat.pow_add]
        exact Nat.mul_lt_mul_of_pos_right below power
      omega
  · rw [IsHeld, spacing_eq, ← Nat.pow_add, Nat.log2_two_pow]
    exact Nat.pow_dvd_pow 2 (by omega)

/-- Below 2⁵³ times the distance of its neighbours, greater magnitudes are no farther apart than a
magnitude itself is from its neighbours.
-/
theorem spacing_near {units greater : Nat} (order : units ≤ greater)
    (near : greater < 2 ^ 53 * spacing units)
    : spacing greater = spacing units := by
  refine Nat.dvd_antisymm ?_ (spacing_dvd order)
  rcases Nat.lt_or_ge greater (2 ^ 52) with small | normal
  · rw [spacing_small (Nat.lt_trans small (by decide))]
    exact Nat.one_dvd _
  · have below : spacing greater < 2 * spacing units := by
      have atLeast := spacing_le normal
      omega
    rw [spacing_eq, spacing_eq, ← Nat.pow_succ', Nat.pow_lt_pow_iff_right (by decide)] at below
    exact Nat.pow_dvd_pow 2 (Nat.le_of_lt_succ below)

/-- From there on, a power of two lies between the two magnitudes. -/
theorem spacing_far {units greater : Nat} (far : 2 ^ 53 * spacing units ≤ greater)
    : 2 ^ 53 * spacing units ≤ 2 ^ 52 * spacing greater := by
  have below := Nat.lt_of_le_of_lt far (lt_spacing greater)
  rw [spacing_eq, spacing_eq, ← Nat.pow_add, ← Nat.pow_add,
    Nat.pow_lt_pow_iff_right (by decide)] at below
  rw [spacing_eq, spacing_eq, ← Nat.pow_add, ← Nat.pow_add]
  exact Nat.pow_le_pow_right (by decide) (by omega)

-----------------------------------------------------------------------
-- Rounding keeps the order
-----------------------------------------------------------------------

section Order

variable {numerator denominator units : Nat}

/-- A whole multiple of the distance at a quotient, which the quotient reaches, is reached by the
rounded quotient.
-/
theorem multiple_le_round (positive : 0 < denominator) {count : Nat}
    (least : count * spacing (numerator / denominator) * denominator ≤ numerator)
    : count * spacing (numerator / denominator) ≤ round numerator denominator := by
  unfold round
  have stepPositive := spacing_pos (numerator / denominator)
  generalize spacing (numerator / denominator) = step at *
  refine Nat.mul_le_mul_right _ (le_divideToEven (Nat.mul_pos positive stepPositive) ?_)
  rwa [Nat.mul_comm denominator, ← Nat.mul_assoc]

/-- A quotient that is at least a number of the format is rounded to at least this number. The
quotient may lie among numbers that are farther apart: then there is a power of two between.
-/
theorem le_round (positive : 0 < denominator) (held : IsHeld units)
    (least : units * denominator ≤ numerator)
    : units ≤ round numerator denominator := by
  have order : units ≤ numerator / denominator := (Nat.le_div_iff_mul_le positive).mpr least
  rcases Nat.lt_or_ge (numerator / denominator) (2 ^ 53 * spacing units) with near | far
  · obtain ⟨count, counted⟩ := held
    rw [← spacing_near order near, Nat.mul_comm] at counted
    rw [counted]
    exact multiple_le_round positive (counted ▸ least)
  · have normal : 2 ^ 52 ≤ numerator / denominator := by
      have atLeast := spacing_pos units
      omega
    have reached : 2 ^ 52 * spacing (numerator / denominator) * denominator ≤ numerator :=
      Nat.le_trans (Nat.mul_le_mul_right _ (spacing_le normal)) (Nat.div_mul_le_self _ _)
    calc units ≤ 2 ^ 53 * spacing units := (lt_spacing units).le
      _ ≤ 2 ^ 52 * spacing (numerator / denominator) := spacing_far far
      _ ≤ round numerator denominator := multiple_le_round positive reached

/-- A quotient that is at most a number of the format is rounded to at most this number. -/
theorem round_le (positive : 0 < denominator) (held : IsHeld units)
    (most : numerator ≤ units * denominator)
    : round numerator denominator ≤ units := by
  have order : numerator / denominator ≤ units :=
    Nat.div_le_of_le_mul (by rwa [Nat.mul_comm])
  unfold round
  dsimp only
  obtain ⟨count, counted⟩ := (spacing_dvd order).trans held
  generalize spacing (numerator / denominator) = step at counted
  rcases Nat.eq_zero_or_pos step with rfl | some
  · rw [Nat.mul_zero]
    exact Nat.zero_le _
  · have enough : numerator ≤ count * (denominator * step) := by
      calc numerator ≤ units * denominator := most
        _ = count * (denominator * step) := by rw [counted]; ring
    calc _ ≤ count * step :=
          Nat.mul_le_mul_right _ (divideToEven_le (Nat.mul_pos positive some) enough)
      _ = units := by rw [counted, Nat.mul_comm]

/-- A number of the format is rounded to itself. -/
theorem round_exact (positive : 0 < denominator) (held : IsHeld units)
    : round (units * denominator) denominator = units :=
  Nat.le_antisymm (round_le positive held (Nat.le_refl _)) (le_round positive held (Nat.le_refl _))

end Order

/-- A rounded number is one that the format holds. -/
theorem isHeld_round {numerator denominator : Nat} (positive : 0 < denominator)
    : IsHeld (round numerator denominator) := by
  unfold round
  dsimp only
  have step := spacing_pos (numerator / denominator)
  have below := (Nat.div_lt_iff_lt_mul positive).mp (lt_spacing (numerator / denominator))
  refine isHeld_scaled (divideToEven_le (Nat.mul_pos positive step) ?_) _
  calc numerator ≤ 2 ^ 53 * spacing (numerator / denominator) * denominator := below.le
    _ = _ := by ring

-----------------------------------------------------------------------
-- Numbers that are held
-----------------------------------------------------------------------

/-- One is a power of two. -/
theorem one_scaled : ∃ scale, 1000 ≤ scale ∧ one = 2 ^ scale := by
  unfold one
  generalize same : 1074 = scale
  exact ⟨scale, by omega, Nat.pow_eq⟩

/-- It is no small one. -/
theorem le_one {exponent : Nat} (small : exponent ≤ 1000) : 2 ^ exponent ≤ one := by
  obtain ⟨scale, long, same⟩ := one_scaled
  rw [same]
  exact Nat.pow_le_pow_right (by decide) (Nat.le_trans small long)

theorem one_pos : 0 < one := by
  obtain ⟨scale, -, same⟩ := one_scaled
  exact same ▸ Nat.two_pow_pos scale

/-- The format reaches far beyond the whole numbers of 64 bits. -/
theorem lt_limit {value : Nat} (small : value ≤ 2 ^ 64) : value * one < limit := by
  unfold limit one
  generalize ones : 1074 = scale
  generalize limits : 2098 = great
  calc value * Nat.pow 2 scale ≤ 2 ^ 64 * 2 ^ scale := Nat.mul_le_mul_right _ small
    _ = 2 ^ (64 + scale) := (Nat.pow_add _ _ _).symm
    _ < 2 ^ great := Nat.pow_lt_pow_right (by decide) (by omega)

/-- The format holds the whole numbers of 53 bits, scaled by any power of two. -/
theorem isHeld_whole {significand : Nat} (bits : significand ≤ 2 ^ 53) (scale : Nat)
    : IsHeld (significand * 2 ^ scale * one) := by
  obtain ⟨ones, -, same⟩ := one_scaled
  rw [same, Nat.mul_assoc, ← Nat.pow_add]
  exact isHeld_scaled bits _

theorem isHeld_power (scale : Nat) : IsHeld (2 ^ scale * one) := by
  have held := isHeld_whole (Nat.one_le_two_pow : 1 ≤ 2 ^ 53) scale
  rwa [Nat.one_mul] at held

/-- A natural number that is at least one that the format holds is rounded to at least the latter.
-/
theorem le_ofNat {value least : Nat} (held : IsHeld (least * one)) (order : least ≤ value)
    : least * one ≤ ofNat value := by
  refine le_round Nat.one_pos held ?_
  rw [Nat.mul_one]
  exact Nat.mul_le_mul_right one order

/-- A natural number that is at most one that the format holds is rounded to at most the latter. -/
theorem ofNat_le {value most : Nat} (held : IsHeld (most * one)) (order : value ≤ most)
    : ofNat value ≤ most * one := by
  refine round_le Nat.one_pos held ?_
  rw [Nat.mul_one]
  exact Nat.mul_le_mul_right one order

/-- A whole number that the format holds is rounded to itself. -/
theorem ofNat_exact {significand : Nat} (bits : significand ≤ 2 ^ 53) (scale : Nat)
    : ofNat (significand * 2 ^ scale) = significand * 2 ^ scale * one :=
  have held := isHeld_whole bits scale
  Nat.le_antisymm (ofNat_le held (Nat.le_refl _)) (le_ofNat held (Nat.le_refl _))

theorem ofNat_small {value : Nat} (small : value ≤ 2 ^ 53) : ofNat value = value * one := by
  simpa using ofNat_exact small 0

/-- The powers of ten up to 10²² are held: 5²² has no more than 53 bits. -/
theorem powerOfTen_exact {exponent : Nat} (small : exponent ≤ 22)
    : powerOfTen exponent = 10 ^ exponent * one := by
  have bits : 5 ^ exponent ≤ 2 ^ 53 :=
    Nat.le_trans (Nat.pow_le_pow_right (by decide) small) (by decide)
  have parts : 10 ^ exponent = 5 ^ exponent * 2 ^ exponent := by rw [← Nat.mul_pow]
  rw [powerOfTen, Nat.pow_eq, parts, ofNat_exact bits]

-----------------------------------------------------------------------
-- Rounding errors
-----------------------------------------------------------------------

/-- The value of a magnitude. -/
def magnitude (units : Nat) : ℚ :=
  units / one

theorem cast_one_pos : (0 : ℚ) < one := by
  exact_mod_cast one_pos

theorem magnitude_whole (value : Nat) : magnitude (value * one) = value := by
  rw [magnitude, Nat.cast_mul, mul_div_cancel_right₀ _ cast_one_pos.ne']

section Errors

variable {numerator denominator : Nat}

/-- A quotient is rounded by half the distance of neighbours at most. -/
theorem round_near (positive : 0 < denominator)
    : |(numerator : ℚ) / denominator - round numerator denominator|
      ≤ spacing (numerator / denominator) / 2 := by
  unfold round
  have stepPositive := spacing_pos (numerator / denominator)
  generalize spacing (numerator / denominator) = step at *
  have near := divideToEven_near numerator (Nat.mul_pos positive stepPositive)
  dsimp only
  generalize divideToEven numerator (denominator * step) = count at *
  have near : |(numerator : ℚ) - denominator * step * count| * 2 ≤ denominator * step := by
    exact_mod_cast near
  have positive : (0 : ℚ) < denominator := by exact_mod_cast positive
  have parts : (numerator : ℚ) / denominator - (count * step : Nat)
      = (numerator - denominator * step * count) / denominator := by
    push_cast
    field_simp
  rw [parts, abs_div, abs_of_pos positive, div_le_iff₀ positive]
  linarith

/-- A quotient that is no tiny number is rounded by its 2⁵³rd part at most. -/
theorem round_close (positive : 0 < denominator) (normal : 2 ^ 52 * denominator ≤ numerator)
    : |(numerator : ℚ) / denominator - round numerator denominator|
      ≤ numerator / denominator / 2 ^ 53 := by
  have atLeast : 2 ^ 52 ≤ numerator / denominator := (Nat.le_div_iff_mul_le positive).mpr normal
  have distance
      : (2 ^ 52 : ℚ) * spacing (numerator / denominator) ≤ (numerator / denominator : Nat) := by
    exact_mod_cast spacing_le atLeast
  have floor : ((numerator / denominator : Nat) : ℚ) ≤ numerator / denominator := Nat.cast_div_le
  refine (round_near positive).trans ?_
  rw [div_le_div_iff₀ (by norm_num) (by norm_num)]
  linarith

/-- The same of the values. -/
theorem magnitude_close (positive : 0 < denominator) (normal : 2 ^ 52 * denominator ≤ numerator)
    : |(numerator : ℚ) / denominator / one - magnitude (round numerator denominator)|
      ≤ numerator / denominator / one / 2 ^ 53 := by
  have close := round_close positive normal
  rw [magnitude, ← sub_div, abs_div, abs_of_pos cast_one_pos, div_right_comm]
  exact div_le_div_of_nonneg_right close cast_one_pos.le

end Errors

/-- A natural number is rounded by its 2⁵³rd part at most. -/
theorem ofNat_close (value : Nat) : |(value : ℚ) - magnitude (ofNat value)| ≤ value / 2 ^ 53 := by
  rcases Nat.eq_zero_or_pos value with rfl | positive
  · rw [ofNat_small (Nat.zero_le _), magnitude_whole]
    simp
  · have normal : 2 ^ 52 * 1 ≤ value * one := by
      rw [Nat.mul_one]
      exact Nat.le_trans (le_one (by decide)) (Nat.le_mul_of_pos_left _ positive)
    have close := magnitude_close Nat.one_pos normal
    rwa [Nat.cast_mul, Nat.cast_one, div_one, mul_div_cancel_right₀ _ cast_one_pos.ne'] at close

/-- A product of numbers that is no tiny one is rounded by its 2⁵³rd part at most. -/
theorem multiply_close {left right : Nat} (normal : 2 ^ 52 * one ≤ left * right)
    : |magnitude left * magnitude right - magnitude (multiply left right)|
      ≤ magnitude left * magnitude right / 2 ^ 53 := by
  have close := magnitude_close one_pos normal
  have value : ((left * right : Nat) : ℚ) / one / one = magnitude left * magnitude right := by
    rw [magnitude, magnitude, Nat.cast_mul, div_mul_div_comm, div_div]
  rwa [value] at close

/-- A quotient of numbers that is no tiny one is rounded by its 2⁵³rd part at most. -/
theorem divide_close {left right : Nat} (positive : 0 < right)
    (normal : 2 ^ 52 * right ≤ left * one)
    : |magnitude left / magnitude right - magnitude (divide left right)|
      ≤ magnitude left / magnitude right / 2 ^ 53 := by
  have close := magnitude_close positive normal
  have value : ((left * one : Nat) : ℚ) / right / one = magnitude left / magnitude right := by
    rw [magnitude, magnitude, Nat.cast_mul, div_div_div_cancel_right₀ cast_one_pos.ne',
      mul_div_right_comm, mul_div_cancel_right₀ _ cast_one_pos.ne']
  rwa [value] at close

/-- One is twice a magnitude that the format holds. -/
theorem one_halves : ∃ half, IsHeld half ∧ one = 2 * half := by
  obtain ⟨scale, long, same⟩ := one_scaled
  refine ⟨1 * 2 ^ (scale - 1), isHeld_scaled (by decide) _, ?_⟩
  rw [same, Nat.one_mul, ← pow_succ', Nat.sub_add_cancel (Nat.le_trans (by decide) long)]

/-- A quotient of at most a half is rounded to less than one. -/
theorem divide_lt_one {left right : Nat} (positive : 0 < right) (small : 2 * left ≤ right)
    : divide left right < one := by
  obtain ⟨half, held, halves⟩ := one_halves
  have most : left * one ≤ half * right := by
    calc left * one = half * (2 * left) := by rw [halves]; ring
      _ ≤ half * right := Nat.mul_le_mul_left _ small
  have below : divide left right ≤ half := round_le positive held most
  have some := one_pos
  omega

/-- A quotient that is rounded to one or more is no tiny number. -/
theorem normal_of_one_le {numerator denominator : Nat} (positive : 0 < denominator)
    (most : one ≤ round numerator denominator)
    : 2 ^ 52 * denominator ≤ numerator := by
  refine Nat.le_of_not_lt fun tiny => ?_
  have below := round_le positive (isHeld_scaled (Nat.le_refl (2 ^ 53)) 0)
    (Nat.le_trans tiny.le (Nat.mul_le_mul_right _ (by decide)))
  have big : 2 ^ 54 ≤ one := le_one (by decide)
  omega

end JobWatch.Number.Binary64
