import JobWatch.Proofs.Calendar.Scanning

/-! Every instant is read back from its text, in any year, in leap seconds and with any fraction. -/

namespace JobWatch.Calendar.Timestamp

open JobWatch.Number JobWatch.Text

variable {rest : List Char}

-----------------------------------------------------------------------
-- Days
-----------------------------------------------------------------------

/-- A padded number has no sign, so a year without one is taken as four digits. -/
theorem takes_plain_year (size : Nat) (small : size < 10000) (rest : List Char)
    : Takes year (padded 4 size) (size : Int) rest := by
  have notSign : ∀ digit, digitChar digit ≠ '-' ∧ digitChar digit ≠ '+' := by decide
  have fits : size < Nat.pow 10 4 := small
  have plain := takes_padded (by decide) fits (fun size => (size : Int)) rest
  refine .behind_blanks (noBlankFirst_padded _ _ _) ?_
  unfold Takes at plain ⊢
  rw [padded_eq] at plain ⊢
  cases found : paddedDigits 4 size with
  | nil => exact absurd found (paddedDigits_ne_nil _ _)
  | cons digit others =>
      rw [found] at plain
      rw [StateT.run_bind, StateT.run_get]
      simp only [List.map_cons, List.cons_append, pure_bind]
      split
      · rename_i isMinus
        exact absurd (List.cons.inj isMinus).1 (notSign digit).1
      · rename_i isPlus
        exact absurd (List.cons.inj isPlus).1 (notSign digit).2
      · exact plain

/-- A year is taken off in front of what is no digit, by the three ways to write it. -/
theorem takes_year (value : Int) (noDigit : NoDigitFirst rest)
    : Takes year (yearText value) value rest := by
  rw [yearText]
  split
  · have negative := takes_all_padded 4 value.natAbs noDigit fun size => -(size : Int)
    have same : -(value.natAbs : Int) = value := by omega
    rw [same] at negative
    refine .behind_blanks ?_ negative
    rintro _ ⟨⟩
    decide
  · have same : (value.natAbs : Int) = value := by omega
    split
    · have plain := takes_plain_year value.natAbs (by omega) rest
      rwa [same] at plain
    · have positive := takes_all_padded 4 value.natAbs noDigit fun size => (size : Int)
      rw [same] at positive
      refine .behind_blanks ?_ positive
      rintro _ ⟨⟩
      decide

/-- The day of a date's year, month and day is the date. -/
theorem of?_date (day : Date) : Date.of? day.year day.month day.day = some day := by
  rw [Date.of?, dif_pos day.year_bounds, dif_pos day.month_bounds, dif_pos day.day_bounds]

/-- A day is taken off, whatever comes behind it. -/
theorem takes_date (day : Date) (rest : List Char)
    : Takes date (dateText day) day rest := by
  have monthSmall : day.month < 100 := by
    have bounds := day.month_bounds
    omega
  have daySmall : day.day < 100 := by
    have bounds := day.day_bounds
    unfold daysInMonth at bounds
    grind
  rw [dateText, List.append_assoc, List.cons_append]
  refine .bind (takes_year day.year fun _ first => ?_) (.behind_separator (by decide)
    (.bind (takes_number (by decide) monthSmall _) (.behind_separator (by decide)
      (.last (takes_number (by decide) daySmall rest) ?_))))
  · cases first
    decide
  · rw [of?_date]
    rfl

-----------------------------------------------------------------------
-- Times
-----------------------------------------------------------------------

/-- A point and the digits behind it are taken as nanoseconds, if there are at most nine of them. -/
theorem takes_places (places value : Nat) (some : 0 < places) (few : places ≤ 9)
    (small : value < Nat.pow 10 places) (noDigit : NoDigitFirst rest)
    : Takes fraction ('.' :: padded places value) (value * Nat.pow 10 (9 - places)) rest := by
  have length := length_paddedDigits some small
  have all := takes_all_digits (paddedDigits_ne_nil places value) noDigit
  rw [← padded_eq] at all
  have taken : Takes
      (digits none >>= fun all =>
        pure (ofDigits (all.take 9) * Nat.pow 10 (9 - (all.take 9).length)))
      (padded places value) (value * Nat.pow 10 (9 - places)) rest := by
    refine all.last ?_
    rw [List.take_of_length_le (by omega), length, ofDigits_paddedDigits]
    rfl
  exact taken

/-- Without a point there is no fraction. -/
theorem takes_no_fraction (noPoint : rest.head? ≠ some '.') : Takes fraction [] 0 rest := by
  unfold Takes fraction
  rw [StateT.run_bind, StateT.run_get]
  simp only [List.nil_append, pure_bind]
  split
  · exact absurd rfl noPoint
  · rfl

/-- A fraction is taken off in front of what is neither a digit nor a point, by the four ways to
write it.
-/
theorem takes_fraction (instant : Instant) (noDigit : NoDigitFirst rest)
    (noPoint : rest.head? ≠ some '.')
    : Takes fraction (fractionText instant) (instant.nanos % nanosPerSecond) rest := by
  have small : instant.nanos % nanosPerSecond < 1000000000 := Nat.mod_lt _ (by decide)
  unfold fractionText
  generalize instant.nanos % nanosPerSecond = nanos at small
  simp only
  split
  · subst nanos
    exact takes_no_fraction noPoint
  · split
    · have millis : nanos / 1000000 < 1000 := by omega
      have taken : Takes fraction ('.' :: padded 3 (nanos / 1000000)) (nanos / 1000000 * 1000000)
          rest :=
        takes_places 3 _ (by decide) (by decide) millis noDigit
      rwa [show nanos / 1000000 * 1000000 = nanos by omega] at taken
    · split
      · have micros : nanos / 1000 < 1000000 := by omega
        have taken : Takes fraction ('.' :: padded 6 (nanos / 1000)) (nanos / 1000 * 1000) rest :=
          takes_places 6 _ (by decide) (by decide) micros noDigit
        rwa [show nanos / 1000 * 1000 = nanos by omega] at taken
      · have taken : Takes fraction ('.' :: padded 9 nanos) (nanos * 1) rest :=
          takes_places 9 _ (by decide) (by decide) small noDigit
        rwa [Nat.mul_one] at taken

/-- A time is taken off in front of what is neither a digit nor a point. The sixtieth second stands
for the one before it.
-/
theorem takes_time (instant : Instant) (noDigit : NoDigitFirst rest)
    (noPoint : rest.head? ≠ some '.')
    : Takes time (timeText instant ++ fractionText instant) (instant.second, instant.nanos)
        rest := by
  have inDay := instant.second_lt
  have inSecond := instant.nanos_lt
  have atEnd := instant.leap_last
  have hourSmall : instant.second / 3600 < 100 := by omega
  have minuteSmall : instant.second / 60 % 60 < 100 := by omega
  unfold nanosPerSecond at inSecond atEnd
  have secondSmall : instant.second % 60 + instant.nanos / nanosPerSecond < 100 := by
    unfold nanosPerSecond
    omega
  simp only [timeText, List.append_assoc, List.cons_append]
  refine .bind (takes_number (by decide) hourSmall _) (.behind_separator (by decide)
    (.bind (takes_number (by decide) minuteSmall _) (.behind_separator (by decide)
      (.bind (takes_number (by decide) secondSmall _)
        (.last (takes_fraction instant noDigit noPoint) ?_)))))
  have valid : ¬(23 < instant.second / 3600 ∨ 59 < instant.second / 60 % 60
      ∨ 60 < instant.second % 60 + instant.nanos / nanosPerSecond) := by
    unfold nanosPerSecond
    omega
  rw [if_neg valid]
  split
  · have second : 3600 * (instant.second / 3600) + 60 * (instant.second / 60 % 60) + 59
        = instant.second := by
      unfold nanosPerSecond at *
      omega
    have nanos : nanosPerSecond + instant.nanos % nanosPerSecond = instant.nanos := by
      unfold nanosPerSecond at *
      omega
    rw [second, nanos]
    rfl
  · have second : 3600 * (instant.second / 3600) + 60 * (instant.second / 60 % 60)
          + (instant.second % 60 + instant.nanos / nanosPerSecond)
        = instant.second := by
      unfold nanosPerSecond at *
      omega
    have nanos : instant.nanos % nanosPerSecond = instant.nanos := by
      unfold nanosPerSecond at *
      omega
    rw [second, nanos]
    rfl

-----------------------------------------------------------------------
-- Instants
-----------------------------------------------------------------------

/-- The letter Z is taken as no distance to universal time. -/
theorem takes_zone : Takes zone ['Z'] 0 [] :=
  rfl

/-- Clocks that show universal time show the instant's own day and time. -/
theorem ofLocal?_universal (instant : Instant)
    : Instant.ofLocal? instant.date instant.second instant.nanos 0 = some instant := by
  have inDay : (instant.second : Int) < 86400 := by
    have := instant.second_lt
    omega
  have found : Instant.of? instant.date instant.second instant.nanos = some instant := by
    rw [Instant.of?, dif_pos instant.second_lt, dif_pos instant.nanos_lt,
      dif_pos instant.leap_last]
  simp only [Instant.ofLocal?, Int.sub_zero]
  rw [if_neg (by omega), if_pos inDay, Int.toNat_natCast, found]

/-- Every instant is read back from its text. Witness: the scans of a timestamp take its parts off
one behind the other, up to the letter of its zone.
-/
theorem read?_text (instant : Instant) : read? (text instant) = some instant := by
  have zoneBehind {value : Char → Prop} (plain : value 'Z') : ∀ c ∈ ['Z'].head?, value c := by
    rintro _ ⟨⟩
    exact plain
  have taken : Takes Timestamp.instant
      (dateText instant.date ++ 'T' :: timeText instant ++ fractionText instant ++ ['Z']) instant
      [] := by
    simp only [List.append_assoc, List.cons_append]
    refine .bind (takes_date instant.date _) (.behind_character (by decide) ?_)
    rw [← List.append_assoc]
    refine .bind (takes_time instant (zoneBehind (by decide)) (by decide)) ?_
    refine .behind_blanks (zoneBehind (by decide)) (takes_zone.last ?_)
    rw [ofLocal?_universal]
    rfl
  unfold Takes at taken
  rw [List.append_nil] at taken
  rw [read?, text, String.toList_ofList, taken]
  rfl

end JobWatch.Calendar.Timestamp
