import JobWatch.Calendar.Timestamp
import JobWatch.Proofs.Number.Decimal

/-! What a scan takes off the start of a text. Scans in a row take their texts one behind the other,
and a padded number is taken as the number.
-/

namespace JobWatch.Calendar.Timestamp

open JobWatch.Number JobWatch.Text

variable {α β : Type} {text rest : List Char} {value : α}

-----------------------------------------------------------------------
-- Scans in a row
-----------------------------------------------------------------------

/-- A scan takes a text off, in front of a rest, and finds a value in it. -/
def Takes (scan : Scan α) (text : List Char) (value : α) (rest : List Char) : Prop :=
  scan.run (text ++ rest) = some (value, rest)

/-- A text does not begin with a digit. -/
def NoDigitFirst (text : List Char) : Prop :=
  ∀ c ∈ text.head?, digit? c = none

/-- A text does not begin with a blank. -/
def NoBlankFirst (text : List Char) : Prop :=
  ∀ c ∈ text.head?, isBlank c = false

/-- A scan behind another one takes its text behind the other text. -/
theorem Takes.bind {scan : Scan α} {next : α → Scan β} {more : List Char} {found : β}
    (first : Takes scan text value (more ++ rest)) (second : Takes (next value) more found rest)
    : Takes (scan >>= next) (text ++ more) found rest := by
  unfold Takes at *
  rw [StateT.run_bind, List.append_assoc, first]
  exact second

/-- A scan that takes nothing more may come last. -/
theorem Takes.last {scan : Scan α} {next : α → Scan β} {found : β}
    (first : Takes scan text value rest) (second : Takes (next value) [] found rest)
    : Takes (scan >>= next) text found rest := by
  have whole : Takes (scan >>= next) (text ++ []) found rest := Takes.bind first second
  rwa [List.append_nil] at whole

/-- Blanks that may stand in front of a text need not stand there. -/
theorem Takes.behind_blanks {next : Unit → Scan α} (noBlank : NoBlankFirst (text ++ rest))
    (takes : Takes (next ()) text value rest)
    : Takes (blanks >>= next) text value rest := by
  have nothing : Takes blanks [] () (text ++ rest) := by
    have same : trimStart (text ++ rest) = text ++ rest := by
      cases whole : text ++ rest with
      | nil => rfl
      | cons c others =>
          rw [trimStart, List.dropWhile_cons_of_neg]
          rw [noBlank c (by rw [whole]; rfl)]
          exact Bool.false_ne_true
    change some ((), trimStart (text ++ rest)) = _
    rw [same]
  exact Takes.bind nothing takes

/-- One character is taken off if it passes the test. -/
theorem run_character_cons (test : Char → Bool) (c : Char) (rest : List Char)
    : (character test).run (c :: rest) = if test c then some (c, rest) else none := by
  cases passes : test c with
  | false =>
      simp only [character, StateT.run_bind, StateT.run_get, pure_bind, passes]
      rfl
  | true => simp [character, passes]

/-- A character that passes the test is taken off in front of what comes behind it. -/
theorem Takes.behind_character {test : Char → Bool} {c : Char} {next : Unit → Scan α}
    (passes : test c) (takes : Takes (next ()) text value rest)
    : Takes (discard (character test) >>= next) (c :: text) value rest := by
  have isFirst : (character test).run (c :: (text ++ rest)) = some (c, text ++ rest) := by
    rw [run_character_cons, if_pos passes]
  have taken : Takes (discard (character test)) [c] () (text ++ rest) := by
    simp [Takes, Functor.discard, map_const, isFirst]
  exact Takes.bind taken takes

/-- A separator is taken off in front of what comes behind it, and so are no blanks. -/
theorem Takes.behind_separator {c : Char} {next : Unit → Scan α} (noBlank : isBlank c = false)
    (takes : Takes (next ()) text value rest)
    : Takes (blanks >>= fun _ => separator c >>= next) (c :: text) value rest := by
  refine .behind_blanks ?_ (.behind_character (beq_self_eq_true c) takes)
  rintro _ ⟨⟩
  exact noBlank

-----------------------------------------------------------------------
-- Numbers
-----------------------------------------------------------------------

/-- The digits that a text begins with. -/
def leadingDigits (text : List Char) : List (Fin 10) :=
  (text.map digit?).takeWhile Option.isSome |>.filterMap id

theorem leadingDigits_none (noDigit : NoDigitFirst rest) : leadingDigits rest = [] := by
  cases rest with
  | nil => rfl
  | cons c others => simp [leadingDigits, noDigit c rfl]

/-- Written digits are the first ones of a text that begins with them, by induction on them. -/
theorem leadingDigits_append (digits : List (Fin 10)) (rest : List Char)
    : leadingDigits (digits.map digitChar ++ rest) = digits ++ leadingDigits rest := by
  induction digits with
  | nil => rfl
  | cons digit others ih =>
      have first (text : List Char)
          : leadingDigits (digitChar digit :: text) = digit :: leadingDigits text := by
        simp [leadingDigits, digit?_digitChar]
      rw [List.map_cons, List.cons_append, first, ih, List.cons_append]

/-- The first digits of a text that count, if there is a limit to them. -/
def limited (most : Option Nat) (found : List (Fin 10)) : List (Fin 10) :=
  match most with
  | some most => found.take most
  | none => found

/-- The digits that count are taken off the start of a text, if there are any. -/
theorem run_digits (most : Option Nat) {text : List Char} {found : List (Fin 10)}
    (isFound : limited most (leadingDigits text) = found) (nonempty : found ≠ [])
    : (digits most).run text = some (found, text.drop found.length) := by
  have taken : (digits most).run text
      = (if (limited most (leadingDigits text)).isEmpty then failure
          else pure (limited most (leadingDigits text)) : Scan (List (Fin 10))).run
        (text.drop (limited most (leadingDigits text)).length) :=
    rfl
  rw [taken, isFound]
  cases found with
  | nil => exact absurd rfl nonempty
  | cons digit others => rfl

/-- As many digits as may be are taken off, whatever comes behind them. -/
theorem takes_digits {found : List (Fin 10)} (nonempty : found ≠ []) (rest : List Char)
    : Takes (digits (some found.length)) (found.map digitChar) found rest := by
  have isFound : limited (some found.length) (leadingDigits (found.map digitChar ++ rest))
      = found := by
    rw [leadingDigits_append, limited, List.take_left]
  have taken := run_digits (some found.length) isFound nonempty
  rwa [List.drop_left' (List.length_map _)] at taken

/-- All digits are taken off if no digit comes behind them. -/
theorem takes_all_digits {found : List (Fin 10)} (nonempty : found ≠ [])
    (noDigit : NoDigitFirst rest)
    : Takes (digits none) (found.map digitChar) found rest := by
  have isFound : limited none (leadingDigits (found.map digitChar ++ rest)) = found := by
    rw [leadingDigits_append, limited, leadingDigits_none noDigit, List.append_nil]
  have taken := run_digits none isFound nonempty
  rwa [List.drop_left' (List.length_map _)] at taken

-----------------------------------------------------------------------
-- Padded numbers
-----------------------------------------------------------------------

/-- The digits of a padded number. -/
def paddedDigits (width value : Nat) : List (Fin 10) :=
  List.replicate (width - (toDigits value).length) (digitOf '0') ++ toDigits value

theorem padded_eq (width value : Nat)
    : padded width value = (paddedDigits width value).map digitChar := by
  simp only [padded, paddedDigits, natural, List.length_map, List.map_append, List.map_replicate]
  rfl

theorem ofDigits_paddedDigits (width value : Nat)
    : ofDigits (paddedDigits width value) = value := by
  rw [paddedDigits, ofDigits_zeros, ofDigits_toDigits]

/-- There are as many digits as the number is padded to, if it does not have more. -/
theorem length_paddedDigits {width value : Nat} (some : 0 < width)
    (small : value < Nat.pow 10 width)
    : (paddedDigits width value).length = width := by
  have most := length_toDigits_le some small
  rw [paddedDigits, List.length_append, List.length_replicate]
  omega

theorem paddedDigits_ne_nil (width value : Nat) : paddedDigits width value ≠ [] := by
  rw [paddedDigits, toDigits]
  split <;> simp

/-- No digit is blank. -/
theorem noBlankFirst_padded (width value : Nat) (rest : List Char)
    : NoBlankFirst (padded width value ++ rest) := by
  have notBlank : ∀ digit, isBlank (digitChar digit) = false := by decide
  intro c first
  rw [padded_eq] at first
  cases digits : paddedDigits width value with
  | nil => exact absurd digits (paddedDigits_ne_nil width value)
  | cons digit others =>
      rw [digits] at first
      obtain rfl := Option.some.inj first
      exact notBlank digit

/-- What is made of a padded number is found in its text, if no digit comes behind it. -/
theorem takes_all_padded (width value : Nat) (noDigit : NoDigitFirst rest) (f : Nat → β)
    : Takes (digits none >>= fun found => pure (f (ofDigits found))) (padded width value) (f value)
        rest := by
  have taken := takes_all_digits (paddedDigits_ne_nil width value) noDigit
  rw [← padded_eq] at taken
  refine taken.last ?_
  rw [ofDigits_paddedDigits]
  rfl

/-- What is made of a padded number is found in its text, if it has as many digits as may be. -/
theorem takes_padded {width value : Nat} (some : 0 < width) (small : value < Nat.pow 10 width)
    (f : Nat → β) (rest : List Char)
    : Takes (digits (.some width) >>= fun found => pure (f (ofDigits found))) (padded width value)
        (f value) rest := by
  have taken := takes_digits (paddedDigits_ne_nil width value) rest
  rw [length_paddedDigits some small, ← padded_eq] at taken
  refine taken.last ?_
  rw [ofDigits_paddedDigits]
  rfl

/-- A padded number is taken off as the number. -/
theorem takes_number {width value : Nat} (some : 0 < width) (small : value < Nat.pow 10 width)
    (rest : List Char)
    : Takes (number width) (padded width value) value rest :=
  .behind_blanks (noBlankFirst_padded width value rest)
    (takes_padded some small (fun size => size) rest)

end JobWatch.Calendar.Timestamp
