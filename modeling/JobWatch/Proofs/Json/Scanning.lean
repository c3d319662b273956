import JobWatch.Json.Reader
import JobWatch.Proofs.Json.Grammar
import JobWatch.Proofs.Number.Decimal

/-! Strings and numbers, one character at a time: the spelling of either is scanned to its end, and
what was scanned then is what it spells.
-/

namespace JobWatch.Json

-----------------------------------------------------------------------
-- Strings
-----------------------------------------------------------------------

namespace TextScan

/-- A string after some characters, if all of them belong to it. -/
def consume (scan : TextScan) (text : List Char) : Option TextScan :=
  text.foldlM
    (fun scan c =>
      match scan.step (some c) with
      | .more scan => some scan
      | .closed _ | .stop => none)
    scan

/-- A string after one more piece. -/
def add (scan : TextScan) : Piece → TextScan
  | .char c => scan.push c
  | .unit code => scan.pushUnit code

theorem consume_cons {scan : TextScan} (next : TextScan) {c : Char} {text : List Char}
    (more : scan.step (some c) = .more next)
    : scan.consume (c :: text) = next.consume text := by
  simp only [consume, List.foldlM_cons, more]
  rfl

/-- Between two pieces no escape is under way. -/
theorem add_escape (scan : TextScan) (piece : Piece) : (scan.add piece).escape = .outside := by
  cases piece with
  | char c => rfl
  | unit code =>
      simp only [add, pushUnit]
      split <;> repeat' split
      all_goals rfl

/-- A unit takes the place of the escape that spells it. -/
theorem pushUnit_escape (scan : TextScan) (escape : Escape) (code : Nat)
    : { scan with escape := escape }.pushUnit code = scan.pushUnit code := by
  simp only [pushUnit, push]

/-- A letter behind a backslash is read as it is meant, by cases of the letters. -/
theorem escaped?_of_spells {letter meant : Char} (spelled : SpellsEscape letter meant)
    : escaped? letter = some meant ∧ letter ≠ 'u' := by
  cases spelled <;> decide

/-- A hexadecimal digit is read as its value, by cases of the three kinds. -/
theorem hexDigit?_of_spells {c : Char} {value : Nat} (spelled : SpellsHex c value)
    : hexDigit? c = some value := by
  cases spelled with
  | decimal low high => rw [hexDigit?, if_pos ⟨low, high⟩]
  | lower low high =>
      have notDecimal : ¬('0' ≤ c ∧ c ≤ '9') := fun ⟨_, below⟩ =>
        absurd (Char.le_trans low below) (by decide)
      rw [hexDigit?, if_neg notDecimal, if_pos ⟨low, high⟩]
  | upper low high =>
      have notDecimal : ¬('0' ≤ c ∧ c ≤ '9') := fun ⟨_, below⟩ =>
        absurd (Char.le_trans low below) (by decide)
      have notLower : ¬('a' ≤ c ∧ c ≤ 'f') := fun ⟨above, _⟩ =>
        absurd (Char.le_trans above high) (by decide)
      rw [hexDigit?, if_neg notDecimal, if_neg notLower, if_pos ⟨low, high⟩]

/-- The spelling of some pieces is scanned piece by piece. Witness: induction on the spelling; the
six characters of a unit are read one after the other.
-/
theorem consume_spelled {text : List Char} {pieces : List Piece}
    (spelled : SpellsPieces text pieces) (scan : TextScan) (outside : scan.escape = .outside)
    : scan.consume text = some (pieces.foldl add scan) := by
  induction spelled generalizing scan with
  | nil => rfl
  | @literal c text pieces noQuote noBackslash noControl rest ih =>
      rw [consume_cons (scan.push c), ih _ rfl]
      · rfl
      · simp [step, outside, noQuote, noBackslash, Nat.not_lt.mpr noControl]
  | @escape letter meant text pieces escape rest ih =>
      obtain ⟨reads, noUnit⟩ := escaped?_of_spells escape
      rw [consume_cons { scan with escape := .begun }, consume_cons (scan.push meant), ih _ rfl]
      · rfl
      · simp [step, reads, noUnit, push]
      · simp [step, outside]
  | @unit a b c d first second third fourth text pieces one two three four rest ih =>
      rw [consume_cons { scan with escape := .begun },
        consume_cons { scan with escape := .unit 0 0 },
        consume_cons { scan with escape := .unit 1 first },
        consume_cons { scan with escape := .unit 2 (first * 16 + second) },
        consume_cons { scan with escape := .unit 3 ((first * 16 + second) * 16 + third) },
        consume_cons (scan.add (.unit (((first * 16 + second) * 16 + third) * 16 + fourth))),
        ih _ (add_escape scan _)]
      · rfl
      · simp [step, hexDigit?_of_spells four, pushUnit_escape, add, Nat.mul_comm 16]
      · simp [step, hexDigit?_of_spells three, Nat.mul_comm 16]
      · simp [step, hexDigit?_of_spells two, Nat.mul_comm 16]
      · simp [step, hexDigit?_of_spells one]
      · simp [step]
      · simp [step, outside]

-----------------------------------------------------------------------
-- The text of a string
-----------------------------------------------------------------------

/-- What a string under way will stand for with more pieces: a first half of a pair counts with
them.
-/
def withPieces? (scan : TextScan) (pieces : List Piece) : Option String :=
  if scan.sound then
    (textOf? (scan.high.toList.map .unit ++ pieces)).map fun text =>
      String.ofList (scan.reversed.reverse ++ text)
  else none

/-- A unit that is no first half stands for itself, or for nothing. -/
theorem textOf?_unit {code : Nat} (notHigh : Text.Utf16.isHigh code = false) (rest : List Piece)
    : textOf? (.unit code :: rest)
      = if Text.Utf16.isLow code then none else (textOf? rest).map (Char.ofNat code :: ·) := by
  rcases rest with _ | ⟨_ | _, rest⟩ <;> simp [textOf?, notHigh]

/-- A first half stands for nothing by itself. -/
theorem textOf?_high {code : Nat} (high : Text.Utf16.isHigh code) (rest : List Piece)
    (unpaired : ∀ low others, rest = .unit low :: others → Text.Utf16.isLow low = false)
    : textOf? (.unit code :: rest) = none := by
  rcases rest with _ | ⟨c | low, rest⟩
  · simp [textOf?, high]
  · simp [textOf?, high]
  · simp [textOf?, high, unpaired low rest rfl]

/-- One piece of the text is one piece of the scan. Witness: by the piece, and by the half of a pair
that stands before it.
-/
theorem withPieces?_add (scan : TextScan) (piece : Piece) (rest : List Piece)
    (half : ∀ code ∈ scan.high, Text.Utf16.isHigh code)
    : scan.withPieces? (piece :: rest) = (scan.add piece).withPieces? rest
      ∧ ∀ code ∈ (scan.add piece).high, Text.Utf16.isHigh code := by
  obtain ⟨reversed, sound, high, escape⟩ := scan
  cases piece with
  | char c =>
      cases high with
      | none => simp [withPieces?, add, push, textOf?, Function.comp_def]
      | some first =>
          have first_high : Text.Utf16.isHigh first := half first rfl
          have unpaired : textOf? (.unit first :: .char c :: rest) = none :=
            textOf?_high first_high _ (by simp)
          simp [withPieces?, add, push, unpaired]
  | unit code =>
      cases high with
      | none =>
          cases isHigh : Text.Utf16.isHigh code with
          | true => simp [withPieces?, add, pushUnit, isHigh]
          | false =>
              have text := textOf?_unit isHigh rest
              cases isLow : Text.Utf16.isLow code with
              | true => simp [withPieces?, add, pushUnit, isHigh, isLow, text]
              | false =>
                  simp [withPieces?, add, pushUnit, push, isHigh, isLow, text, Function.comp_def]
      | some first =>
          have first_high : Text.Utf16.isHigh first := half first rfl
          cases isLow : Text.Utf16.isLow code with
          | true =>
              simp [withPieces?, add, pushUnit, isLow, textOf?, first_high, Function.comp_def]
          | false =>
              have unpaired : textOf? (.unit first :: .unit code :: rest) = none :=
                textOf?_high first_high _ (by simp [isLow])
              simp [withPieces?, add, pushUnit, isLow, unpaired]

/-- The text of a scan is the one that all its pieces make up, by induction on them. -/
theorem text?_foldl (scan : TextScan) (pieces : List Piece)
    (half : ∀ code ∈ scan.high, Text.Utf16.isHigh code)
    : (pieces.foldl add scan).text? = scan.withPieces? pieces := by
  induction pieces generalizing scan with
  | nil =>
      obtain ⟨reversed, sound, high, escape⟩ := scan
      cases high with
      | none => cases sound <;> simp [text?, withPieces?, textOf?]
      | some first =>
          have alone := textOf?_high (half first rfl) [] (by simp)
          cases sound <;> simp [text?, withPieces?, alone]
  | cons piece rest ih =>
      obtain ⟨same, stillHalf⟩ := withPieces?_add scan piece rest half
      rw [List.foldl_cons, ih _ stillHalf, same]

/-- The text of a whole string. -/
theorem text?_spelled (pieces : List Piece)
    : (pieces.foldl add start).text? = stringOf? pieces := by
  rw [text?_foldl start pieces (by simp [start])]
  simp [withPieces?, start, stringOf?]

end TextScan

-----------------------------------------------------------------------
-- Numbers
-----------------------------------------------------------------------

namespace NumeralScan

/-- A number after some characters, if all of them belong to it. -/
def consume (scan : NumeralScan) (text : List Char) : Option NumeralScan :=
  text.foldlM
    (fun scan c =>
      match scan.step (some c) with
      | .more scan => some scan
      | .finished | .stop => none)
    scan

theorem consume_append (scan : NumeralScan) (before after : List Char)
    : scan.consume (before ++ after) = (scan.consume before).bind (·.consume after) :=
  List.foldlM_append

theorem consume_cons {scan : NumeralScan} (next : NumeralScan) {c : Char} {text : List Char}
    (more : scan.step (some c) = .more next)
    : scan.consume (c :: text) = next.consume text := by
  simp only [consume, List.foldlM_cons, more]
  rfl

theorem step_digit (scan : NumeralScan) (digit : Fin 10)
    : scan.step (some (Number.digitChar digit)) = scan.pushDigit digit := by
  simp [step, Number.digit?_digitChar]

/-- Digits are gathered one by one where any number of them may stand, by induction on them. -/
theorem consume_digits (gathered : List (Fin 10) → NumeralScan)
    (takes : ∀ done digit, (gathered done).pushDigit digit = .more (gathered (digit :: done)))
    (done digits : List (Fin 10))
    : (gathered done).consume (digitText digits) = some (gathered (digits.reverse ++ done)) := by
  induction digits generalizing done with
  | nil => rfl
  | cons digit rest ih =>
      rw [digitText, List.map_cons, consume_cons (gathered (digit :: done)), ← digitText, ih,
        List.reverse_cons, List.append_assoc]
      · rfl
      · rw [step_digit, takes]

/-- All whole digits were read, and nothing behind them. -/
def IsWholeStage (stage : NumeralStage) : Prop :=
  stage = .zero ∨ stage = .whole

/-- An exponent may begin, or the number may end. -/
def IsFractionStage (stage : NumeralStage) : Prop :=
  stage = .zero ∨ stage = .whole ∨ stage = .fraction

/-- The whole digits of a number are scanned behind its sign. -/
theorem consume_whole (negative : Bool) {digits : List (Fin 10)} (whole : IsWhole digits)
    : ∃ stage, IsWholeStage stage
        ∧ (start negative).consume (digitText digits)
          = some ⟨stage, negative, digits.reverse, [], false, []⟩ := by
  match digits, whole with
  | [digit], _ =>
      have isStage : IsWholeStage (if digit.val = 0 then .zero else .whole) := by
        split
        · exact .inl rfl
        · exact .inr rfl
      refine ⟨_, isStage, ?_⟩
      rw [digitText, List.map_singleton,
        consume_cons ⟨if digit.val = 0 then .zero else .whole, negative, [digit], [], false, []⟩]
      · rfl
      · rw [step_digit]
        rfl
  | first :: second :: rest, positive =>
      refine ⟨.whole, .inr rfl, ?_⟩
      have notZero : first.val ≠ 0 := Nat.pos_iff_ne_zero.mp positive
      rw [digitText, List.map_cons, consume_cons ⟨.whole, negative, [first], [], false, []⟩,
        ← digitText, consume_digits (⟨.whole, negative, ·, [], false, []⟩) (fun _ _ => rfl),
        ← List.reverse_cons]
      rw [step_digit]
      simp [pushDigit, start, notZero]

/-- The fraction of a number is scanned behind its whole digits. -/
theorem consume_fraction {stage : NumeralStage} (ready : IsWholeStage stage) (negative : Bool)
    (whole digits : List (Fin 10))
    : ∃ next, IsFractionStage next
        ∧ (NumeralScan.mk stage negative whole [] false []).consume (fractionText digits)
          = some ⟨next, negative, whole, digits.reverse, false, []⟩ := by
  cases digits with
  | nil =>
      refine ⟨stage, ?_, rfl⟩
      rcases ready with zero | whole
      · exact .inl zero
      · exact .inr (.inl whole)
  | cons first rest =>
      refine ⟨.fraction, .inr (.inr rfl), ?_⟩
      rw [fractionText, if_neg (by simp), consume_cons ⟨.point, negative, whole, [], false, []⟩,
        digitText, List.map_cons, consume_cons ⟨.fraction, negative, whole, [first], false, []⟩,
        ← digitText, consume_digits (⟨.fraction, negative, whole, ·, false, []⟩) (fun _ _ => rfl),
        ← List.reverse_cons]
      · rw [step_digit]
        rfl
      · rcases ready with rfl | rfl <;> rfl

/-- The digits of an exponent are scanned behind its mark and its sign. -/
theorem consume_exponentDigits {stage : NumeralStage} (ready : stage = .mark ∨ stage = .markSign)
    (negative minus : Bool) (whole fraction : List (Fin 10)) (first : Fin 10)
    (rest : List (Fin 10))
    : (NumeralScan.mk stage negative whole fraction minus []).consume (digitText (first :: rest))
      = some ⟨.exponent, negative, whole, fraction, minus, (first :: rest).reverse⟩ := by
  rw [digitText, List.map_cons, consume_cons ⟨.exponent, negative, whole, fraction, minus, [first]⟩,
    ← digitText, consume_digits (⟨.exponent, negative, whole, fraction, minus, ·⟩) (fun _ _ => rfl),
    ← List.reverse_cons]
  rw [step_digit]
  rcases ready with rfl | rfl <;> rfl

/-- The exponent of a number is scanned behind its digits, and then the number may end. Witness: by
the four ways to write an exponent.
-/
theorem consume_exponent {text : List Char} {exponent : Option Int}
    (spelled : SpellsExponent text exponent) {stage : NumeralStage} (ready : IsFractionStage stage)
    (negative : Bool) (whole fraction : List (Fin 10))
    : ∃ scan,
        (NumeralScan.mk stage negative whole fraction false []).consume text = some scan
        ∧ scan.mayEnd
        ∧ scan.numeral = ⟨negative, whole.reverse, fraction.reverse, exponent⟩ := by
  have marks {mark : Char} (isMark : mark = 'e' ∨ mark = 'E')
      : (NumeralScan.mk stage negative whole fraction false []).step (some mark)
        = .more ⟨.mark, negative, whole, fraction, false, []⟩ := by
    rcases isMark with rfl | rfl <;> rcases ready with rfl | rfl | rfl <;> rfl
  cases spelled with
  | absent => exact ⟨_, rfl, by rcases ready with rfl | rfl | rfl <;> rfl, rfl⟩
  | @unsigned mark first digits isMark =>
      refine ⟨_, (consume_cons _ (marks isMark)).trans
        (consume_exponentDigits (.inl rfl) negative false whole fraction first digits), rfl, ?_⟩
      simp [numeral]
  | @plus mark first digits isMark =>
      refine ⟨_, (consume_cons _ (marks isMark)).trans ((consume_cons _ rfl).trans
        (consume_exponentDigits (.inr rfl) negative false whole fraction first digits)), rfl, ?_⟩
      simp [numeral]
  | @minus mark first digits isMark =>
      refine ⟨_, (consume_cons _ (marks isMark)).trans ((consume_cons _ rfl).trans
        (consume_exponentDigits (.inr rfl) negative true whole fraction first digits)), rfl, ?_⟩
      simp [numeral]

/-- The spelling of a number behind its sign is scanned to an end, and what was scanned is the
number.
-/
theorem consume_spelled {numeral : Numeral} {exponent : List Char} (whole : IsWhole numeral.whole)
    (spelled : SpellsExponent exponent numeral.exponent)
    : ∃ scan,
        (start numeral.negative).consume
            (digitText numeral.whole ++ fractionText numeral.fraction ++ exponent)
          = some scan
        ∧ scan.mayEnd
        ∧ scan.numeral = numeral := by
  obtain ⟨stage, wholeStage, scanned⟩ := consume_whole numeral.negative whole
  obtain ⟨next, fractionStage, further⟩ :=
    consume_fraction wholeStage numeral.negative numeral.whole.reverse numeral.fraction
  obtain ⟨scan, toEnd, mayEnd, same⟩ :=
    consume_exponent spelled fractionStage numeral.negative numeral.whole.reverse
      numeral.fraction.reverse
  refine ⟨scan, ?_, mayEnd, ?_⟩
  · rw [consume_append, consume_append, scanned, Option.bind_some, further, Option.bind_some, toEnd]
  · rw [same, List.reverse_reverse, List.reverse_reverse]

end NumeralScan

end JobWatch.Json
