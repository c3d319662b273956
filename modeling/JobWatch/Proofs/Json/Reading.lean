import JobWatch.Proofs.Json.Scanning
import Mathlib.Data.Fintype.Basic
import Mathlib.Tactic.FinCases

/-! Every JSON text is read as the value that it spells. The machine is followed over one part of
the text at a time, with any containers around it.
-/

namespace JobWatch.Json

-----------------------------------------------------------------------
-- The machine over a text
-----------------------------------------------------------------------

namespace Reader

/-- The machine after some characters. -/
def consume (reader : Reader) (text : List Char) : Reader :=
  (text.map some).foldl step reader

@[simp]
theorem consume_nil (reader : Reader) : reader.consume [] = reader :=
  rfl

@[simp]
theorem consume_cons (reader : Reader) (c : Char) (text : List Char)
    : reader.consume (c :: text) = (reader.step (some c)).consume text :=
  rfl

@[simp]
theorem consume_append (reader : Reader) (before after : List Char)
    : reader.consume (before ++ after) = (reader.consume before).consume after := by
  simp [consume]

/-- A string is followed by its own scan. -/
theorem consume_text {scan next : TextScan} {text : List Char} (frames : List Frame)
    (scanned : scan.consume text = some next)
    : consume ⟨frames, .text scan⟩ text = ⟨frames, .text next⟩ := by
  induction text generalizing scan with
  | nil =>
      obtain rfl := Option.some.inj scanned
      rfl
  | cons c rest ih =>
      rw [TextScan.consume, List.foldlM_cons] at scanned
      cases stepped : scan.step (some c) with
      | more more =>
          rw [stepped] at scanned
          rw [consume_cons, show step ⟨frames, .text scan⟩ (some c) = ⟨frames, .text more⟩ by
            simp [step, advance, stepped]]
          exact ih scanned
      | closed text => simp [stepped] at scanned
      | stop => simp [stepped] at scanned

/-- A key is followed by its own scan. -/
theorem consume_keyText {scan next : TextScan} {text : List Char} (frames : List Frame)
    (done : Members) (scanned : scan.consume text = some next)
    : consume ⟨frames, .keyText done scan⟩ text = ⟨frames, .keyText done next⟩ := by
  induction text generalizing scan with
  | nil =>
      obtain rfl := Option.some.inj scanned
      rfl
  | cons c rest ih =>
      rw [TextScan.consume, List.foldlM_cons] at scanned
      cases stepped : scan.step (some c) with
      | more more =>
          rw [stepped] at scanned
          rw [consume_cons, show step ⟨frames, .keyText done scan⟩ (some c)
              = ⟨frames, .keyText done more⟩ by
            simp [step, advance, stepped]]
          exact ih scanned
      | closed text => simp [stepped] at scanned
      | stop => simp [stepped] at scanned

/-- A number is followed by its own scan. -/
theorem consume_numeral {scan next : NumeralScan} {text : List Char} (frames : List Frame)
    (scanned : scan.consume text = some next)
    : consume ⟨frames, .numeral scan⟩ text = ⟨frames, .numeral next⟩ := by
  induction text generalizing scan with
  | nil =>
      obtain rfl := Option.some.inj scanned
      rfl
  | cons c rest ih =>
      rw [NumeralScan.consume, List.foldlM_cons] at scanned
      cases stepped : scan.step (some c) with
      | more more =>
          rw [stepped] at scanned
          rw [consume_cons, show step ⟨frames, .numeral scan⟩ (some c) = ⟨frames, .numeral more⟩ by
            simp [step, stepped]]
          exact ih scanned
      | finished => simp [stepped] at scanned
      | stop => simp [stepped] at scanned

-----------------------------------------------------------------------
-- Space
-----------------------------------------------------------------------

/-- The places between tokens. -/
def isBetween : Focus → Bool
  | .value | .firstItem | .afterItem _ | .key _ _ | .colon _ _ | .afterMember _
  | .finished _ => true
  | .keyText _ _ | .word _ _ | .numeral _ | .text _ | .stopped _ => false

theorem isSpace_of {c : Char} (space : IsSpace c) : isSpace c := by
  rcases space with rfl | rfl | rfl | rfl <;> rfl

/-- Between tokens a character is a space, or it belongs to the next token. -/
theorem step_between {reader : Reader} (place : isBetween reader.focus) (c : Char)
    : reader.step (some c) = if isSpace c then reader else reader.between c := by
  obtain ⟨frames, focus⟩ := reader
  cases focus <;> first | rfl | cases place

/-- Space between tokens changes nothing, by induction on it. -/
theorem consume_blank {reader : Reader} (place : isBetween reader.focus) {text : List Char}
    (blank : IsBlankText text)
    : reader.consume text = reader := by
  induction text with
  | nil => rfl
  | cons c rest ih =>
      rw [consume_cons, step_between place, if_pos (isSpace_of (blank c List.mem_cons_self))]
      exact ih fun d member => blank d (List.mem_cons_of_mem _ member)

/-- Behind a value there is a place between tokens, whatever contains it. -/
theorem complete_isBetween (value : Json) (frames : List Frame)
    : isBetween (complete value frames).focus := by
  rcases frames with _ | ⟨_ | _, _⟩ <;> rfl

-----------------------------------------------------------------------
-- A value at its end
-----------------------------------------------------------------------

/-- A value is read to its end inside some containers. Only a number may still go on: it has no end
of its own.
-/
inductive Settled (frames : List Frame) : Reader → Json → Prop
  | complete (value : Json) : Settled frames (complete value frames) value
  | numeral {scan : NumeralScan} (mayEnd : scan.mayEnd)
    : Settled frames ⟨frames, .numeral scan⟩ (.number scan.numeral)

/-- The characters that may stand behind a value: a space, or what ends an item or a member. -/
def IsBehind (c : Char) : Prop :=
  IsSpace c ∨ c = ',' ∨ c = ']' ∨ c = '}'

/-- A number goes on with none of the characters that may stand behind it. -/
theorem NumeralScan.finished_before {scan : NumeralScan} (mayEnd : scan.mayEnd) {c : Char}
    (behind : IsBehind c)
    : scan.step (some c) = .finished := by
  obtain ⟨stage, negative, whole, fraction, exponentNegative, exponent⟩ := scan
  rcases behind with (rfl | rfl | rfl | rfl) | rfl | rfl | rfl <;> cases stage
  all_goals first | rfl | cases mayEnd

namespace Settled

variable {frames : List Frame} {reader : Reader} {value : Json}

/-- Behind a value the next character is read as if the value had an end of its own. -/
theorem step_behind (settled : Settled frames reader value) {c : Char} (behind : IsBehind c)
    : reader.step (some c) = (Reader.complete value frames).step (some c) := by
  cases settled with
  | complete => rfl
  | @numeral scan mayEnd =>
      have finished := NumeralScan.finished_before mayEnd behind
      have next : step ⟨frames, .numeral scan⟩ (some c)
          = (Reader.complete (.number scan.numeral) frames).advance (some c) := by
        simp [step, finished]
      rw [next]
      rcases frames with _ | ⟨_ | _, _⟩ <;> rfl

/-- Space behind a value leaves it at its end. -/
theorem consume_blank (settled : Settled frames reader value) {text : List Char}
    (blank : IsBlankText text)
    : Settled frames (reader.consume text) value := by
  cases text with
  | nil => exact settled
  | cons c rest =>
      have same : reader.consume (c :: rest)
          = (Reader.complete value frames).consume (c :: rest) := by
        rw [consume_cons, consume_cons, settled.step_behind (.inl (blank c List.mem_cons_self))]
      rw [same, Reader.consume_blank (complete_isBetween value frames) blank]
      exact .complete value

/-- Space and the character behind it are read as if the value had an end of its own. -/
theorem step_behind_blank (settled : Settled frames reader value) {text : List Char}
    (blank : IsBlankText text) {c : Char} (behind : IsBehind c)
    : (reader.consume text).step (some c) = (Reader.complete value frames).step (some c) :=
  (settled.consume_blank blank).step_behind behind

/-- A value outside all containers is the whole document. -/
theorem finish (settled : Settled [] reader value) : reader.finish = ⟨value, false⟩ := by
  cases settled with
  | complete => rfl
  | numeral mayEnd => simp [Reader.finish, mayEnd, Reader.complete]

end Settled

-----------------------------------------------------------------------
-- The first character of a value
-----------------------------------------------------------------------

/-- The characters that a value may start with. -/
def Starts (c : Char) : Prop :=
  isSpace c = false ∧ c ≠ ']'

theorem starts_digit : ∀ digit, isSpace (Number.digitChar digit) = false
    ∧ Number.digitChar digit ≠ ']' := by
  decide

/-- A number starts with its sign, or with a digit. -/
theorem numeral_starts {text : List Char} {numeral : Numeral} (spelled : SpellsNumeral text numeral)
    : ∃ c rest, text = c :: rest ∧ Starts c := by
  obtain ⟨whole, exponent, _, rfl⟩ := spelled
  obtain ⟨negative, _ | ⟨first, digits⟩, fraction, power⟩ := numeral
  · exact whole.elim
  · cases negative with
    | true => exact ⟨'-', _, rfl, by decide, by decide⟩
    | false => exact ⟨Number.digitChar first, _, rfl, starts_digit first⟩

/-- A value starts with a character that is no space and closes no array. -/
theorem value_starts {text : List Char} {value : Json} (spelled : Spells text (.value value))
    : ∃ c rest, text = c :: rest ∧ Starts c := by
  cases spelled with
  | null => exact ⟨'n', _, rfl, by decide, by decide⟩
  | true => exact ⟨'t', _, rfl, by decide, by decide⟩
  | false => exact ⟨'f', _, rfl, by decide, by decide⟩
  | number spelled => exact numeral_starts spelled
  | string => exact ⟨'"', _, rfl, by decide, by decide⟩
  | emptyArray | array => exact ⟨'[', _, rfl, by decide, by decide⟩
  | emptyObject | object => exact ⟨'{', _, rfl, by decide, by decide⟩

/-- A value begins in the same way wherever the machine stood. -/
theorem begin_focus (frames : List Frame) (focus : Focus) (c : Char)
    : begin ⟨frames, focus⟩ c = begin ⟨frames, .value⟩ c := by
  simp only [begin]

/-- The first item of an array is read like the ones behind it. -/
theorem consume_firstItem (frames : List Frame) {left text : List Char} (blank : IsBlankText left)
    {item : Json} (spelled : Spells text (.value item)) (behind : List Char)
    : consume ⟨frames, .firstItem⟩ (left ++ text ++ behind)
      = consume ⟨.items [] :: frames, .value⟩ (left ++ text ++ behind) := by
  obtain ⟨c, rest, rfl, noSpace, noEnd⟩ := value_starts spelled
  have first : step ⟨frames, .firstItem⟩ (some c)
      = step ⟨.items [] :: frames, .value⟩ (some c) := by
    rw [step_between rfl, step_between rfl, noSpace]
    simp only [Bool.false_eq_true, if_false, between]
    exact begin_focus _ _ c
  simp only [consume_append, consume_cons]
  rw [consume_blank rfl blank, consume_blank rfl blank, first]

-----------------------------------------------------------------------
-- Single values
-----------------------------------------------------------------------

/-- Behind the pieces of a string no escape is under way. -/
theorem foldl_add_escape (pieces : List Piece) (scan : TextScan) (outside : scan.escape = .outside)
    : (pieces.foldl TextScan.add scan).escape = .outside := by
  induction pieces generalizing scan with
  | nil => exact outside
  | cons piece rest ih => exact ih _ (scan.add_escape piece)

/-- The quotation mark behind the pieces of a string closes it. -/
theorem step_quote (pieces : List Piece)
    : (pieces.foldl TextScan.add .start).step (some '"') = .closed (stringOf? pieces) := by
  have outside := foldl_add_escape pieces .start rfl
  simp [TextScan.step, outside, TextScan.text?_spelled]

/-- A string is read as the text that its pieces make up. -/
theorem consume_string (frames : List Frame) {text : List Char} {pieces : List Piece}
    (spelled : SpellsPieces text pieces)
    : consume ⟨frames, .value⟩ ('"' :: text ++ ['"'])
      = complete (ofString? (stringOf? pieces)) frames := by
  have scanned := consume_text frames (TextScan.consume_spelled spelled .start rfl)
  have opened : step ⟨frames, .value⟩ (some '"') = ⟨frames, .text .start⟩ := rfl
  rw [List.cons_append, consume_cons, opened, consume_append, scanned, consume_cons, consume_nil]
  have closed := step_quote pieces
  simp only [step, advance, closed]
  cases stringOf? pieces <;> rfl

/-- A key is read as the text that its pieces make up. -/
theorem consume_key (frames : List Frame) (done : Members) (mayClose : Bool) {text : List Char}
    {pieces : List Piece} (spelled : SpellsPieces text pieces)
    : consume ⟨frames, .key done mayClose⟩ ('"' :: text ++ ['"'])
      = ⟨frames, .colon done (stringOf? pieces)⟩ := by
  have scanned := consume_keyText frames done (TextScan.consume_spelled spelled .start rfl)
  have opened : step ⟨frames, .key done mayClose⟩ (some '"') = ⟨frames, .keyText done .start⟩ := by
    cases mayClose <;> rfl
  rw [List.cons_append, consume_cons, opened, consume_append, scanned, consume_cons, consume_nil]
  have closed := step_quote pieces
  simp only [step, advance, closed]

/-- A digit begins a number, and is its first character. -/
theorem step_digit (frames : List Frame) (digit : Fin 10)
    : ∃ scan,
        (NumeralScan.start false).step (some (Number.digitChar digit)) = .more scan
        ∧ step ⟨frames, .value⟩ (some (Number.digitChar digit)) = ⟨frames, .numeral scan⟩ := by
  refine ⟨⟨if digit.val = 0 then .zero else .whole, false, [digit], [], false, []⟩, ?_, ?_⟩
  · rw [NumeralScan.step_digit]
    rfl
  · fin_cases digit <;> rfl

/-- A number is scanned to a place where it may end. -/
theorem consume_number (frames : List Frame) {text : List Char} {numeral : Numeral}
    (spelled : SpellsNumeral text numeral)
    : Settled frames (consume ⟨frames, .value⟩ text) (.number numeral) := by
  obtain ⟨whole, exponent, power, rfl⟩ := spelled
  obtain ⟨scan, scanned, mayEnd, same⟩ := NumeralScan.consume_spelled whole power
  have settled : Settled frames ⟨frames, .numeral scan⟩ (.number numeral) :=
    same ▸ .numeral mayEnd
  clear same
  rcases numeral with ⟨_ | _, _ | ⟨first, digits⟩, fraction, power⟩
  · exact whole.elim
  · obtain ⟨next, more, begun⟩ := step_digit frames first
    rw [digitText, List.map_cons, List.cons_append, List.cons_append,
      NumeralScan.consume_cons next more] at scanned
    rw [signText, if_neg Bool.false_ne_true, List.nil_append, digitText, List.map_cons,
      List.cons_append, List.cons_append, consume_cons, begun, consume_numeral frames scanned]
    exact settled
  · exact whole.elim
  · have minus : step ⟨frames, .value⟩ (some '-') = ⟨frames, .numeral (.start true)⟩ := rfl
    rw [signText, if_pos rfl, List.append_assoc, List.append_assoc, List.singleton_append,
      consume_cons, minus, ← List.append_assoc, consume_numeral frames scanned]
    exact settled

-----------------------------------------------------------------------
-- Values and their parts
-----------------------------------------------------------------------

/-- What the machine does over the text of a part, whatever contains it. A value and a member are
read to their end; items and members are followed by a comma or by the closing bracket.
-/
def Reads (text : List Char) : Part → Prop
  | .value value => ∀ frames, Settled frames (consume ⟨frames, .value⟩ text) value
  | .items items =>
      ∀ frames done c,
        (c = ',' ∨ c = ']')
        → (consume ⟨.items done :: frames, .value⟩ text).step (some c)
          = step ⟨frames, .afterItem (items.reverse ++ done)⟩ (some c)
  | .member (key, value) =>
      ∀ frames done mayClose,
        Settled (.members done key :: frames) (consume ⟨frames, .key done mayClose⟩ text) value
  | .members members =>
      ∀ frames done mayClose c,
        (c = ',' ∨ c = '}')
        → (consume ⟨frames, .key done mayClose⟩ text).step (some c)
          = step ⟨frames, .afterMember (members.reverse ++ done)⟩ (some c)

/-- A text of items is read in the same way from the opening bracket on. -/
theorem consume_items (frames : List Frame) {text : List Char} {items : List Json}
    (spelled : Spells text (.items items))
    : consume ⟨frames, .firstItem⟩ text = consume ⟨.items [] :: frames, .value⟩ text := by
  cases spelled with
  | lastItem leftBlank _ spelled => exact consume_firstItem frames leftBlank spelled _
  | @moreItems left text right rest item items leftBlank _ spelled =>
      rw [List.append_assoc]
      exact consume_firstItem frames leftBlank spelled _

theorem isBehind_item {c : Char} (ends : c = ',' ∨ c = ']') : IsBehind c := by
  rcases ends with rfl | rfl
  · exact .inr (.inl rfl)
  · exact .inr (.inr (.inl rfl))

theorem isBehind_member {c : Char} (ends : c = ',' ∨ c = '}') : IsBehind c := by
  rcases ends with rfl | rfl
  · exact .inr (.inl rfl)
  · exact .inr (.inr (.inr rfl))

/-- An array is what its closing bracket completes. -/
theorem consume_array (frames : List Frame) {text : List Char} {value : Json}
    (closed : (consume ⟨frames, .firstItem⟩ text).step (some ']') = complete value frames)
    : consume ⟨frames, .value⟩ ('[' :: text ++ [']']) = complete value frames := by
  have opened : step ⟨frames, .value⟩ (some '[') = ⟨frames, .firstItem⟩ := rfl
  rw [List.cons_append, consume_cons, opened, consume_append, consume_cons, closed, consume_nil]

/-- An object is what its closing brace completes. -/
theorem consume_object (frames : List Frame) {text : List Char} {value : Json}
    (closed : (consume ⟨frames, .key [] true⟩ text).step (some '}') = complete value frames)
    : consume ⟨frames, .value⟩ ('{' :: text ++ ['}']) = complete value frames := by
  have opened : step ⟨frames, .value⟩ (some '{') = ⟨frames, .key [] true⟩ := rfl
  rw [List.cons_append, consume_cons, opened, consume_append, consume_cons, closed, consume_nil]

/-- Every part is read as what its text spells. Witness: induction on the spelling, with any
containers around the part.
-/
theorem reads_spelled {text : List Char} {part : Part} (spelled : Spells text part)
    : Reads text part := by
  induction spelled with
  | null => exact fun frames => .complete .null
  | true => exact fun frames => .complete (.bool true)
  | false => exact fun frames => .complete (.bool false)
  | number spelled => exact fun frames => consume_number frames spelled
  | string spelled =>
      intro frames
      rw [consume_string frames spelled]
      exact .complete _
  | emptyArray blank =>
      intro frames
      rw [consume_array frames (by rw [consume_blank rfl blank]; rfl)]
      exact .complete (.array [] true)
  | @array text items content ih =>
      intro frames
      have closed : (consume ⟨frames, .firstItem⟩ text).step (some ']')
          = complete (.array items true) frames := by
        rw [consume_items frames content, ih frames [] ']' (.inr rfl), List.append_nil,
          step_between rfl, if_neg (by decide)]
        simp only [between, List.reverse_reverse]
      rw [consume_array frames closed]
      exact .complete _
  | emptyObject blank =>
      intro frames
      rw [consume_object frames (by rw [consume_blank rfl blank]; rfl)]
      exact .complete (.object [] true)
  | @object text members content ih =>
      intro frames
      have closed : (consume ⟨frames, .key [] true⟩ text).step (some '}')
          = complete (.object members true) frames := by
        rw [ih frames [] true '}' (.inr rfl), List.append_nil, step_between rfl,
          if_neg (by decide)]
        simp only [between, List.reverse_reverse]
      rw [consume_object frames closed]
      exact .complete _
  | @lastItem left text right item leftBlank rightBlank spelled ih =>
      intro frames done c ends
      rw [consume_append, consume_append, consume_blank rfl leftBlank,
        (ih (.items done :: frames)).step_behind_blank rightBlank (isBehind_item ends)]
      rfl
  | @moreItems left text right rest item items leftBlank rightBlank spelled others ih ihRest =>
      intro frames done c ends
      have next : step ⟨frames, .afterItem (item :: done)⟩ (some ',')
          = ⟨.items (item :: done) :: frames, .value⟩ := rfl
      rw [consume_append, consume_append, consume_append, consume_blank rfl leftBlank, consume_cons,
        (ih (.items done :: frames)).step_behind_blank rightBlank (isBehind_item (.inl rfl)),
        complete, next, ihRest frames (item :: done) c ends]
      simp
  | @member key pieces left right text value spelledKey leftBlank rightBlank spelled ih =>
      intro frames done mayClose
      have asked : step ⟨frames, .colon done (stringOf? pieces)⟩ (some ':')
          = ⟨.members done (stringOf? pieces) :: frames, .value⟩ := rfl
      rw [List.append_cons, consume_append, consume_key frames done mayClose spelledKey,
        consume_append, consume_blank rfl leftBlank, consume_cons, asked, consume_append,
        consume_blank rfl rightBlank]
      exact ih _
  | @lastMember left text right member leftBlank rightBlank spelled ih =>
      intro frames done mayClose c ends
      rw [consume_append, consume_append, consume_blank rfl leftBlank,
        (ih frames done mayClose).step_behind_blank rightBlank (isBehind_member ends)]
      rfl
  | @moreMembers left text right rest member members leftBlank rightBlank spelled others ih
      ihRest =>
      intro frames done mayClose c ends
      have next : step ⟨frames, .afterMember (member :: done)⟩ (some ',')
          = ⟨frames, .key (member :: done) false⟩ := rfl
      rw [consume_append, consume_append, consume_append, consume_blank rfl leftBlank, consume_cons,
        (ih frames done mayClose).step_behind_blank rightBlank (isBehind_member (.inl rfl)),
        complete, next, ihRest frames (member :: done) false c ends]
      simp

end Reader

-----------------------------------------------------------------------
-- Whole texts
-----------------------------------------------------------------------

/-- A JSON text is read as the value that it spells, and nothing is left behind it. -/
theorem read_text {text : List Char} {value : Json} (spelled : IsTextOf text value)
    : read (text.map some) = ⟨value, false⟩ := by
  obtain ⟨left, body, right, leftBlank, spelledBody, rightBlank, rfl⟩ := spelled
  have settled : Reader.Settled [] (Reader.consume .start body) value :=
    Reader.reads_spelled spelledBody []
  have reached : Reader.consume .start (left ++ body ++ right)
      = (Reader.consume .start body).consume right := by
    rw [Reader.consume_append, Reader.consume_append, Reader.consume_blank rfl leftBlank]
  exact (congrArg Reader.finish reached).trans (settled.consume_blank rightBlank).finish

end JobWatch.Json
