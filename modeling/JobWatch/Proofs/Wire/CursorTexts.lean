import JobWatch.Proofs.Wire.CursorFields
import JobWatch.Proofs.Wire.CursorNumbers

/-! Strings in the cursor fields of a batch: an integer between blanks is taken as its value and a
blank string as zero, and every other string is refused and reported as it stands there.
-/

namespace JobWatch.Wire

-----------------------------------------------------------------------
-- Texts of integers
-----------------------------------------------------------------------

/-- A digit that is read is a digit. -/
theorem isDigit_of_digit? {c : Char} {digit : Fin 10} (read : Number.digit? c = some digit)
    : c.isDigit := by
  rw [Number.digit?] at read
  split at read
  case isTrue bounds =>
    simp only [Char.isDigit, Bool.and_eq_true, decide_eq_true_eq]
    exact bounds
  case isFalse => cases read

/-- Characters that are all read as digits are digits, by induction on them. -/
theorem isDigit_of_mapM_digit? {text : List Char} {digits : List (Fin 10)}
    (read : text.mapM Number.digit? = some digits)
    : ∀ c ∈ text, c.isDigit := by
  induction text generalizing digits with
  | nil => exact List.forall_mem_nil _
  | cons c rest ih =>
      rw [List.mapM_cons] at read
      obtain ⟨digit, first, read⟩ := Option.bind_eq_some_iff.mp read
      obtain ⟨others, behind, -⟩ := Option.bind_eq_some_iff.mp read
      exact List.forall_mem_cons.mpr ⟨isDigit_of_digit? first, ih behind⟩

theorem natural?_eq_some_iff {text : List Char} {value : Nat}
    : Number.natural? text = some value ↔ SpellsNatural text value := by
  constructor
  · intro read
    have nonempty : text ≠ [] := by
      rintro rfl
      cases read
    have digits : ∀ c ∈ text, c.isDigit := by
      rw [Number.natural?] at read
      cases found : text.mapM Number.digit? with
      | none => rw [found] at read; cases read
      | some digits => exact isDigit_of_mapM_digit? found
    rw [Number.natural?_digits digits nonempty] at read
    exact ⟨nonempty, digits, (Option.some.inj read).symm⟩
  · rintro ⟨nonempty, digits, rfl⟩
    exact Number.natural?_digits digits nonempty

/-- A text is read as an integer if it spells this integer, by cases of the sign in front of it. -/
theorem signed?_eq_some_iff {text : List Char} {value : Int}
    : Number.signed? text = some value ↔ SpellsInteger text value := by
  refine ⟨fun read => ?_, signed?_spelled⟩
  unfold Number.signed? at read
  split at read
  all_goals
    obtain ⟨magnitude, isRead, rfl⟩ := Option.map_eq_some_iff.mp read
    have spelled := natural?_eq_some_iff.mp isRead
  · exact .plus spelled
  · exact .minus spelled
  · exact .unsigned spelled

/-- An integer with leading zeros, and with a plus sign or none if it is not negative. -/
inductive PadsInteger : List Char → Int → Prop
  | unsigned (zeros value : Nat)
    : PadsInteger (List.replicate zeros '0' ++ Number.natural value) value
  | plus (zeros value : Nat)
    : PadsInteger ('+' :: List.replicate zeros '0' ++ Number.natural value) value
  | minus (zeros value : Nat)
    : PadsInteger ('-' :: List.replicate zeros '0' ++ Number.natural value) (-value)

/-- The digits of a number spell it, and so they do behind zeros. -/
theorem padded_spelled (zeros value : Nat)
    : SpellsNatural (List.replicate zeros '0' ++ Number.natural value) value := by
  have digits : ∀ c ∈ List.replicate zeros '0' ++ Number.natural value, c.isDigit := by
    intro c member
    rcases List.mem_append.mp member with isZero | isDigit
    · rw [List.eq_of_mem_replicate isZero]
      rfl
    · exact Number.isDigit_of_mem_natural isDigit
  have nonempty : List.replicate zeros '0' ++ Number.natural value ≠ [] := by
    rw [Number.natural, Number.toDigits]
    split <;> simp
  refine ⟨nonempty, digits, ?_⟩
  have back : Number.digitOf ∘ Number.digitChar = id := funext (by decide)
  rw [← Number.ofDigits_map_digitOf digits, List.map_append, List.map_replicate,
    Number.ofDigits_zeros, Number.natural, List.map_map, back, List.map_id,
    Number.ofDigits_toDigits]

theorem PadsInteger.spelled {text : List Char} {value : Int} (padded : PadsInteger text value)
    : SpellsInteger text value := by
  cases padded with
  | unsigned zeros value => exact .unsigned (padded_spelled zeros value)
  | plus zeros value => exact .plus (padded_spelled zeros value)
  | minus zeros value => exact .minus (padded_spelled zeros value)

-----------------------------------------------------------------------
-- Strings
-----------------------------------------------------------------------

/-- A text is what trimming leaves of it, with blanks around. -/
theorem exists_trimmed (text : List Char)
    : ∃ left right, text = left ++ Text.trim text ++ right ∧ IsBlank left ∧ IsBlank right := by
  obtain ⟨right, whole, rightBlank⟩ := Text.dropTrailing_dropped Text.isBlank (Text.trimStart text)
  refine ⟨text.takeWhile Text.isBlank, right, ?_, ?_, rightBlank⟩
  · calc text
      _ = text.takeWhile Text.isBlank ++ Text.trimStart text :=
        List.takeWhile_append_dropWhile.symm
      _ = text.takeWhile Text.isBlank ++ (Text.trim text ++ right) :=
        congrArg (text.takeWhile Text.isBlank ++ ·) whole
      _ = text.takeWhile Text.isBlank ++ Text.trim text ++ right :=
        (List.append_assoc _ _ _).symm
  · exact fun c member => List.mem_takeWhile_imp member

/-- A string that spells no cursor value is refused as it stands there. -/
theorem textInteger_refused {content : String}
    (unspelled : ∀ value, ¬SpellsCursorValue (.string content) value)
    : textInteger content = .error (.notInteger content) := by
  obtain ⟨left, right, whole, leftBlank, rightBlank⟩ := exists_trimmed content.toList
  have isContent : content = String.ofList (left ++ Text.trim content.toList ++ right) := by
    rw [← whole, String.ofList_toList]
  rw [textInteger]
  cases trimmed : Text.trim content.toList with
  | nil =>
      rw [trimmed, List.append_nil] at isContent
      refine absurd ?_ (unspelled 0)
      rw [isContent]
      exact .blank fun c member => (List.mem_append.mp member).elim (leftBlank c) (rightBlank c)
  | cons first rest =>
      rw [trimmed] at isContent
      cases read : (Number.signed? (first :: rest)).bind Number.int64? with
      | none => simp only [read]
      | some word =>
          obtain ⟨value, isSigned, isWord⟩ := Option.bind_eq_some_iff.mp read
          obtain rfl := int64?_eq_some_iff.mp isWord
          have bounds : IsWord word.toInt := ⟨word.minValue_le_toInt, word.toInt_le⟩
          refine absurd ?_ (unspelled word.toInt)
          rw [isContent]
          exact .text leftBlank rightBlank (signed?_eq_some_iff.mp isSigned) bounds

-----------------------------------------------------------------------
-- Refusals
-----------------------------------------------------------------------

theorem CursorField.name_injective {field other : CursorField} (same : field.name = other.name)
    : field = other := by
  cases field <;> cases other <;> first | rfl | exact absurd same (by decide)

/-- Where the first of two parts is sound, the second one is it or has a given fault. -/
def Spoils {α : Type} (fault : Fault) (part other : Checked α) : Prop :=
  ∀ value, part = .sound value
    → other = .sound value ∨ ∃ position, other = .flawed ⟨position, fault⟩

namespace Spoils

variable {α β : Type} {fault : Fault}

theorem map (f : α → β) {part other : Checked α} (spoils : Spoils fault part other)
    : Spoils fault (f <$> part) (f <$> other) := by
  intro value sound
  obtain ⟨inner, isInner, rfl⟩ := Checked.map_eq_sound.mp sound
  rcases spoils inner isInner with rfl | ⟨position, rfl⟩
  · exact .inl rfl
  · exact .inr ⟨position, rfl⟩

/-- Two parts that may both be spoiled: the fault is the same, whichever comes first. -/
theorem seq {left leftOther : Checked (α → β)} {right rightOther : Checked α}
    (spoilsLeft : Spoils fault left leftOther) (spoilsRight : Spoils fault right rightOther)
    : Spoils fault (left <*> right) (leftOther <*> rightOther) := by
  intro value sound
  obtain ⟨f, inner, isLeft, isRight, rfl⟩ := Checked.seq_eq_sound.mp sound
  rcases spoilsLeft f isLeft with rfl | ⟨first, rfl⟩
  · rcases spoilsRight inner isRight with rfl | ⟨second, rfl⟩
    · exact .inl rfl
    · exact .inr ⟨second, rfl⟩
  · rcases spoilsRight inner isRight with rfl | ⟨second, rfl⟩
    · exact .inr ⟨first, rfl⟩
    · right
      by_cases order : second < first
      · exact ⟨second, congrArg Checked.flawed (if_pos order)⟩
      · exact ⟨first, congrArg Checked.flawed (if_neg order)⟩

theorem orElse {slot other : Slot} {absent : α} {read : Reader α}
    (same : other.content = slot.content)
    : Spoils fault (slot.orElse absent read) (other.orElse absent read) :=
  fun _ sound => .inl (Slot.orElse_congr same sound)

end Spoils

/-- A batch is spoiled by a fault in one of its cursor fields. -/
theorem batch_spoiled {field : CursorField} {slot other : String → Slot} {fault : Fault}
    (same : ∀ name, name ≠ field.name → (other name).content = (slot name).content)
    (here : Spoils fault ((slot field.name).orElse 0 lenientInteger)
      ((other field.name).orElse 0 lenientInteger))
    : ∃ fields, Output.Batch.decode = record Output.Batch.fieldNames fields
        ∧ Spoils fault (fields slot) (fields other) := by
  have cursor (each : CursorField)
      : Spoils fault ((slot each.name).orElse 0 lenientInteger)
          ((other each.name).orElse 0 lenientInteger) := by
    by_cases isField : each = field
    · rw [isField]
      exact here
    · exact .orElse (same _ fun sameName => isField (CursorField.name_injective sameName))
  have differs (name : String) (noCursor : ∀ each : CursorField, name ≠ each.name)
      : (other name).content = (slot name).content :=
    same name (noCursor field)
  refine ⟨_, rfl, ?_⟩
  refine .seq (.seq (.seq (.seq (.seq ?front (cursor .lastModified)) (cursor .execDuration))
    ?percentLoaded) (cursor .totalSize)) ?entries
  case front =>
    refine .seq (.seq (.seq (.seq (.seq (.seq (.seq (.seq (.seq (.map _ ?id) ?message) ?error)
      ?unmodified) ?empty) (cursor .offset)) ?completed) ?execCompleted) ?hasFailedNodes) ?execState
    all_goals exact .orElse (differs _ fun each => by cases each <;> decide)
  all_goals exact .orElse (differs _ fun each => by cases each <;> decide)

/-- A batch that is read with null in a cursor field has the fault of what is refused there. -/
theorem decode_refused {field : CursorField} {around : Json → Json}
    (surrounds : field.Surrounds around) {rest : Output.Batch} {json : Json} {fault : Fault}
    (decoded : Output.Batch.decode (around .null) = .ok rest)
    (refused : lenientInteger json = .error fault)
    : Output.Batch.decode (around json) = .error fault := by
  obtain ⟨layout, isRecord, noFlaw, reads⟩ := decode_batch_iff.mp decoded
  obtain ⟨here, isRecordHere, noFlawHere, held, same⟩ := surrounds.layout isRecord noFlaw json
  have spoiled : Spoils fault ((layout.slot field.name).orElse 0 lenientInteger)
      ((here.slot field.name).orElse 0 lenientInteger) := by
    intro value sound
    right
    refine ⟨(here.slot field.name).position, ?_⟩
    rw [Slot.orElse, held]
    simp only [Slot.present, refused]
  obtain ⟨fields, isDecode, spoils⟩ := batch_spoiled same spoiled
  have answer : Output.Batch.decode (around json) = (fields here.slot).toExcept := by
    simp only [isDecode, record, isRecordHere, noFlawHere, Checked.under]
  have sound : fields layout.slot = .sound rest := by
    simp only [isDecode, record, isRecord] at decoded
    exact (Checked.toExcept_under_eq_ok.mp decoded).1
  rcases spoils rest sound with isSound | ⟨position, isFlawed⟩
  · rw [isSound] at answer
    obtain ⟨word, isRead, -⟩ := (decode_cursor_field surrounds decoded).mp answer
    rw [refused] at isRead
    cases isRead
  · rw [answer, isFlawed]
    rfl

-----------------------------------------------------------------------
-- Strings in cursor fields
-----------------------------------------------------------------------

/-- An answer is the batch that is read with null in a cursor field, with a word put there. -/
def CursorField.Takes (field : CursorField) (around : Json → Json)
    (answer : Except Fault Output.Batch) (word : Int64) : Prop :=
  ∀ batch, answer = .ok batch
    ↔ ∃ rest, Output.Batch.decode (around .null) = .ok rest ∧ batch = field.put rest word

/-- What is made of a string in a cursor field. If it spells a value, it is taken as this value; so
it is if it is an integer of 64 bits in decimal with zeros, a sign and blanks added. Otherwise the
batch is refused, and the report names the string as it stands there, unless it names what is wrong
elsewhere.
-/
structure TextLaw (field : CursorField) (around : Json → Json) (content : String)
    (answer : Except Fault Output.Batch) : Prop where
  spelled : ∀ word : Int64, SpellsCursorValue (.string content) word.toInt
    → field.Takes around answer word
  padded : ∀ (word : Int64) (left core right : List Char),
    IsBlank left → IsBlank right → PadsInteger core word.toInt
    → content = String.ofList (left ++ core ++ right)
    → field.Takes around answer word
  refused : (∀ value, ¬SpellsCursorValue (.string content) value) → ∀ batch, answer ≠ .ok batch
  reported : (∀ value, ¬SpellsCursorValue (.string content) value)
    → ∀ rest, Output.Batch.decode (around .null) = .ok rest
    → ∃ fault, answer = .error fault ∧ fault.message? = some ("invalid integer: " ++ content)

/-- A value that is read as a word is taken as this word. -/
theorem CursorField.Surrounds.takes {field : CursorField} {around : Json → Json}
    (surrounds : field.Surrounds around) {json : Json} {word : Int64}
    (read : lenientInteger json = .ok word)
    : field.Takes around (Output.Batch.decode (around json)) word := by
  intro batch
  constructor
  · intro decoded
    have bare := surrounds.decode_put decoded (show lenientInteger .null = .ok 0 from rfl)
    obtain ⟨other, isRead, isPut⟩ := (decode_cursor_field surrounds bare).mp decoded
    rw [read] at isRead
    obtain rfl := Except.ok.inj isRead
    exact ⟨_, bare, isPut⟩
  · rintro ⟨rest, decoded, rfl⟩
    exact surrounds.decode_put decoded read

/-- A string in a cursor field of a batch is read by its grammar, and the literal of an integer of
64 bits as this integer.
-/
theorem cursor_text_decoded {field : CursorField} {around : Json → Json}
    (surrounds : field.Surrounds around)
    : (∀ content text, Json.IsTextOf text (around (.string content))
        → TextLaw field around content (document Output.Batch.decode (Json.read (text.map some))))
      ∧ ∀ (word : Int64) (text : List Char), Json.IsTextOf text (around (.ofInt word.toInt))
        → field.Takes around (document Output.Batch.decode (Json.read (text.map some))) word := by
  constructor
  · intro content text isText
    rw [document_text isText]
    have spelled (word : Int64) (spells : SpellsCursorValue (.string content) word.toInt)
        : field.Takes around (Output.Batch.decode (around (.string content))) word := by
      obtain ⟨read, isRead, same⟩ := lenientInteger_spelled spells
      obtain rfl := Int64.toInt_inj.mp same
      exact surrounds.takes isRead
    refine ⟨spelled, ?padded, ?refused, ?reported⟩
    case padded =>
      intro word left core right leftBlank rightBlank pads isContent
      apply spelled
      rw [isContent]
      exact .text leftBlank rightBlank pads.spelled ⟨word.minValue_le_toInt, word.toInt_le⟩
    case refused =>
      intro unspelled batch decoded
      have bare := surrounds.decode_put decoded (show lenientInteger .null = .ok 0 from rfl)
      obtain ⟨word, isRead, -⟩ := (decode_cursor_field surrounds bare).mp decoded
      rw [lenientInteger, textInteger_refused unspelled] at isRead
      cases isRead
    case reported =>
      intro unspelled rest decoded
      exact ⟨.notInteger content, decode_refused surrounds decoded (textInteger_refused unspelled),
        rfl⟩
  · intro word text isText
    rw [document_text isText]
    exact surrounds.takes (lenientInteger_sent word)

/-- The least word with zeros, between a no-break space and a space, is taken, and the number behind
the greatest one is refused with the space before it.
-/
theorem least_word_is_taken
    : document Output.Batch.decode (Json.read
          ("\x7b\"totalSize\":\"\u00a0-0009223372036854775808 \"\x7d".toList.map some))
        = .ok (CursorField.totalSize.put blankBatch Int64.minValue)
      ∧ ∃ fault,
        document Output.Batch.decode (Json.read
            ("\x7b\"totalSize\":\" 9223372036854775808\"\x7d".toList.map some))
          = .error fault
        ∧ fault.message? = some "invalid integer:  9223372036854775808" := by
  have surrounds : CursorField.totalSize.Surrounds
      fun json => .object ([] ++ (some "totalSize", json) :: []) true := .object [] []
  have bare : Output.Batch.decode (.object [(some "totalSize", .null)] true) = .ok blankBatch := by
    decide
  have written {content : String} {text : List Char}
      (isText : (Json.record [("totalSize", .string content)]).text = text)
      : Json.IsTextOf text (.object ([] ++ (some "totalSize", .string content) :: []) true) := by
    rw [← isText]
    exact Json.isTextOf_text
      (Json.isComplete_record (List.forall_mem_singleton.mpr (.string content)))
  obtain ⟨texts, -⟩ := cursor_text_decoded surrounds
  constructor
  · have law := texts "\u00a0-0009223372036854775808 "
      "\x7b\"totalSize\":\"\u00a0-0009223372036854775808 \"\x7d".toList
      (written (by decide +kernel))
    have blank (c : Char) (isBlank : Text.isBlank c) : IsBlank [c] :=
      List.forall_mem_singleton.mpr isBlank
    have taken := law.padded Int64.minValue ['\u00a0'] _ [' '] (blank _ (by decide))
      (blank _ (by decide)) (.minus 3 9223372036854775808) (by decide +kernel)
    exact (taken _).mpr ⟨blankBatch, bare, rfl⟩
  · have law := texts " 9223372036854775808"
      "\x7b\"totalSize\":\" 9223372036854775808\"\x7d".toList (written (by decide +kernel))
    have unspelled (value : Int) : ¬SpellsCursorValue (.string " 9223372036854775808") value := by
      intro spelled
      obtain ⟨word, read, -⟩ := lenientInteger_spelled spelled
      have refused : (lenientInteger (.string " 9223372036854775808")).toOption = none := by
        decide +kernel
      rw [read] at refused
      cases refused
    exact law.reported unspelled blankBatch bare

end JobWatch.Wire
