import JobWatch.Json.Writer
import JobWatch.Proofs.Json.Reading
import JobWatch.Proofs.Number.Decimal

/-! What is written for a value is a text of it in the grammar, and is therefore read as the value.
Only what a document left out or garbled is written as something else.
-/

namespace JobWatch.Json

-----------------------------------------------------------------------
-- Strings
-----------------------------------------------------------------------

/-- A character is written as a UTF-16 unit if it is a control character without a letter. -/
def IsUnit (c : Char) : Prop :=
  escapeLetter? c = none ∧ c.toNat < 0x20

instance (c : Char) : Decidable (IsUnit c) :=
  inferInstanceAs (Decidable (_ ∧ _))

/-- A character as a piece of a string that is written. -/
def pieceOf (c : Char) : Piece :=
  if IsUnit c then .unit c.toNat else .char c

/-- A letter that is written behind a backslash stands for the character. -/
theorem spellsEscape_letter {c letter : Char} (written : escapeLetter? c = some letter)
    : SpellsEscape letter c := by
  unfold escapeLetter? at written
  split at written <;> cases written <;> constructor

/-- A hexadecimal digit is written in lower case. -/
theorem spellsHex_hexDigit {value : Nat} (small : value < 16)
    : SpellsHex (hexDigit value) value := by
  have decimal : ∀ digit : Fin 10, '0' ≤ hexDigit digit ∧ hexDigit digit ≤ '9'
      ∧ (hexDigit digit).toNat - 48 = digit := by decide
  have letter : ∀ digit : Fin 6, 'a' ≤ hexDigit (digit + 10) ∧ hexDigit (digit + 10) ≤ 'f'
      ∧ (hexDigit (digit + 10)).toNat - 87 = digit + 10 := by decide
  by_cases low : value < 10
  · obtain ⟨above, below, same⟩ := decimal ⟨value, low⟩
    have spelled := SpellsHex.decimal above below
    rwa [same] at spelled
  · obtain ⟨rest, rfl⟩ := Nat.exists_eq_add_of_le' (Nat.le_of_not_lt low)
    obtain ⟨above, below, same⟩ := letter ⟨rest, by omega⟩
    have spelled := SpellsHex.lower above below
    rwa [same] at spelled

/-- What is written for a character spells its piece, by the three ways to write it. -/
theorem spellsPieces_escape (c : Char) {text : List Char} {pieces : List Piece}
    (rest : SpellsPieces text pieces)
    : SpellsPieces (escape c ++ text) (pieceOf c :: pieces) := by
  cases written : escapeLetter? c with
  | some letter =>
      have noUnit : ¬IsUnit c := by simp [IsUnit, written]
      rw [escape, written, pieceOf, if_neg noUnit]
      exact .escape (spellsEscape_letter written) rest
  | none =>
      by_cases control : c.toNat < 0x20
      · have zero : SpellsHex '0' 0 := .decimal (by decide) (by decide)
        have high : SpellsHex (hexDigit (c.toNat / 16)) (c.toNat / 16) :=
          spellsHex_hexDigit (by omega)
        have low : SpellsHex (hexDigit (c.toNat % 16)) (c.toNat % 16) :=
          spellsHex_hexDigit (by omega)
        have spelled := SpellsPieces.unit zero zero high low rest
        have code : ((0 * 16 + 0) * 16 + c.toNat / 16) * 16 + c.toNat % 16 = c.toNat := by omega
        rw [code] at spelled
        have isUnit : IsUnit c := ⟨written, control⟩
        rw [escape, written, pieceOf, if_pos isUnit]
        simp only [if_pos control]
        exact spelled
      · have noUnit : ¬IsUnit c := fun isUnit => control isUnit.2
        have noQuote : c ≠ '"' := by
          rintro rfl
          cases written
        have noBackslash : c ≠ '\\' := by
          rintro rfl
          cases written
        rw [escape, written, pieceOf, if_neg noUnit]
        simp only [if_neg control]
        exact .literal noQuote noBackslash (Nat.le_of_not_lt control) rest

/-- A written text spells the pieces of its characters, by induction on it. -/
theorem spellsPieces_flatMap (text : List Char)
    : SpellsPieces (text.flatMap escape) (text.map pieceOf) := by
  induction text with
  | nil => exact .nil
  | cons c rest ih => exact spellsPieces_escape c ih

/-- The pieces of characters make up the text: no control character is half of a surrogate pair. -/
theorem textOf?_map_pieceOf (text : List Char) : textOf? (text.map pieceOf) = some text := by
  induction text with
  | nil => rfl
  | cons c rest ih =>
      rw [List.map_cons, pieceOf]
      split
      · rename_i isUnit
        have control : c.toNat < 0x20 := isUnit.2
        have notHigh : Text.Utf16.isHigh c.toNat = false := by
          simp [Text.Utf16.isHigh]
          omega
        have notLow : Text.Utf16.isLow c.toNat = false := by
          simp [Text.Utf16.isLow]
          omega
        rw [TextScan.textOf?_unit notHigh, notLow, ih, Char.ofNat_toNat]
        rfl
      · rw [textOf?, ih, Option.map_some]

/-- A written string spells the string. -/
theorem spells_quote (text : String) : Spells (quote text) (.value (.string text)) := by
  have spelled := Spells.string (spellsPieces_flatMap text.toList)
  rwa [stringOf?, textOf?_map_pieceOf, Option.map_some, String.ofList_toList] at spelled

-----------------------------------------------------------------------
-- Numbers
-----------------------------------------------------------------------

/-- The digits of a number begin with zero only if it is zero, by the recursion that takes the last
digit off.
-/
theorem isWhole_toDigits (value : Nat) : IsWhole (Number.toDigits value) := by
  have positive (value : Nat) (some : 0 < value)
      : ∃ first rest, Number.toDigits value = first :: rest ∧ 0 < first.val := by
    induction value using Nat.strongRecOn with
    | ind value ih =>
        rw [Number.toDigits]
        split
        · refine ⟨_, [], rfl, ?_⟩
          simp
          omega
        · obtain ⟨first, rest, digits, notZero⟩ := ih (value / 10) (by omega) (by omega)
          exact ⟨first, rest ++ [Fin.ofNat 10 value], by rw [digits, List.cons_append], notZero⟩
  rcases Nat.eq_zero_or_pos value with rfl | some
  · rw [Number.toDigits]
    exact trivial
  · obtain ⟨first, rest, digits, notZero⟩ := positive value some
    rw [digits]
    cases rest with
    | nil => exact trivial
    | cons second rest => exact notZero

/-- The digits of a number, told by the first one. -/
theorem exists_toDigits (value : Nat) : ∃ first rest, Number.toDigits value = first :: rest := by
  have isWhole := isWhole_toDigits value
  cases digits : Number.toDigits value with
  | nil =>
      rw [digits] at isWhole
      exact isWhole.elim
  | cons first rest => exact ⟨first, rest, rfl⟩

/-- A written exponent spells the exponent. Only a negative one has a sign. -/
theorem spellsExponent_signed (exponent : Int)
    : SpellsExponent ('e' :: Number.signed exponent) (some exponent) := by
  cases exponent with
  | ofNat size =>
      obtain ⟨first, rest, digits⟩ := exists_toDigits size
      have spelled := @SpellsExponent.unsigned 'e' first rest (.inl rfl)
      rw [← digits, Number.ofDigits_toDigits] at spelled
      exact spelled
  | negSucc size =>
      obtain ⟨first, rest, digits⟩ := exists_toDigits (size + 1)
      have spelled := @SpellsExponent.minus 'e' first rest (.inl rfl)
      rw [← digits, Number.ofDigits_toDigits] at spelled
      exact spelled

/-- A written number spells the number, if its whole digits may stand so. -/
theorem spellsNumeral_text {numeral : Numeral} (isWhole : IsWhole numeral.whole)
    : SpellsNumeral numeral.text numeral := by
  cases exponent : numeral.exponent with
  | none =>
      refine ⟨isWhole, [], exponent ▸ .absent, ?_⟩
      rw [Numeral.text, exponent]
      rfl
  | some size =>
      refine ⟨isWhole, _, exponent ▸ spellsExponent_signed size, ?_⟩
      rw [Numeral.text, exponent]
      rfl

-----------------------------------------------------------------------
-- Values
-----------------------------------------------------------------------

/-- A value that a document can spell: nothing of it is left out or garbled. -/
inductive IsComplete : Json → Prop
  | null : IsComplete .null
  | bool (value : Bool) : IsComplete (.bool value)
  | number {numeral} (isWhole : IsWhole numeral.whole) : IsComplete (.number numeral)
  | string (text : String) : IsComplete (.string text)
  | array {items} (complete : ∀ item ∈ items, IsComplete item) : IsComplete (.array items true)
  | object {members : List (Option String × Json)} (named : ∀ member ∈ members, member.1.isSome)
    (complete : ∀ member ∈ members, IsComplete member.2)
    : IsComplete (.object members true)

theorem itemTexts_eq (items : List Json) : itemTexts items = items.map text := by
  induction items with
  | nil => rw [itemTexts, List.map_nil]
  | cons item items ih => rw [itemTexts, ih, List.map_cons]

/-- The text of a member. -/
def memberText (member : Option String × Json) : List Char :=
  quote (member.1.getD "") ++ ':' :: member.2.text

theorem memberTexts_eq (members : List (Option String × Json))
    : memberTexts members = members.map memberText := by
  induction members with
  | nil => rw [memberTexts, List.map_nil]
  | cons member members ih => rw [memberTexts, ih, List.map_cons, memberText]

/-- Joined texts spell a list of parts if each of them spells the list of its part alone, and, with
a comma behind it, the list with its part in front. Witness: induction on the list.
-/
theorem spells_joined {α : Type} {spell : α → List Char} {all : List α → Part} {parts : List α}
    (nonempty : parts ≠ []) (last : ∀ part ∈ parts, Spells (spell part) (all [part]))
    (more : ∀ part ∈ parts, ∀ text others,
      Spells text (all others) → Spells (spell part ++ ',' :: text) (all (part :: others)))
    : Spells (joined (parts.map spell)) (all parts) := by
  induction parts with
  | nil => exact absurd rfl nonempty
  | cons part rest ih =>
      cases rest with
      | nil => simpa [joined] using last part List.mem_cons_self
      | cons next rest =>
          have others := ih (List.cons_ne_nil _ _)
            (fun part member => last part (List.mem_cons_of_mem _ member))
            (fun part member => more part (List.mem_cons_of_mem _ member))
          simpa [joined] using more part List.mem_cons_self _ _ others

/-- Joined texts of values spell these items. -/
theorem spells_items {items : List Json} (nonempty : items ≠ [])
    (spelled : ∀ item ∈ items, Spells item.text (.value item))
    : Spells (joined (items.map text)) (.items items) := by
  refine spells_joined nonempty (fun item member => ?_) fun item member text others rest => ?_
  · simpa using Spells.lastItem isBlankText_nil isBlankText_nil (spelled item member)
  · simpa using Spells.moreItems isBlankText_nil isBlankText_nil (spelled item member) rest

/-- Joined texts of members spell these members. -/
theorem spells_members {members : List (Option String × Json)} (nonempty : members ≠ [])
    (spelled : ∀ member ∈ members, Spells (memberText member) (.member member))
    : Spells (joined (members.map memberText)) (.members members) := by
  refine spells_joined nonempty (fun member isMember => ?_)
    fun member isMember text others rest => ?_
  · simpa using Spells.lastMember isBlankText_nil isBlankText_nil (spelled member isMember)
  · simpa using Spells.moreMembers isBlankText_nil isBlankText_nil (spelled member isMember) rest

/-- The text of a named member spells the member, if that of its value spells the value. -/
theorem spells_memberText {member : Option String × Json} (named : member.1.isSome)
    (spelled : Spells member.2.text (.value member.2))
    : Spells (memberText member) (.member member) := by
  obtain ⟨key, value⟩ := member
  obtain ⟨name, rfl⟩ := Option.isSome_iff_exists.mp named
  have whole := Spells.member (spellsPieces_flatMap name.toList) isBlankText_nil isBlankText_nil
    spelled
  rw [stringOf?, textOf?_map_pieceOf, Option.map_some, String.ofList_toList] at whole
  simpa [memberText, quote] using whole

/-- The text of a complete value spells it, by induction on the value. -/
theorem spells_text {value : Json} (complete : value.IsComplete)
    : Spells value.text (.value value) := by
  induction complete with
  | null => exact .null
  | bool value => cases value <;> rw [text] <;> constructor
  | number isWhole => exact .number (spellsNumeral_text isWhole)
  | string text => exact spells_quote text
  | @array items complete ih =>
      rw [text, itemTexts_eq]
      by_cases empty : items = []
      · subst empty
        exact .emptyArray isBlankText_nil
      · exact .array (spells_items empty ih)
  | @object members named complete ih =>
      rw [text, memberTexts_eq]
      by_cases empty : members = []
      · subst empty
        exact .emptyObject isBlankText_nil
      · exact .object (spells_members empty fun member isMember =>
          spells_memberText (named member isMember) (ih member isMember))

/-- What is written for a complete value is a text of this value. -/
theorem isTextOf_text {value : Json} (complete : value.IsComplete) : IsTextOf value.text value :=
  ⟨[], value.text, [], isBlankText_nil, spells_text complete, isBlankText_nil, by simp⟩

/-- What is written for a complete value is read as this value, and nothing is left behind it. -/
theorem ofText_render {value : Json} (complete : value.IsComplete)
    : ofText value.render = ⟨value, false⟩ := by
  rw [ofText, render, String.toList_ofList]
  exact read_text (isTextOf_text complete)

-----------------------------------------------------------------------
-- What is written for records
-----------------------------------------------------------------------

/-- An integer is a complete value. -/
theorem isComplete_ofInt (value : Int) : (ofInt value).IsComplete := by
  cases value with
  | ofNat value => exact .number (isWhole_toDigits value)
  | negSucc value => exact .number (isWhole_toDigits (value + 1))

/-- A value that may be absent is complete if it is whenever it is there. -/
theorem isComplete_orNull {α : Type} {encode : α → Json}
    (complete : ∀ value, (encode value).IsComplete) (value : Option α)
    : (orNull (value.map encode)).IsComplete := by
  cases value with
  | none => exact .null
  | some value => exact complete value

/-- A list of complete values is a complete value. -/
theorem isComplete_list {α : Type} {encode : α → Json}
    (complete : ∀ value, (encode value).IsComplete) (values : List α)
    : (array (values.map encode) true).IsComplete := by
  refine .array fun item isItem => ?_
  obtain ⟨value, -, rfl⟩ := List.mem_map.mp isItem
  exact complete value

/-- A record of complete values is a complete value. -/
theorem isComplete_record {members : List (String × Json)}
    (complete : ∀ member ∈ members, member.2.IsComplete)
    : (record members).IsComplete := by
  refine .object ?_ ?_ <;> intro member isMember <;>
    obtain ⟨named, isNamed, rfl⟩ := List.mem_map.mp isMember
  · rfl
  · exact complete named isNamed

end JobWatch.Json
