import JobWatch.CommandLine.Details
import JobWatch.CommandLine.Invocation
import JobWatch.Proofs.CommandLine.Revaluing
import JobWatch.Proofs.Wire.CursorTexts

/-! The command that lists, from another offset on: whatever stands in its line, the line with the
other offset is accepted and differs in nothing else.
-/

namespace JobWatch.CommandLine

variable {switch : Switch} {text : String}

-----------------------------------------------------------------------
-- Commands
-----------------------------------------------------------------------

namespace MenuItem

variable {items : List MenuItem} {name : String} {words : List String} {command later : Command}

/-- The command that is chosen is read by the item of its name. -/
theorem item_of_choose (chosen : choose items words = .ok command)
    : ∃ item behind,
        words = item.name :: behind ∧ item ∈ items ∧ item.name ≠ "help"
        ∧ items.find? (·.name == item.name) = some item ∧ item.read behind = .ok command := by
  cases words with
  | nil => cases chosen
  | cons name behind =>
      rw [choose] at chosen
      split at chosen
      case isTrue => cases chosen
      case isFalse noHelp =>
        split at chosen
        case h_2 => cases chosen
        case h_1 item found =>
          have holds := List.find?_some found
          obtain rfl : item.name = name := eq_of_beq holds
          exact ⟨item, behind, rfl, List.mem_of_find?_eq_some found, noHelp, found, chosen⟩

/-- Behind the name of an item, another value leads to what the item reads with it. -/
theorem choose_withValue {item : MenuItem} (noHelp : item.name ≠ "help")
    (found : items.find? (·.name == item.name) = some item) (shape : Shape.of item.name = .plain)
    (read : item.read (switch.withValue text words) = .ok later)
    : choose items (switch.withValue text (item.name :: words)) = .ok later := by
  rw [Switch.withValue_other (by simp [shape]) (by simp [shape]), choose, if_neg noHelp, found]
  exact read

/-- In a group it leads to what is chosen with it. -/
theorem group_withValue (other : switch.name ≠ "help")
    (read : (group name items).read words = .ok command)
    (chooses : ∀ behind, choose items behind = .ok command
      → choose items (switch.withValue text behind) = .ok later)
    : (group name items).read (switch.withValue text words) = .ok later := by
  have unlisted : [Switch.help].find? (·.name == switch.name) = none := by
    simpa [Switch.help] using Ne.symm other
  simp only [group, bind, Except.bind, scan] at read ⊢
  cases scanned : scanFrom [] true [] none words with
  | error refusal => rw [scanned] at read; cases read
  | ok found =>
      obtain ⟨given, rest⟩ := found
      rw [scanned] at read
      have nonempty : rest ≠ [] := by
        rintro rfl
        cases read
      rw [scanFrom_in_front unlisted nonempty scanned]
      exact chooses rest read

end MenuItem

-----------------------------------------------------------------------
-- Offsets in words
-----------------------------------------------------------------------

/-- A number without sign is no option. -/
theorem of_integerText (value : Nat) : Shape.of (integerText value) = .plain := by
  refine Shape.of_other fun minus => ?_
  rw [integerText, String.toList_ofList] at minus
  exact Number.minus_not_mem value (List.mem_of_head? minus)

/-- A number that a word holds is read back from its text. -/
theorem number?_integerText (word : UInt32) : number? (integerText word.toNat) = some word := by
  have spelled : Wire.SpellsInteger (Number.signed word.toNat) word.toNat :=
    (Wire.PadsInteger.unsigned 0 word.toNat).spelled
  have small := word.toNat_lt_size
  rw [number?, integerText, String.toList_ofList, Wire.signed?_spelled spelled, Option.bind_some,
    Number.uint32?, if_pos ⟨Int.natCast_nonneg _, by omega⟩, Int.toNat_natCast, UInt32.ofNat_toNat]

-----------------------------------------------------------------------
-- Offsets of a list
-----------------------------------------------------------------------

/-- The option for the offset of a list. -/
def offsetSwitch : Switch :=
  ⟨"offset", none, some .number⟩

theorem offsetSwitch_isLong : offsetSwitch.IsLong listSwitches where
  listed := by decide
  valued := rfl
  letterless := by decide
  named := rfl
  undivided := by decide

variable {project : String} {max offset next : UInt32} {words : List String} {text : String}

/-- Other commands do not list. -/
theorem not_list_of_follow : readFollow words ≠ .ok (.list project max offset) := by
  intro read
  simp only [readFollow, bind, Except.bind] at read
  repeat' split at read
  all_goals cases read

theorem not_list_of_info : readInfo words ≠ .ok (.list project max offset) := by
  intro read
  simp only [readInfo, bind, Except.bind] at read
  repeat' split at read
  all_goals cases read

theorem not_list_of_export : readExport words ≠ .ok (.list project max offset) := by
  intro read
  simp only [readExport, bind, Except.bind] at read
  repeat' split at read
  all_goals cases read

theorem require_eq_ok {α : Type} {value : Option α} {last : α}
    : require value = .ok last ↔ value = some last := by
  cases value <;> simp [require]

theorem noWord_eq_ok {given : List Given} {done : Unit}
    : noWord given = .ok done ↔ Given.words given = [] := by
  simp [noWord]

/-- A list is read from what is given: no word, a project, the size of a page and an offset. -/
theorem readList_iff
    : readList words = .ok (.list project max offset)
      ↔ ∃ given rest,
          scan listSwitches false words = .ok (given, rest)
          ∧ Given.words given = []
          ∧ Given.value? given "project" = some project
          ∧ valueOr given "max" number? 20 = .ok max
          ∧ valueOr given "offset" number? 0 = .ok offset := by
  simp only [readList, bind, bind_eq_ok, Prod.exists, noWord_eq_ok, require_eq_ok]
  constructor
  · rintro ⟨given, rest, scanned, -, noWord, _, isProject, _, isMax, _, isOffset, same⟩
    cases same
    exact ⟨given, rest, scanned, noWord, isProject, isMax, isOffset⟩
  · rintro ⟨given, rest, scanned, noWord, isProject, isMax, isOffset⟩
    exact ⟨given, rest, scanned, (), noWord, project, isProject, max, isMax, offset, isOffset, rfl⟩

section OtherOffset

variable (plain : Shape.of text = .plain) (number : number? text = some next)

include plain number

/-- Another offset changes nothing else of a list. -/
theorem readList_withValue (read : readList words = .ok (.list project max offset))
    : readList (offsetSwitch.withValue text words) = .ok (.list project max next) := by
  obtain ⟨given, rest, scanned, noWord, isProject, isMax, -⟩ := readList_iff.mp read
  have accepted : offsetSwitch.accepts text := by
    simp [Switch.accepts, offsetSwitch, ValueKind.accepts, number]
  obtain ⟨later, rescanned, revalued⟩ :=
    rescans_of_scanFrom offsetSwitch_isLong plain accepted List.not_mem_nil
      (by intro _ member; cases member) scanned noWord
  have others {name : String} (other : name ≠ offsetSwitch.name)
      : Given.value? later name = Given.value? given name := by
    rw [revalued.value, if_neg other]
  have changed : Given.value? later "offset" = some text := by
    rw [revalued.value, if_pos (by rfl)]
  refine readList_iff.mpr ⟨later, rest, rescanned, revalued.words.trans noWord, ?_, ?_, ?_⟩
  · rw [others (by decide), isProject]
  · rw [valueOr, others (by decide)]
    exact isMax
  · rw [valueOr, changed]
    exact require_eq_ok.mpr number

/-- The command that lists is chosen again behind its menus: no other command lists. -/
theorem choose_menu_withValue (chosen : MenuItem.choose menu words = .ok (.list project max offset))
    : MenuItem.choose menu (offsetSwitch.withValue text words) = .ok (.list project max next) := by
  obtain ⟨item, behind, rfl, member, noHelp, found, read⟩ := MenuItem.item_of_choose chosen
  rcases List.mem_cons.mp member with rfl | member
  · refine MenuItem.choose_withValue noHelp found rfl (MenuItem.group_withValue (by decide) read ?_)
    intro behind chosen
    obtain ⟨item, behind, rfl, member, noHelp, found, read⟩ := MenuItem.item_of_choose chosen
    simp only [List.mem_cons, List.not_mem_nil, or_false] at member
    rcases member with rfl | rfl | rfl
    · exact absurd read not_list_of_follow
    · exact absurd read not_list_of_info
    · exact MenuItem.choose_withValue noHelp found rfl (readList_withValue plain number read)
  · obtain rfl := List.mem_singleton.mp member
    refine MenuItem.choose_withValue noHelp found rfl (MenuItem.group_withValue (by decide) read ?_)
    intro behind chosen
    obtain ⟨item, behind, rfl, member, noHelp, found, read⟩ := MenuItem.item_of_choose chosen
    obtain rfl := List.mem_singleton.mp member
    exact absurd read not_list_of_export

/-- A command line that lists is accepted with another offset, and asks for the same list with the
same settings.
-/
theorem Invocation.read_withValue {environment : Environment} {settings : Settings}
    (read : Invocation.read words environment = .ok ⟨settings, .list project max offset⟩)
    : Invocation.read (offsetSwitch.withValue text words) environment
      = .ok ⟨settings, .list project max next⟩ := by
  simp only [Invocation.read, bind, bind_eq_ok, Prod.exists] at read ⊢
  obtain ⟨given, rest, scanned, command, chosen, found, isSettings, same⟩ := read
  cases same
  have command : rest ≠ [] := by
    rintro rfl
    cases chosen
  have unlisted : (Switch.help :: settingsSwitches).find? (·.name == offsetSwitch.name) = none := by
    decide
  exact ⟨given, _, scanFrom_in_front unlisted command scanned, _,
    choose_menu_withValue plain number chosen, settings, isSettings, rfl⟩

end OtherOffset

end JobWatch.CommandLine
