import JobWatch.CommandLine.Scanner
import JobWatch.Proofs.Text.Cutting

/-! How the scanner goes on behind options: what it finds there depends on what it has seen only
where an option is given again.
-/

namespace JobWatch.CommandLine

/-- The options that are given. -/
def Given.names (given : List Given) : List String :=
  given.filterMap Given.name?

@[simp]
theorem Given.names_append (before behind : List Given)
    : names (before ++ behind) = names before ++ names behind :=
  List.filterMap_append

/-- The options that are found, the one that waits for its value included. -/
def Found.names (found : Found) : List String :=
  Given.names found.1 ++ found.2.toList.map Switch.name

-----------------------------------------------------------------------
-- Results in a row
-----------------------------------------------------------------------

/-- A result behind another one is there if both are. -/
theorem bind_eq_ok {α β : Type} {result : Except Refusal α} {next : α → Except Refusal β} {last : β}
    : result.bind next = .ok last ↔ ∃ value, result = .ok value ∧ next value = .ok last := by
  cases result with
  | error refusal => simp [Except.bind]
  | ok value => simp [Except.bind]

theorem map_eq_ok {α β : Type} {result : Except Refusal α} {turn : α → β} {last : β}
    : result.map turn = .ok last ↔ ∃ value, result = .ok value ∧ turn value = last := by
  cases result with
  | error refusal => simp [Except.map]
  | ok value => simp [Except.map]

-----------------------------------------------------------------------
-- Single options
-----------------------------------------------------------------------

/-- What an option gives that was not seen before, with its value if that is in the same word. -/
def Switch.given (switch : Switch) (value : Option String) : Except Refusal Found :=
  match value with
  | some text =>
    if switch.accepts text then .ok ([.value switch.name text], none) else .error .invalid
  | none =>
    if switch.kind?.isSome then .ok ([], some switch) else .ok ([.flag switch.name], none)

/-- The value behind a letter in the same word, with or without an equals sign. -/
def attached? : List Char → Option String
  | [] => none
  | '=' :: text | text => some (String.ofList text)

/-- What an option gives has its name. -/
theorem Switch.given_names {switch : Switch} {value : Option String} {found : Found}
    (isGiven : switch.given value = .ok found)
    : Found.names found = [switch.name] := by
  cases value with
  | some text =>
      rw [given] at isGiven
      split at isGiven
      · obtain rfl := Except.ok.inj isGiven
        rfl
      · cases isGiven
  | none =>
      rw [given] at isGiven
      split at isGiven
      · obtain rfl := Except.ok.inj isGiven
        rfl
      · obtain rfl := Except.ok.inj isGiven
        rfl

theorem findLong_unlisted {switches : List Switch} {name : String}
    (unlisted : switches.find? (·.name == name) = none) (seen : List String) (value : Option String)
    : findLong switches seen name value = .error .invalid := by
  unfold findLong
  rw [unlisted]

/-- A long option that is listed asks for help, was seen before, or gives something. -/
theorem findLong_listed {switches : List Switch} {switch : Switch} {name : String}
    (listed : switches.find? (·.name == name) = some switch) (seen : List String)
    (value : Option String)
    : findLong switches seen name value
      = if switch = .help ∧ value = none then .error .help
        else if seen.contains name then .error .invalid
        else switch.given value := by
  have holds := List.find?_some listed
  obtain rfl : switch.name = name := eq_of_beq holds
  unfold findLong
  rw [listed]
  cases value with
  | none => simp only [and_true, Switch.given]
  | some text => cases seen.contains switch.name <;> simp [Switch.given]

/-- A letter that is listed does so as well. An option without value leaves the letters behind it to
be found.
-/
theorem findLetters_listed {switches : List Switch} {switch : Switch} {letter : Char}
    (listed : switches.find? (·.letter == some letter) = some switch) (seen : List String)
    (rest : List Char)
    : findLetters switches seen (letter :: rest)
      = if switch = .help then .error .help
        else if seen.contains switch.name then .error .invalid
        else if switch.kind?.isSome then switch.given (attached? rest)
        else
          (findLetters switches (switch.name :: seen) rest).map fun (given, waiting) =>
            (.flag switch.name :: given, waiting) := by
  rw [findLetters, listed]
  dsimp only
  congr 2
  by_cases valued : switch.kind?.isSome
  · rw [if_pos valued, if_pos valued]
    unfold attached?
    split <;> simp [Switch.given, valued]
  · rw [if_neg valued, if_neg valued]

-----------------------------------------------------------------------
-- Options that are seen
-----------------------------------------------------------------------

/-- Two results for options that were seen and for more of them: what is given in the second case is
given in the first, and the other way round unless it was among the others.
-/
structure Keeps {α : Type} (names : α → List String) (seen more : List String)
    (result later : Except Refusal α) : Prop where
  sound : ∀ value, later = .ok value → result = .ok value
  complete : ∀ value, result = .ok value → (∀ name ∈ names value, name ∈ more → name ∈ seen)
    → later = .ok value

namespace Keeps

variable {α β : Type} {names : α → List String} {others : β → List String}
  {seen more : List String} {result later : Except Refusal α}

theorem refl (result : Except Refusal α) : Keeps names seen more result result :=
  ⟨fun _ same => same, fun _ same _ => same⟩

/-- An option that must not be seen. -/
theorem unseen (keeps : Keeps names seen more result later) {name : String} (subset : seen ⊆ more)
    (named : ∀ value, result = .ok value → name ∈ names value)
    : Keeps names seen more (if seen.contains name then .error .invalid else result)
        (if more.contains name then .error .invalid else later) := by
  by_cases inSeen : name ∈ seen
  · rw [if_pos (List.contains_iff_mem.mpr inSeen),
      if_pos (List.contains_iff_mem.mpr (subset inSeen))]
    exact refl _
  · rw [if_neg (by simpa using inSeen)]
    by_cases inMore : name ∈ more
    · rw [if_pos (List.contains_iff_mem.mpr inMore)]
      refine ⟨fun value same => (nomatch same), fun value same fresh => ?_⟩
      exact absurd (fresh name (named value same) inMore) inSeen
    · rw [if_neg (by simpa using inMore)]
      exact keeps

/-- Options that were seen in both cases make no difference. -/
theorem of_append (extra : List String)
    (keeps : Keeps names (extra ++ seen) (extra ++ more) result later)
    : Keeps names seen more result later := by
  refine ⟨keeps.sound, fun value same fresh => ?_⟩
  refine keeps.complete value same fun name named member => ?_
  exact List.mem_append.mpr ((List.mem_append.mp member).imp_right (fresh name named))

theorem bind (keeps : Keeps names seen more result later) {next after : α → Except Refusal β}
    (each : ∀ value, Keeps others seen more (next value) (after value))
    (subset : ∀ value last, next value = .ok last → names value ⊆ others last)
    : Keeps others seen more (result.bind next) (later.bind after) := by
  constructor
  · intro last same
    obtain ⟨value, isLater, behind⟩ := bind_eq_ok.mp same
    exact bind_eq_ok.mpr ⟨value, keeps.sound value isLater, (each value).sound last behind⟩
  · intro last same fresh
    obtain ⟨value, isResult, behind⟩ := bind_eq_ok.mp same
    have isLater := keeps.complete value isResult fun name named =>
      fresh name (subset value last behind named)
    exact bind_eq_ok.mpr ⟨value, isLater, (each value).complete last behind fresh⟩

theorem map (keeps : Keeps names seen more result later) (turn : α → β)
    (subset : ∀ value, names value ⊆ others (turn value))
    : Keeps others seen more (result.map turn) (later.map turn) := by
  have same (result : Except Refusal α) : result.map turn = result.bind (.ok ∘ turn) := by
    cases result <;> rfl
  rw [same, same]
  refine keeps.bind (fun value => refl _) fun value last isLast => ?_
  obtain rfl := Except.ok.inj isLast
  exact subset value

end Keeps

variable {switches : List Switch} {seen more : List String}

/-- What a long option gives has its name. -/
theorem findLong_keeps (subset : seen ⊆ more) (name : String)
    (value : Option String)
    : Keeps Found.names seen more (findLong switches seen name value)
        (findLong switches more name value) := by
  cases listed : switches.find? (·.name == name) with
  | none =>
      rw [findLong_unlisted listed, findLong_unlisted listed]
      exact .refl _
  | some switch =>
      have holds := List.find?_some listed
      obtain rfl : switch.name = name := eq_of_beq holds
      rw [findLong_listed listed, findLong_listed listed]
      split
      · exact .refl _
      · refine Keeps.unseen (.refl _) subset fun found isGiven => ?_
        rw [Switch.given_names isGiven]
        exact List.mem_cons_self

/-- Letters in a row are options, each of them seen by those behind it. -/
theorem findLetters_keeps (letters : List Char) (subset : seen ⊆ more)
    : Keeps Found.names seen more (findLetters switches seen letters)
        (findLetters switches more letters) := by
  induction letters generalizing seen more with
  | nil => exact .refl _
  | cons letter rest ih =>
      cases listed : switches.find? (·.letter == some letter) with
      | none =>
          rw [findLetters, findLetters, listed]
          exact .refl _
      | some switch =>
          rw [findLetters_listed listed, findLetters_listed listed]
          split
          · exact .refl _
          · refine Keeps.unseen ?_ subset fun found same => ?_
            · split
              · exact .refl _
              · refine (Keeps.of_append [switch.name] (ih fun other member => ?_)).map _
                  fun value => List.subset_cons_self _ _
                exact List.mem_append.mpr ((List.mem_append.mp member).imp_right (subset ·))
            · split at same
              · rw [Switch.given_names same]
                exact List.mem_cons_self
              · obtain ⟨first, -, rfl⟩ := map_eq_ok.mp same
                exact List.mem_cons_self

-----------------------------------------------------------------------
-- Command lines
-----------------------------------------------------------------------

/-- What a command line gives, by name. -/
def scanned (result : List Given × List String) : List String :=
  Given.names result.1

/-- What is found in a word of options. -/
def found? (switches : List Switch) (seen : List String) : Shape → Option (Except Refusal Found)
  | .long name value => some (findLong (.help :: switches) seen name value)
  | .letters letters => some (findLetters (.help :: switches) seen letters)
  | .separator | .plain => none

/-- Behind a word of options the scanner has seen these, and waits for the value of the last one. -/
theorem scanFrom_options {stops : Bool} {word : String} {found : Except Refusal Found}
    (isFound : found? switches seen (Shape.of word) = some found) (words : List String)
    : scanFrom switches stops seen none (word :: words)
      = found.bind fun (given, waiting) =>
        (scanFrom switches stops (Given.names given ++ seen) waiting words).map
          fun (others, rest) => (given ++ others, rest) := by
  rw [scanFrom]
  cases shape : Shape.of word with
  | separator => rw [shape] at isFound; cases isFound
  | plain => rw [shape] at isFound; cases isFound
  | long name value =>
      rw [shape] at isFound
      obtain rfl := Option.some.inj isFound
      dsimp only
      cases findLong (.help :: switches) seen name value <;> rfl
  | letters letters =>
      rw [shape] at isFound
      obtain rfl := Option.some.inj isFound
      dsimp only
      cases findLetters (.help :: switches) seen letters <;> rfl

/-- A value that is waited for is given. -/
theorem scanFrom_waiting {stops : Bool} {switch : Switch} {words : List String}
    {result : List Given × List String}
    (same : scanFrom switches stops seen (some switch) words = .ok result)
    : switch.name ∈ scanned result := by
  cases words with
  | nil => cases same
  | cons word words =>
      rw [scanFrom] at same
      split at same
      · split at same
        · obtain ⟨others, -, rfl⟩ := map_eq_ok.mp same
          exact List.mem_cons_self
        · cases same
      · cases same
      · cases same
      · cases same

/-- What a command line gives depends on the options that are seen only where one is given again, by
induction on its words.
-/
theorem scanFrom_keeps (stops : Bool) (waiting : Option Switch) (words : List String)
    (subset : seen ⊆ more)
    : Keeps scanned seen more (scanFrom switches stops seen waiting words)
        (scanFrom switches stops more waiting words) := by
  induction words generalizing seen more waiting with
  | nil => cases waiting <;> exact .refl _
  | cons word words ih =>
      have further (extra : List String) (waiting : Option Switch)
          : Keeps scanned seen more (scanFrom switches stops (extra ++ seen) waiting words)
              (scanFrom switches stops (extra ++ more) waiting words) := by
        refine .of_append extra (ih waiting fun other member => ?_)
        exact List.mem_append.mpr ((List.mem_append.mp member).imp_right (subset ·))
      cases waiting with
      | some switch =>
          rw [scanFrom, scanFrom]
          cases Shape.of word with
          | separator | long | letters => exact .refl _
          | plain =>
              dsimp only
              split
              · exact (further [switch.name] none).map _ fun others => List.subset_cons_self _ _
              · exact .refl _
      | none =>
          have options {found later : Except Refusal Found}
              (isFound : found? switches seen (Shape.of word) = some found)
              (isLater : found? switches more (Shape.of word) = some later)
              (keeps : Keeps Found.names seen more found later)
              : Keeps scanned seen more (scanFrom switches stops seen none (word :: words))
                  (scanFrom switches stops more none (word :: words)) := by
            rw [scanFrom_options isFound, scanFrom_options isLater]
            refine keeps.bind (fun (given, waiting) => ?_) fun (given, waiting) last same => ?_
            · refine (further (Given.names given) waiting).map _ fun others => ?_
              rw [scanned, scanned, Given.names_append]
              exact List.subset_append_right _ _
            · dsimp only at same
              obtain ⟨others, behind, rfl⟩ := map_eq_ok.mp same
              rw [Found.names, scanned, Given.names_append]
              refine List.append_subset.mpr ⟨List.subset_append_left _ _, ?_⟩
              cases waiting with
              | none => exact List.nil_subset _
              | some switch =>
                  refine List.cons_subset.mpr ⟨?_, List.nil_subset _⟩
                  exact List.mem_append_right _ (scanFrom_waiting behind)
          cases shape : Shape.of word with
          | separator =>
              rw [scanFrom, scanFrom, shape]
              exact .refl _
          | plain =>
              rw [scanFrom, scanFrom, shape]
              dsimp only
              split
              · exact .refl _
              · exact (further [] none).map _ fun others => List.Subset.refl _
          | long name value =>
              exact options (by rw [shape]; rfl) (by rw [shape]; rfl)
                (findLong_keeps subset name value)
          | letters letters =>
              exact options (by rw [shape]; rfl) (by rw [shape]; rfl)
                (findLetters_keeps letters subset)

theorem Shape.eq_of_separator {word : String} (shape : Shape.of word = .separator)
    : word = "--" := by
  refine String.toList_inj.mp ?_
  unfold Shape.of at shape
  split at shape
  · assumption
  all_goals cases shape

/-- A word is plain if it does not begin with a hyphen. -/
theorem Shape.of_other {word : String} (other : word.toList.head? ≠ some '-')
    : Shape.of word = .plain := by
  unfold Shape.of
  match word.toList, other with
  | [], _ => rfl
  | c :: rest, other =>
      have noHyphen : c ≠ '-' := fun same => other (congrArg some same)
      split <;> simp_all

/-- A word in a row of options is taken in one step, whatever stands behind it. -/
theorem scanFrom_step {waiting : Option Switch} {word : String} {words : List String}
    {front : List Given}
    (all : scanFrom switches true seen waiting (word :: words) = .ok (front, []))
    (unseparated : word ≠ "--")
    : ∃ given later, ∀ behind,
        scanFrom switches true seen waiting (word :: behind)
          = (scanFrom switches true (Given.names given ++ seen) later behind).map
            fun (others, rest) => (given ++ others, rest) := by
  cases waiting with
  | some switch =>
      rw [scanFrom] at all
      cases shape : Shape.of word with
      | separator | long | letters => rw [shape] at all; cases all
      | plain =>
          rw [shape] at all
          dsimp only at all
          split at all
          case isFalse => cases all
          case isTrue accepted =>
            refine ⟨[.value switch.name word], none, fun behind => ?_⟩
            rw [scanFrom, shape]
            exact if_pos accepted
  | none =>
      have options {found : Except Refusal Found}
          (isFound : found? switches seen (Shape.of word) = some found)
          : ∃ given later, ∀ behind,
              scanFrom switches true seen none (word :: behind)
                = (scanFrom switches true (Given.names given ++ seen) later behind).map
                  fun (others, rest) => (given ++ others, rest) := by
        cases found with
        | error refusal => rw [scanFrom_options isFound] at all; cases all
        | ok first => exact ⟨first.1, first.2, fun behind => scanFrom_options isFound behind⟩
      cases shape : Shape.of word with
      | separator => exact absurd (Shape.eq_of_separator shape) unseparated
      | plain =>
          rw [scanFrom, shape] at all
          cases all
      | long name value => exact options (by rw [shape]; rfl)
      | letters letters => exact options (by rw [shape]; rfl)

/-- Behind words that are all options the scanner goes on from what they give, by induction on them.
-/
theorem scanFrom_append {waiting : Option Switch} {before : List String} {front : List Given}
    (all : scanFrom switches true seen waiting before = .ok (front, []))
    (unseparated : "--" ∉ before)
    : ∃ later,
        (∀ name, name ∈ later ↔ name ∈ Given.names front ∨ name ∈ seen)
        ∧ ∀ behind,
          scanFrom switches true seen waiting (before ++ behind)
            = (scanFrom switches true later none behind).map fun (others, rest) =>
              (front ++ others, rest) := by
  induction before generalizing seen waiting front with
  | nil =>
      cases waiting with
      | some switch => cases all
      | none =>
          obtain ⟨rfl, -⟩ := Prod.mk.inj (Except.ok.inj all)
          refine ⟨seen, fun name => by simp [Given.names], fun behind => ?_⟩
          rw [List.nil_append]
          cases scanFrom switches true seen none behind <;> rfl
  | cons word words ih =>
      rw [List.mem_cons, not_or] at unseparated
      obtain ⟨given, waiting, step⟩ := scanFrom_step all (Ne.symm unseparated.1)
      rw [step words] at all
      cases scanned : scanFrom switches true (Given.names given ++ seen) waiting words with
      | error refusal => rw [scanned] at all; cases all
      | ok others =>
          rw [scanned] at all
          obtain ⟨more, rest⟩ := others
          obtain ⟨rfl, rfl⟩ := Prod.mk.inj (Except.ok.inj all)
          obtain ⟨later, isLater, same⟩ := ih scanned unseparated.2
          refine ⟨later, fun name => ?_, fun behind => ?_⟩
          · rw [isLater, Given.names_append, List.mem_append, List.mem_append, or_left_comm,
              or_assoc]
          · rw [List.cons_append, step, same behind]
            cases scanFrom switches true later none behind with
            | error refusal => rfl
            | ok others => simp [Except.map, List.append_assoc]

-----------------------------------------------------------------------
-- Options with their values
-----------------------------------------------------------------------

/-- An option and its value in one word. -/
def Switch.written (switch : Switch) (text : String) : String :=
  "--" ++ switch.name ++ "=" ++ text

theorem Shape.of_written {switch : Switch} (plain : '=' ∉ switch.name.toList) (text : String)
    : Shape.of (switch.written text) = .long switch.name (some text) := by
  have whole : (switch.written text).toList
      = '-' :: '-' :: (switch.name.toList ++ '=' :: text.toList) := by
    simp [Switch.written]
  have passes : ∀ c ∈ switch.name.toList, c != '=' := fun c member =>
    bne_iff_ne.mpr (by rintro rfl; exact plain member)
  obtain ⟨before, behind⟩ := Text.cut_at passes (bne_self_eq_false '=') text.toList
  have marked : (switch.name.toList ++ '=' :: text.toList).contains '=' = true := by simp
  unfold Shape.of
  rw [whole]
  split
  case h_1 none => simp at none
  case h_2 rest noSeparator same =>
    obtain ⟨-, same⟩ := List.cons.inj same
    obtain ⟨-, rfl⟩ := List.cons.inj same
    rw [before, behind, marked]
    simp
  case h_3 single => simp at single
  case h_4 cluster notLong nonempty same =>
    obtain ⟨-, same⟩ := List.cons.inj same
    exact absurd same.symm (notLong _)
  case h_5 _ _ _ notHyphen => exact absurd rfl (notHyphen _)

section Written

variable {switch : Switch} {before behind : List String} {front : List Given} {text : String}

/-- Behind options, an option in one word with its value is one more that is given. -/
theorem scan_written (text : String)
    (listed : (Switch.help :: switches).find? (·.name == switch.name) = some switch)
    (plain : '=' ∉ switch.name.toList) (all : scan switches true before = .ok (front, []))
    (unseparated : "--" ∉ before)
    : ∃ later,
        (∀ name, name ∈ later ↔ name ∈ Given.names front)
        ∧ scan switches true (before ++ behind)
          = (scanFrom switches true later none behind).map
            (fun (others, rest) => (front ++ others, rest))
        ∧ scan switches true (before ++ switch.written text :: behind)
          = if !later.contains switch.name && switch.accepts text then
              (scanFrom switches true (switch.name :: later) none behind).map fun (others, rest) =>
                (front ++ .value switch.name text :: others, rest)
            else .error .invalid := by
  obtain ⟨later, isLater, same⟩ := scanFrom_append all unseparated
  refine ⟨later, fun name => by simp [isLater], same behind, ?_⟩
  have isFound : found? switches later (Shape.of (switch.written text))
      = some (findLong (.help :: switches) later switch.name (some text)) := by
    rw [Shape.of_written plain]
    rfl
  have found : findLong (.help :: switches) later switch.name (some text)
      = if !later.contains switch.name && switch.accepts text then
          .ok ([.value switch.name text], none)
        else .error .invalid := by
    unfold findLong
    rw [listed]
  rw [scan, same, scanFrom_options isFound, found]
  split
  · simp only [Except.bind]
    rw [show Given.names [.value switch.name text] ++ later = switch.name :: later from rfl]
    cases scanFrom switches true (switch.name :: later) none behind with
    | error refusal => rfl
    | ok others => simp [Except.map]
  · rfl

/-- An option that is not given yet can be given if its value is accepted. -/
theorem scan_written_of_scan
    (listed : (Switch.help :: switches).find? (·.name == switch.name) = some switch)
    (plain : '=' ∉ switch.name.toList) (all : scan switches true before = .ok (front, []))
    (unseparated : "--" ∉ before) {given : List Given} {rest : List String}
    (short : scan switches true (before ++ behind) = .ok (given, rest))
    (absent : switch.name ∉ Given.names given) (accepted : switch.accepts text)
    : ∃ others,
        given = front ++ others
        ∧ scan switches true (before ++ switch.written text :: behind)
          = .ok (front ++ .value switch.name text :: others, rest) := by
  obtain ⟨later, isLater, isShort, isLong⟩ := scan_written text listed plain all unseparated
  rw [isShort] at short
  obtain ⟨⟨others, end?⟩, behindIs, same⟩ := map_eq_ok.mp short
  obtain ⟨rfl, rfl⟩ := Prod.mk.inj same
  rw [Given.names_append, List.mem_append, not_or] at absent
  have unseen : later.contains switch.name = false := by
    simpa [isLater] using absent.1
  have keeps : Keeps scanned later (switch.name :: later)
      (scanFrom switches true later none behind) _ :=
    scanFrom_keeps true none behind (List.subset_cons_self _ _)
  have long := keeps.complete _ behindIs fun name named inLater => by
    refine (List.mem_cons.mp inLater).resolve_left ?_
    rintro rfl
    exact absent.2 named
  refine ⟨others, rfl, ?_⟩
  rw [isLong, unseen, accepted, long]
  rfl

/-- What is accepted with an option is accepted without it. -/
theorem scan_of_scan_written
    (listed : (Switch.help :: switches).find? (·.name == switch.name) = some switch)
    (plain : '=' ∉ switch.name.toList) (all : scan switches true before = .ok (front, []))
    (unseparated : "--" ∉ before) {given : List Given} {rest : List String}
    (long : scan switches true (before ++ switch.written text :: behind) = .ok (given, rest))
    : switch.accepts text
      ∧ ∃ others, scan switches true (before ++ behind) = .ok (others, rest) := by
  obtain ⟨later, isLater, isShort, isLong⟩ := scan_written text listed plain all unseparated
  rw [isLong] at long
  split at long
  case isFalse => cases long
  case isTrue accepted =>
    obtain ⟨⟨others, end?⟩, behindIs, same⟩ := map_eq_ok.mp long
    obtain ⟨rfl, rfl⟩ := Prod.mk.inj same
    have keeps : Keeps scanned later (switch.name :: later)
        (scanFrom switches true later none behind) _ :=
      scanFrom_keeps true none behind (List.subset_cons_self _ _)
    refine ⟨((Bool.and_eq_true _ _).mp accepted).2, front ++ others, ?_⟩
    rw [isShort, keeps.sound _ behindIs]
    rfl

namespace Given

/-- An option that is not given has no value. -/
theorem value?_none {given : List Given} {name : String} (absent : name ∉ names given)
    : value? given name = none := by
  refine List.findSome?_eq_none_iff.mpr fun one member => ?_
  cases one with
  | flag | word => rfl
  | value other text =>
      refine if_neg ?_
      rintro rfl
      exact absent (List.mem_filterMap.mpr ⟨_, member, rfl⟩)

/-- A value that is given once is found, and changes no other one. -/
theorem value?_written {others : List Given} {name : String}
    (absent : name ∉ names (front ++ others)) (text other : String)
    : value? (front ++ .value name text :: others) other
      = if other = name then some text else value? (front ++ others) other := by
  rw [value?, value?, List.findSome?_append, List.findSome?_append, List.findSome?_cons]
  by_cases same : other = name
  · rw [names_append, List.mem_append, not_or] at absent
    have none := value?_none absent.1
    rw [value?] at none
    rw [same, none, Option.none_or]
    simp
  · simp [same, Ne.symm same]

end Given

end Written

end JobWatch.CommandLine
