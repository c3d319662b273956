import JobWatch.Proofs.CommandLine.Scanning

/-! Command lines with another value for one of their options: it takes the place of the value that
is given, or stands behind all options if none is. What is given apart from this value stays the
same.
-/

namespace JobWatch.CommandLine

-----------------------------------------------------------------------
-- Other values
-----------------------------------------------------------------------

/-- A command line with another value for an option. -/
def Switch.withValue (switch : Switch) (text : String) : List String → List String
  | [] => ["--" ++ switch.name, text]
  | word :: words =>
    match Shape.of word with
    | .separator => ("--" ++ switch.name) :: text :: word :: words
    | .long name value =>
      if name = switch.name then
        match value with
        | none => word :: text :: words.tail
        | some _ => switch.written text :: words
      else word :: switch.withValue text words
    | .letters _ | .plain => word :: switch.withValue text words

namespace Switch

variable {switch : Switch} {text word : String}

theorem withValue_separator (shape : Shape.of word = .separator) (words : List String)
    : switch.withValue text (word :: words) = ("--" ++ switch.name) :: text :: word :: words := by
  simp only [withValue, shape]

theorem withValue_name (shape : Shape.of word = .long switch.name none) (words : List String)
    : switch.withValue text (word :: words) = word :: text :: words.tail := by
  simp only [withValue, shape, if_true]

theorem withValue_written {old : String} (shape : Shape.of word = .long switch.name (some old))
    (words : List String)
    : switch.withValue text (word :: words) = switch.written text :: words := by
  simp only [withValue, shape, if_true]

/-- Words that are not about the option are kept. -/
theorem withValue_other (inside : Shape.of word ≠ .separator)
    (other : ∀ value, Shape.of word ≠ .long switch.name value) (words : List String)
    : switch.withValue text (word :: words) = word :: switch.withValue text words := by
  cases shape : Shape.of word with
  | separator => exact absurd shape inside
  | letters | plain => simp only [withValue, shape]
  | long name value =>
      have isOther : name ≠ switch.name := by
        rintro rfl
        exact other value shape
      simp only [withValue, shape, if_neg isOther]

end Switch

/-- An option with a value that is given by its long name only. -/
structure Switch.IsLong (switches : List Switch) (switch : Switch) : Prop where
  listed : (Switch.help :: switches).find? (·.name == switch.name) = some switch
  valued : switch.kind?.isSome
  letterless : ∀ other ∈ Switch.help :: switches, other.letter.isSome → other.name ≠ switch.name
  named : Shape.of ("--" ++ switch.name) = .long switch.name none
  undivided : '=' ∉ switch.name.toList

/-- The same is given, but for one option that has another value or is added. -/
structure Given.Revalued (name text : String) (given later : List Given) : Prop where
  words : Given.words later = Given.words given
  value : ∀ other, Given.value? later other
    = if other = name then some text else Given.value? given other

variable {switches : List Switch} {seen : List String} {switch : Switch} {text : String}

namespace Given

theorem value?_append (front given : List Given) (name : String)
    : value? (front ++ given) name = (value? front name).or (value? given name) :=
  List.findSome?_append

theorem words_append (front given : List Given)
    : words (front ++ given) = words front ++ words given :=
  List.filterMap_append

namespace Revalued

variable {name : String} {front given later : List Given}

/-- The value of an option that stands first in a list is the one that counts. -/
theorem replaced (name text old : String) (given : List Given)
    : Revalued name text (.value name old :: given) (.value name text :: given) := by
  refine ⟨rfl, fun other => ?_⟩
  rw [value?, value?, List.findSome?_cons, List.findSome?_cons]
  by_cases same : other = name
  · simp [same]
  · simp [same, Ne.symm same]

theorem added (name text : String) : Revalued name text [] [.value name text] := by
  refine ⟨rfl, fun other => ?_⟩
  by_cases same : other = name
  · simp [value?, same]
  · simp [value?, same, Ne.symm same]

/-- Nothing in front of it changes if the option is not given there. -/
theorem append (absent : name ∉ names front) (revalued : Revalued name text given later)
    : Revalued name text (front ++ given) (front ++ later) := by
  refine ⟨?_, fun other => ?_⟩
  · rw [words_append, words_append, revalued.words]
  · rw [value?_append, value?_append, revalued.value]
    by_cases same : other = name
    · rw [if_pos same, if_pos same, same, value?_none absent, Option.none_or]
    · rw [if_neg same, if_neg same]

end Revalued

end Given

-----------------------------------------------------------------------
-- Names of options
-----------------------------------------------------------------------

/-- A long option is given by its name. -/
theorem findLong_names {name : String} {value : Option String} {found : Found}
    (isFound : findLong switches seen name value = .ok found)
    : Found.names found = [name] := by
  cases listed : switches.find? (·.name == name) with
  | none =>
      rw [findLong_unlisted listed] at isFound
      cases isFound
  | some switch =>
      have holds := List.find?_some listed
      obtain rfl : switch.name = name := eq_of_beq holds
      rw [findLong_listed listed] at isFound
      split at isFound
      · cases isFound
      · split at isFound
        · cases isFound
        · exact Switch.given_names isFound

/-- Letters give options that have letters, by induction on them. -/
theorem findLetters_names {letters : List Char} {found : Found}
    (isFound : findLetters switches seen letters = .ok found)
    : ∀ name ∈ Found.names found,
        ∃ switch ∈ switches, switch.letter.isSome ∧ switch.name = name := by
  induction letters generalizing seen found with
  | nil =>
      obtain rfl := Except.ok.inj isFound
      exact List.forall_mem_nil _
  | cons letter rest ih =>
      cases listed : switches.find? (·.letter == some letter) with
      | none =>
          rw [findLetters, listed] at isFound
          cases isFound
      | some switch =>
          have holds := List.find?_some listed
          have isLetter : switch.letter = some letter := eq_of_beq holds
          have here : ∃ other ∈ switches, other.letter.isSome ∧ other.name = switch.name :=
            ⟨switch, List.mem_of_find?_eq_some listed, by rw [isLetter]; rfl, rfl⟩
          rw [findLetters_listed listed] at isFound
          split at isFound
          · cases isFound
          · split at isFound
            · cases isFound
            · split at isFound
              · rw [Switch.given_names isFound]
                exact List.forall_mem_singleton.mpr here
              · obtain ⟨first, others, rfl⟩ := map_eq_ok.mp isFound
                exact List.forall_mem_cons.mpr ⟨here, ih others⟩

-----------------------------------------------------------------------
-- Scanning behind another value
-----------------------------------------------------------------------

namespace Switch.IsLong

variable (long : IsLong switches switch)

include long

/-- The option is not the one that asks for help. -/
theorem ne_help : switch ≠ .help := by
  intro isHelp
  exact long.letterless .help List.mem_cons_self rfl (congrArg name isHelp.symm)

/-- Behind its name, the value of the option is waited for. -/
theorem scan_name (unseen : switch.name ∉ seen) {word : String}
    (shape : Shape.of word = .long switch.name none) (words : List String)
    : scanFrom switches false seen none (word :: words)
      = scanFrom switches false seen (some switch) words := by
  have isFound : found? switches seen (Shape.of word)
      = some (findLong (.help :: switches) seen switch.name none) := by
    rw [shape]
    rfl
  have found : findLong (.help :: switches) seen switch.name none = .ok ([], some switch) := by
    rw [findLong_listed long.listed]
    simp [long.ne_help, unseen, long.valued, Switch.given]
  rw [scanFrom_options isFound, found]
  cases behind : scanFrom switches false seen (some switch) words <;>
    simp [Except.bind, Except.map, Given.names, behind]

/-- The option with its value in one word. -/
theorem scan_written (unseen : switch.name ∉ seen) {word text : String}
    (shape : Shape.of word = .long switch.name (some text)) (words : List String)
    : scanFrom switches false seen none (word :: words)
      = if switch.accepts text then
          (scanFrom switches false (switch.name :: seen) none words).map fun (others, rest) =>
            (.value switch.name text :: others, rest)
        else .error .invalid := by
  have isFound : found? switches seen (Shape.of word)
      = some (findLong (.help :: switches) seen switch.name (some text)) := by
    rw [shape]
    rfl
  have found : findLong (.help :: switches) seen switch.name (some text)
      = if switch.accepts text then .ok ([.value switch.name text], none) else .error .invalid := by
    rw [findLong_listed long.listed]
    simp [unseen, Switch.given]
  rw [scanFrom_options isFound, found]
  split <;> rfl

end Switch.IsLong

/-- A plain word is the value that is waited for. -/
theorem scanFrom_value {stops : Bool} {word : String} (shape : Shape.of word = .plain)
    (words : List String)
    : scanFrom switches stops seen (some switch) (word :: words)
      = if switch.accepts word then
          (scanFrom switches stops (switch.name :: seen) none words).map fun (given, rest) =>
            (.value switch.name word :: given, rest)
        else .error .invalid := by
  rw [scanFrom, shape]

/-- What waits for its value is followed by a plain word. -/
theorem plain_of_waiting {stops : Bool} {words : List String} {given : List Given}
    {rest : List String}
    (scanned : scanFrom switches stops seen (some switch) words = .ok (given, rest))
    : ∃ word others more,
        words = word :: others ∧ Shape.of word = .plain ∧ switch.accepts word
        ∧ scanFrom switches stops (switch.name :: seen) none others = .ok (more, rest)
        ∧ given = .value switch.name word :: more := by
  cases words with
  | nil => cases scanned
  | cons word others =>
      cases shape : Shape.of word with
      | separator | long | letters =>
          rw [scanFrom, shape] at scanned
          cases scanned
      | plain =>
          rw [scanFrom_value shape] at scanned
          split at scanned
          case isFalse => cases scanned
          case isTrue accepted =>
            obtain ⟨found, behind, same⟩ := map_eq_ok.mp scanned
            obtain ⟨rfl, rfl⟩ := Prod.mk.inj same
            exact ⟨word, others, found.1, rfl, shape, accepted, behind, rfl⟩

/-- What a word of options gives stands in front of what the words behind it give. -/
theorem given_of_options {stops : Bool} {word : String} {words : List String}
    {found : Except Refusal Found} {given : List Given} {rest : List String}
    (isFound : found? switches seen (Shape.of word) = some found)
    (scanned : scanFrom switches stops seen none (word :: words) = .ok (given, rest))
    : ∃ front waiting more,
        found = .ok (front, waiting)
        ∧ scanFrom switches stops (Given.names front ++ seen) waiting words = .ok (more, rest)
        ∧ given = front ++ more := by
  rw [scanFrom_options isFound] at scanned
  obtain ⟨⟨front, waiting⟩, isOk, scanned⟩ := bind_eq_ok.mp scanned
  obtain ⟨others, behind, same⟩ := map_eq_ok.mp scanned
  obtain ⟨rfl, rfl⟩ := Prod.mk.inj same
  exact ⟨front, waiting, others.1, isOk, behind, rfl⟩

/-- A plain word that is not waited for is given as a word. -/
theorem scanFrom_word {word : String} (shape : Shape.of word = .plain) (words : List String)
    : scanFrom switches false seen none (word :: words)
      = (scanFrom switches false seen none words).map fun (given, rest) =>
        (.word word :: given, rest) := by
  rw [scanFrom, shape]
  rfl

/-- Some words are scanned as well with another value for an option, and what they give is the same
apart from this value.
-/
def Rescans (switches : List Switch) (switch : Switch) (text : String) (seen : List String)
    (waiting : Option Switch) (words : List String) (given : List Given) (rest : List String)
    : Prop :=
  ∃ later,
    scanFrom switches false seen waiting (switch.withValue text words) = .ok (later, rest)
    ∧ Given.Revalued switch.name text given later

namespace Rescans

variable {words rest : List String} {given : List Given}

/-- Behind a word of other options, or their value, it is as behind this word. -/
theorem options {word : String} {found : Except Refusal Found}
    (isFound : found? switches seen (Shape.of word) = some found)
    (others : ∀ first, found = .ok first → switch.name ∉ Found.names first)
    (kept : switch.withValue text (word :: words) = word :: switch.withValue text words)
    (scanned : scanFrom switches false seen none (word :: words) = .ok (given, rest))
    (behind : ∀ front waiting more, switch.name ∉ Given.names front
      → (∀ other ∈ waiting, other.name ≠ switch.name) → given = front ++ more
      → scanFrom switches false (Given.names front ++ seen) waiting words = .ok (more, rest)
      → Rescans switches switch text (Given.names front ++ seen) waiting words more rest)
    : Rescans switches switch text seen none (word :: words) given rest := by
  obtain ⟨front, waiting, more, rfl, scannedBehind, rfl⟩ := given_of_options isFound scanned
  have unnamed := others _ rfl
  rw [Found.names, List.mem_append, not_or] at unnamed
  obtain ⟨absent, unnamed⟩ := unnamed
  have isOther : ∀ other ∈ waiting, other.name ≠ switch.name := by
    intro other isWaiting same
    apply unnamed
    rw [Option.mem_def.mp isWaiting, ← same]
    exact List.mem_singleton.mpr rfl
  obtain ⟨later, isLater, revalued⟩ := behind front waiting more absent isOther rfl scannedBehind
  refine ⟨front ++ later, ?_, revalued.append absent⟩
  rw [kept, scanFrom_options isFound]
  simp only [Except.bind, isLater, Except.map]

/-- The value that is waited for is kept. -/
theorem value {other : Switch} {word : String} (isOther : other.name ≠ switch.name)
    (shape : Shape.of word = .plain) (taken : other.accepts word)
    (behind : Rescans switches switch text (other.name :: seen) none words given rest)
    : Rescans switches switch text seen (some other) (word :: words)
        (.value other.name word :: given) rest := by
  obtain ⟨later, isLater, revalued⟩ := behind
  have absent : switch.name ∉ Given.names [.value other.name word] := fun member =>
    isOther (List.mem_singleton.mp member).symm
  refine ⟨.value other.name word :: later, ?_, revalued.append absent⟩
  rw [Switch.withValue_other (by simp [shape]) (by simp [shape]), scanFrom_value shape,
    if_pos taken, isLater]
  rfl

variable (long : switch.IsLong switches) (plain : Shape.of text = .plain)
  (accepted : switch.accepts text) (unseen : switch.name ∉ seen)

include long plain accepted unseen

/-- At the end of the options, the option is added. -/
theorem added (ends : switch.withValue text words = ("--" ++ switch.name) :: text :: words)
    (nothing : ∀ seen, scanFrom switches false seen none words = .ok ([], rest))
    : Rescans switches switch text seen none words [] rest := by
  refine ⟨_, ?_, .added switch.name text⟩
  rw [ends, long.scan_name unseen long.named, scanFrom_value plain, if_pos accepted, nothing]
  rfl

/-- The value behind the name of the option is replaced. -/
theorem named {word : String} (shape : Shape.of word = .long switch.name none)
    (scanned : scanFrom switches false seen none (word :: words) = .ok (given, rest))
    : Rescans switches switch text seen none (word :: words) given rest := by
  rw [long.scan_name unseen shape] at scanned
  obtain ⟨old, others, more, rfl, -, -, behind, rfl⟩ := plain_of_waiting scanned
  refine ⟨_, ?_, .replaced switch.name text old more⟩
  rw [Switch.withValue_name shape, List.tail_cons, long.scan_name unseen shape,
    scanFrom_value plain, if_pos accepted, behind]
  rfl

omit plain in
/-- The value in one word with the name of the option is replaced. -/
theorem written {word old : String} (shape : Shape.of word = .long switch.name (some old))
    (scanned : scanFrom switches false seen none (word :: words) = .ok (given, rest))
    : Rescans switches switch text seen none (word :: words) given rest := by
  rw [long.scan_written unseen shape] at scanned
  split at scanned
  case isFalse => cases scanned
  case isTrue =>
    obtain ⟨found, behind, same⟩ := map_eq_ok.mp scanned
    obtain ⟨rfl, rfl⟩ := Prod.mk.inj same
    refine ⟨_, ?_, .replaced switch.name text old found.1⟩
    rw [Switch.withValue_written shape,
      long.scan_written unseen (Shape.of_written long.undivided text), if_pos accepted, behind]
    rfl

end Rescans

/-- A command line of options only is scanned as well with another value for one of them, by
induction on its words. The option has not been seen before, and is not waiting for its value.
-/
theorem rescans_of_scanFrom (long : switch.IsLong switches) (plain : Shape.of text = .plain)
    (accepted : switch.accepts text) {waiting : Option Switch} {words rest : List String}
    {given : List Given} (unseen : switch.name ∉ seen)
    (notWaiting : ∀ other ∈ waiting, other.name ≠ switch.name)
    (scanned : scanFrom switches false seen waiting words = .ok (given, rest))
    (noWord : Given.words given = [])
    : Rescans switches switch text seen waiting words given rest := by
  induction words generalizing seen waiting given with
  | nil =>
      cases waiting with
      | some other => cases scanned
      | none =>
          obtain ⟨rfl, rfl⟩ := Prod.mk.inj (Except.ok.inj scanned)
          exact .added long plain accepted unseen rfl fun _ => rfl
  | cons word words ih =>
      have behind (front : List Given) (next : Option Switch) (more : List Given)
          (absent : switch.name ∉ Given.names front)
          (isOther : ∀ other ∈ next, other.name ≠ switch.name) (isGiven : given = front ++ more)
          (scannedBehind : scanFrom switches false (Given.names front ++ seen) next words
            = .ok (more, rest))
          : Rescans switches switch text (Given.names front ++ seen) next words more rest := by
        rw [isGiven, Given.words_append, List.append_eq_nil_iff] at noWord
        refine ih (fun member => ?_) isOther scannedBehind noWord.2
        exact (List.mem_append.mp member).elim absent unseen
      cases waiting with
      | some other =>
          have isOther := notWaiting other rfl
          obtain ⟨_, _, more, same, shape, taken, scannedBehind, rfl⟩ := plain_of_waiting scanned
          obtain ⟨rfl, rfl⟩ := List.cons.inj same
          refine .value isOther shape taken (behind [.value other.name word] none more ?_ ?_ rfl
            scannedBehind)
          · exact fun member => isOther (List.mem_singleton.mp member).symm
          · exact fun _ none => nomatch none
      | none =>
          cases shape : Shape.of word with
          | separator =>
              have ends (seen : List String)
                  : scanFrom switches false seen none (word :: words)
                    = .ok (words.map .word, []) := by
                rw [scanFrom, shape]
                rfl
              rw [ends] at scanned
              obtain ⟨rfl, rfl⟩ := Prod.mk.inj (Except.ok.inj scanned)
              cases words with
              | nil =>
                  refine .added long plain accepted unseen ?_ ends
                  exact Switch.withValue_separator shape []
              | cons first others => cases noWord
          | plain =>
              rw [scanFrom_word shape] at scanned
              obtain ⟨found, -, same⟩ := map_eq_ok.mp scanned
              obtain ⟨rfl, -⟩ := Prod.mk.inj same
              cases noWord
          | letters letters =>
              refine .options (by rw [shape]; rfl) ?_
                (Switch.withValue_other (by simp [shape]) (by simp [shape]) words) scanned behind
              intro first found member
              obtain ⟨other, isListed, lettered, same⟩ := findLetters_names found _ member
              exact long.letterless other isListed lettered same
          | long name value =>
              by_cases isName : name = switch.name
              · subst isName
                cases value with
                | none => exact .named long plain accepted unseen shape scanned
                | some old => exact .written long accepted unseen shape scanned
              · refine .options (by rw [shape]; rfl) ?_
                  (Switch.withValue_other (by simp [shape]) (by simpa [shape] using isName) words)
                  scanned behind
                intro first found member
                rw [findLong_names found] at member
                exact isName (List.mem_singleton.mp member).symm

/-- What stands in front of a command is kept if the option is not one of those in front of it, by
induction on the words.
-/
theorem scanFrom_in_front
    (unlisted : (Switch.help :: switches).find? (·.name == switch.name) = none)
    {waiting : Option Switch} {words rest : List String} {given : List Given} (command : rest ≠ [])
    (scanned : scanFrom switches true seen waiting words = .ok (given, rest))
    : scanFrom switches true seen waiting (switch.withValue text words)
      = .ok (given, switch.withValue text rest) := by
  induction words generalizing seen waiting given with
  | nil =>
      cases waiting with
      | some other => cases scanned
      | none =>
          obtain ⟨-, rfl⟩ := Prod.mk.inj (Except.ok.inj scanned)
          exact absurd rfl command
  | cons word words ih =>
      have options {found : Except Refusal Found}
          (isFound : found? switches seen (Shape.of word) = some found)
          (kept : switch.withValue text (word :: words) = word :: switch.withValue text words)
          (isNone : waiting = none)
          : scanFrom switches true seen waiting (switch.withValue text (word :: words))
            = .ok (given, switch.withValue text rest) := by
        subst isNone
        obtain ⟨front, next, more, rfl, behind, rfl⟩ := given_of_options isFound scanned
        rw [kept, scanFrom_options isFound]
        simp only [Except.bind, ih behind, Except.map]
      cases waiting with
      | some other =>
          obtain ⟨_, _, more, same, shape, taken, behind, rfl⟩ := plain_of_waiting scanned
          obtain ⟨rfl, rfl⟩ := List.cons.inj same
          rw [Switch.withValue_other (by simp [shape]) (by simp [shape]), scanFrom_value shape,
            if_pos taken, ih behind]
          rfl
      | none =>
          cases shape : Shape.of word with
          | separator =>
              rw [scanFrom, shape] at scanned
              dsimp only at scanned
              split at scanned
              · split at scanned
                · obtain ⟨-, rfl⟩ := Prod.mk.inj (Except.ok.inj scanned)
                  exact absurd rfl command
                · cases scanned
              · contradiction
          | plain =>
              rw [scanFrom, shape] at scanned
              obtain ⟨rfl, rfl⟩ := Prod.mk.inj (Except.ok.inj scanned)
              rw [Switch.withValue_other (by simp [shape]) (by simp [shape]), scanFrom, shape]
              rfl
          | letters letters =>
              exact options (by rw [shape]; rfl)
                (Switch.withValue_other (by simp [shape]) (by simp [shape]) words) rfl
          | long name value =>
              have isFound : found? switches seen (Shape.of word)
                  = some (findLong (.help :: switches) seen name value) := by
                rw [shape]
                rfl
              have isOther : name ≠ switch.name := by
                rintro rfl
                obtain ⟨_, _, _, found, -⟩ := given_of_options isFound scanned
                rw [findLong_unlisted unlisted] at found
                cases found
              exact options isFound
                (Switch.withValue_other (by simp [shape]) (by simpa [shape] using isOther) words)
                rfl

end JobWatch.CommandLine
