import JobWatch.Number.Decimal

/-! Command lines are scanned for options: long ones behind two hyphens, single letters behind one.
What belongs to no option is a word, and so is everything behind two hyphens alone. Every option is
checked where it stands, so that a question for help counts only if nothing before it is wrong.
-/

namespace JobWatch.CommandLine

-----------------------------------------------------------------------
-- Options
-----------------------------------------------------------------------

/-- A 32-bit number without sign, which may yet be written with one. -/
def number? (text : String) : Option UInt32 :=
  (Number.signed? text.toList).bind Number.uint32?

/-- A 64-bit number without sign, which may be written with a plus sign. -/
def longNumber? (text : String) : Option UInt64 :=
  (Number.unsigned? text.toList).bind Number.uint64?

/-- What the value of an option is: a text, a number of 32 or of 64 bits, or a path. -/
inductive ValueKind where
  | text
  | number
  | longNumber
  | path
  deriving DecidableEq, Repr

/-- A text is a value of a kind. A path is never empty. -/
def ValueKind.accepts (text : String) : ValueKind → Bool
  | .text => true
  | .number => (number? text).isSome
  | .longNumber => (longNumber? text).isSome
  | .path => !text.isEmpty

/-- An option: its long name, its letter, and the kind of its value if one follows it. -/
structure Switch where
  name : String
  letter : Option Char
  kind? : Option ValueKind
  deriving DecidableEq, Repr

namespace Switch

/-- The option that asks for help. -/
def help : Switch :=
  ⟨"help", some 'h', none⟩

/-- A text may be the value of an option. -/
def accepts (switch : Switch) (text : String) : Bool :=
  switch.kind?.any (·.accepts text)

end Switch

/-- What a command line gives: an option, an option with a value, or a word. -/
inductive Given where
  | flag (name : String)
  | value (name text : String)
  | word (text : String)
  deriving DecidableEq, Repr

/-- Why a command line is not carried out: it is wrong, or it asks for help. -/
inductive Refusal where
  | invalid
  | help
  deriving DecidableEq, Repr

namespace Given

/-- The option that is given. -/
def name? : Given → Option String
  | .flag name | .value name _ => some name
  | .word _ => none

/-- The value that is given for an option. -/
def value? (given : List Given) (name : String) : Option String :=
  given.findSome? fun
    | .value other text => if other = name then some text else none
    | .flag _ | .word _ => none

/-- An option without value is given. -/
def has (given : List Given) (name : String) : Bool :=
  given.contains (.flag name)

/-- The words that are given. -/
def words (given : List Given) : List String :=
  given.filterMap fun
    | .word text => some text
    | .flag _ | .value _ _ => none

end Given

-----------------------------------------------------------------------
-- Single words
-----------------------------------------------------------------------

/-- How a word is written. A hyphen alone is an ordinary word. -/
inductive Shape where
  | separator
  | long (name : String) (value : Option String)
  | letters (letters : List Char)
  | plain
  deriving DecidableEq, Repr

/-- The way a word is written. -/
def Shape.of (word : String) : Shape :=
  match word.toList with
  | ['-', '-'] => .separator
  | '-' :: '-' :: text =>
    .long (String.ofList (text.takeWhile (· != '=')))
      (if text.contains '=' then
        some (String.ofList ((text.dropWhile (· != '=')).drop 1))
      else none)
  | ['-'] => .plain
  | '-' :: cluster => .letters cluster
  | _ => .plain

/-- What a word of options gives, and the option that waits for its value in the next word. -/
abbrev Found := List Given × Option Switch

/-- A long option, with its value if that is in the same word. No option may be seen twice. -/
def findLong (switches : List Switch) (seen : List String) (name : String)
    (value : Option String) : Except Refusal Found :=
  match switches.find? (·.name == name), value with
  | some switch, none =>
    if switch = .help then .error .help
    else if seen.contains name then .error .invalid
    else if switch.kind?.isSome then .ok ([], some switch)
    else .ok ([.flag name], none)
  | some switch, some text =>
    if !seen.contains name && switch.accepts text then .ok ([.value name text], none)
    else .error .invalid
  | none, _ => .error .invalid

/-- Options by their letters. The value of the last one may follow it at once, or behind an equals
sign.
-/
def findLetters (switches : List Switch) (seen : List String)
    : List Char → Except Refusal Found
  | [] => .ok ([], none)
  | letter :: rest =>
    match switches.find? (·.letter == some letter) with
    | some switch =>
      if switch = .help then .error .help
      else if seen.contains switch.name then .error .invalid
      else if switch.kind?.isSome then
        match rest with
        | [] => .ok ([], some switch)
        | '=' :: text | text =>
          if switch.accepts (String.ofList text) then
            .ok ([.value switch.name (String.ofList text)], none)
          else .error .invalid
      else
        (findLetters switches (switch.name :: seen) rest).map fun (given, waiting) =>
          (.flag switch.name :: given, waiting)
    | none => .error .invalid

-----------------------------------------------------------------------
-- Command lines
-----------------------------------------------------------------------

/-- What a command line gives, after an option that waits for its value if there is one, and after
the options that are seen. Scanning stops before the first word if it is to, and leaves the rest.
-/
def scanFrom (switches : List Switch) (stops : Bool) (seen : List String)
    : Option Switch → List String → Except Refusal (List Given × List String)
  | none, [] => .ok ([], [])
  | some _, [] => .error .invalid
  | some switch, word :: words =>
    match Shape.of word with
    | .plain =>
      if switch.accepts word then
        (scanFrom switches stops (switch.name :: seen) none words).map fun (given, rest) =>
          (.value switch.name word :: given, rest)
      else .error .invalid
    | .separator | .long _ _ | .letters _ => .error .invalid
  | none, word :: words =>
    let goOn (found : Except Refusal Found) :=
      match found with
      | .ok (given, waiting) =>
        (scanFrom switches stops (given.filterMap Given.name? ++ seen) waiting words).map
          fun (more, rest) => (given ++ more, rest)
      | .error refusal => .error refusal
    match Shape.of word with
    | .separator =>
      if stops then if words.isEmpty then .ok ([], []) else .error .invalid
      else .ok (words.map .word, [])
    | .long name value => goOn (findLong (.help :: switches) seen name value)
    | .letters letters => goOn (findLetters (.help :: switches) seen letters)
    | .plain =>
      if stops then .ok ([], word :: words) else goOn (.ok ([.word word], none))

/-- What a command line gives, and the rest of it if scanning stops before the first word. -/
def scan (switches : List Switch) (stops : Bool) (words : List String)
    : Except Refusal (List Given × List String) :=
  scanFrom switches stops [] none words

end JobWatch.CommandLine
