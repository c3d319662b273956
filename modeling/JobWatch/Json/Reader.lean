import JobWatch.Json.Value
import JobWatch.Text.Utf16

/-! JSON is read one character at a time by a machine with a stack of open containers. A place
where the text is not JSON stops it; what was read until then stays a value. A `none` among the
characters stands for octets that encode no character.
-/

namespace JobWatch.Json

-----------------------------------------------------------------------
-- Strings
-----------------------------------------------------------------------

/-- Where a string stands within an escape. -/
inductive Escape where
  | outside
  | begun
  | unit (digits : Nat) (value : Nat)

/-- A string under way: its characters in reverse, whether all of it stands for text so far, and
the first half of a surrogate pair that still lacks its second.
-/
structure TextScan where
  reversed : List Char
  sound : Bool
  high : Option Nat
  escape : Escape

namespace TextScan

/-- A string of which nothing is read. -/
def start : TextScan :=
  ⟨[], true, none, .outside⟩

/-- One more character. It may not stand behind half of a surrogate pair. -/
def push (scan : TextScan) (c : Char) : TextScan :=
  { reversed := c :: scan.reversed
    sound := scan.sound && scan.high.isNone
    high := none
    escape := .outside }

/-- One more UTF-16 unit from an escape. -/
def pushUnit (scan : TextScan) (unit : Nat) : TextScan :=
  match scan.high with
  | some high =>
    if Text.Utf16.isLow unit then
      { scan with
        reversed := Text.Utf16.pair high unit :: scan.reversed
        high := none
        escape := .outside }
    else { scan with sound := false, high := none, escape := .outside }
  | none =>
    if Text.Utf16.isHigh unit then { scan with high := some unit, escape := .outside }
    else if Text.Utf16.isLow unit then { scan with sound := false, escape := .outside }
    else scan.push (Char.ofNat unit)

/-- The text of a finished string, if it stands for one. -/
def text? (scan : TextScan) : Option String :=
  if scan.sound && scan.high.isNone then some (String.ofList scan.reversed.reverse) else none

end TextScan

/-- What a letter behind a backslash stands for. -/
def escaped? : Char → Option Char
  | '"' => some '"'
  | '\\' => some '\\'
  | '/' => some '/'
  | 'b' => some '\x08'
  | 'f' => some '\x0c'
  | 'n' => some '\n'
  | 'r' => some '\r'
  | 't' => some '\t'
  | _ => none

/-- The value of a hexadecimal digit. -/
def hexDigit? (c : Char) : Option Nat :=
  if '0' ≤ c ∧ c ≤ '9' then some (c.toNat - 48)
  else if 'a' ≤ c ∧ c ≤ 'f' then some (c.toNat - 87)
  else if 'A' ≤ c ∧ c ≤ 'F' then some (c.toNat - 55)
  else none

/-- A string after one more character: still under way, closed, or no string. -/
inductive TextStep where
  | more (scan : TextScan)
  | closed (text : Option String)
  | stop

/-- One character of a string. -/
def TextScan.step (scan : TextScan) (symbol : Option Char) : TextStep :=
  match scan.escape, symbol with
  | .outside, some c =>
    if c = '"' then .closed scan.text?
    else if c = '\\' then .more { scan with escape := .begun }
    else if c.toNat < 0x20 then .stop
    else .more (scan.push c)
  | .outside, none => .more { scan with sound := false }
  | .begun, some c =>
    if c = 'u' then .more { scan with escape := .unit 0 0 }
    else
      match escaped? c with
      | some meant => .more (scan.push meant)
      | none => .stop
  | .unit digits value, some c =>
    match hexDigit? c with
    | some digit =>
      let value := 16 * value + digit
      if digits = 3 then .more (scan.pushUnit value)
      else .more { scan with escape := .unit (digits + 1) value }
    | none => .stop
  | _, none => .stop

-----------------------------------------------------------------------
-- Numbers
-----------------------------------------------------------------------

/-- What the last character of a number was. -/
inductive NumeralStage where
  | sign
  | zero
  | whole
  | point
  | fraction
  | mark
  | markSign
  | exponent

/-- A number under way, its digit runs in reverse. -/
structure NumeralScan where
  stage : NumeralStage
  negative : Bool
  whole : List (Fin 10)
  fraction : List (Fin 10)
  exponentNegative : Bool
  exponent : List (Fin 10)

/-- A number after one more character: still under way, finished before that character, or no
number.
-/
inductive NumeralStep where
  | more (scan : NumeralScan)
  | finished
  | stop

namespace NumeralScan

/-- A number of which the sign is read. -/
def start (negative : Bool) : NumeralScan :=
  ⟨.sign, negative, [], [], false, []⟩

/-- One more digit. A number that starts with zero has no further whole digits. -/
def pushDigit (scan : NumeralScan) (digit : Fin 10) : NumeralStep :=
  match scan.stage with
  | .sign =>
    .more { scan with
      stage := if digit.val = 0 then .zero else .whole
      whole := [digit] }
  | .zero => .stop
  | .whole => .more { scan with whole := digit :: scan.whole }
  | .point | .fraction =>
    .more { scan with stage := .fraction, fraction := digit :: scan.fraction }
  | .mark | .markSign | .exponent =>
    .more { scan with stage := .exponent, exponent := digit :: scan.exponent }

/-- A number may end here. -/
def mayEnd (scan : NumeralScan) : Bool :=
  match scan.stage with
  | .zero | .whole | .fraction | .exponent => true
  | .sign | .point | .mark | .markSign => false

/-- One character behind the start of a number. -/
def step (scan : NumeralScan) (symbol : Option Char) : NumeralStep :=
  match symbol.bind Number.digit?, symbol, scan.stage with
  | some digit, _, _ => scan.pushDigit digit
  | none, some '.', .zero | none, some '.', .whole => .more { scan with stage := .point }
  | none, some 'e', .zero | none, some 'e', .whole | none, some 'e', .fraction
  | none, some 'E', .zero | none, some 'E', .whole | none, some 'E', .fraction =>
    .more { scan with stage := .mark }
  | none, some '+', .mark => .more { scan with stage := .markSign }
  | none, some '-', .mark => .more { scan with stage := .markSign, exponentNegative := true }
  | none, _, _ => if scan.mayEnd then .finished else .stop

/-- The number that was read. -/
def numeral (scan : NumeralScan) : Numeral :=
  let size : Int := Number.ofDigits scan.exponent.reverse
  { negative := scan.negative
    whole := scan.whole.reverse
    fraction := scan.fraction.reverse
    exponent :=
      if scan.exponent.isEmpty then none
      else some (if scan.exponentNegative then -size else size) }

end NumeralScan

-----------------------------------------------------------------------
-- Containers
-----------------------------------------------------------------------

/-- The members of an object that are read. -/
abbrev Members := List (Option String × Json)

/-- A container that waits for a value: its items, or its members and the key of the next one,
each in reverse.
-/
inductive Frame where
  | items (done : List Json)
  | members (done : Members) (key : Option String)

/-- What the next character has to belong to. -/
inductive Focus where
  | value
  | firstItem
  | afterItem (done : List Json)
  | key (done : Members) (mayClose : Bool)
  | keyText (done : Members) (scan : TextScan)
  | colon (done : Members) (key : Option String)
  | afterMember (done : Members)
  | word (left : List Char) (value : Json)
  | numeral (scan : NumeralScan)
  | text (scan : TextScan)
  | finished (value : Json)
  | stopped (document : Document)

/-- The machine: the containers that wait for a value, innermost first, and its focus. -/
structure Reader where
  frames : List Frame
  focus : Focus

/-- The document when the innermost value is all that could be read: every container around it
stays open.
-/
def abandon (value : Json) : List Frame → Document
  | [] => ⟨value, false⟩
  | .items done :: frames => abandon (.array (value :: done).reverse false) frames
  | .members done key :: frames =>
    abandon (.object ((key, value) :: done).reverse false) frames

namespace Reader

/-- The machine before the first character. -/
def start : Reader :=
  ⟨[], .value⟩

/-- The document if nothing more is read. Only a finished value makes a whole document. -/
def cut (reader : Reader) : Document :=
  match reader.focus with
  | .value | .word _ _ | .numeral _ | .text _ => abandon .broken reader.frames
  | .firstItem => abandon (.array [] false) reader.frames
  | .afterItem done => abandon (.array done.reverse false) reader.frames
  | .key done _ | .keyText done _ | .afterMember done =>
    abandon (.object done.reverse false) reader.frames
  | .colon done key => abandon (.object ((key, .broken) :: done).reverse false) reader.frames
  | .finished value => ⟨value, true⟩
  | .stopped document => document

/-- The machine stops at a character that cannot stand here. -/
def stop (reader : Reader) : Reader :=
  ⟨[], .stopped reader.cut⟩

/-- A value is complete. -/
def complete (value : Json) : List Frame → Reader
  | [] => ⟨[], .finished value⟩
  | .items done :: frames => ⟨frames, .afterItem (value :: done)⟩
  | .members done key :: frames => ⟨frames, .afterMember ((key, value) :: done)⟩

/-- The characters that may stand between tokens. -/
def isSpace (c : Char) : Bool :=
  c == ' ' || c == '\t' || c == '\n' || c == '\r'

/-- The first character of a value. -/
def begin (reader : Reader) (c : Char) : Reader :=
  match c with
  | '[' => { reader with focus := .firstItem }
  | '{' => { reader with focus := .key [] true }
  | '"' => { reader with focus := .text .start }
  | 'n' => { reader with focus := .word "ull".toList .null }
  | 't' => { reader with focus := .word "rue".toList (.bool true) }
  | 'f' => { reader with focus := .word "alse".toList (.bool false) }
  | '-' => { reader with focus := .numeral (.start true) }
  | c =>
    match (NumeralScan.start false).step (some c) with
    | .more scan => { reader with focus := .numeral scan }
    | .finished | .stop => stop { reader with focus := .value }

/-- One character between tokens. -/
def between (reader : Reader) (c : Char) : Reader :=
  match reader.focus, c with
  | .value, c => reader.begin c
  | .firstItem, ']' => complete (.array [] true) reader.frames
  | .firstItem, c => begin { reader with frames := .items [] :: reader.frames } c
  | .afterItem done, ',' => ⟨.items done :: reader.frames, .value⟩
  | .afterItem done, ']' => complete (.array done.reverse true) reader.frames
  | .key done true, '}' => complete (.object done.reverse true) reader.frames
  | .key done _, '"' => { reader with focus := .keyText done .start }
  | .colon done key, ':' => ⟨.members done key :: reader.frames, .value⟩
  | .afterMember done, ',' => { reader with focus := .key done false }
  | .afterMember done, '}' => complete (.object done.reverse true) reader.frames
  | _, _ => reader.stop

/-- One character, when no number is under way. -/
def advance (reader : Reader) (symbol : Option Char) : Reader :=
  match reader.focus, symbol with
  | .stopped _, _ => reader
  | .text scan, symbol =>
    match scan.step symbol with
    | .more scan => { reader with focus := .text scan }
    | .closed (some text) => complete (.string text) reader.frames
    | .closed none => complete .garbled reader.frames
    | .stop => reader.stop
  | .keyText done scan, symbol =>
    match scan.step symbol with
    | .more scan => { reader with focus := .keyText done scan }
    | .closed text => { reader with focus := .colon done text }
    | .stop => reader.stop
  | .word left value, some c =>
    match left with
    | [last] => if c = last then complete value reader.frames else reader.stop
    | next :: left =>
      if c = next then { reader with focus := .word left value } else reader.stop
    | [] => reader.stop
  | _, some c => if isSpace c then reader else reader.between c
  | _, none => reader.stop

/-- One character. It may be the first one behind a number. -/
def step (reader : Reader) (symbol : Option Char) : Reader :=
  match reader.focus with
  | .numeral scan =>
    match scan.step symbol with
    | .more scan => { reader with focus := .numeral scan }
    | .finished => (complete (.number scan.numeral) reader.frames).advance symbol
    | .stop => reader.stop
  | _ => reader.advance symbol

/-- The document when the text is at its end. -/
def finish (reader : Reader) : Document :=
  match reader.focus with
  | .numeral scan =>
    if scan.mayEnd then
      match complete (.number scan.numeral) reader.frames with
      | ⟨_, .finished value⟩ => ⟨value, false⟩
      | reader => reader.cut
    else reader.cut
  | .finished value => ⟨value, false⟩
  | _ => reader.cut

end Reader

/-- The document that a text holds. -/
def read (text : List (Option Char)) : Document :=
  (text.foldl Reader.step .start).finish

/-- The document that a string holds. -/
def ofText (text : String) : Document :=
  read (text.toList.map some)

end JobWatch.Json
