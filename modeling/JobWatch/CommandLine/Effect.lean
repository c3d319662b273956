import JobWatch.Client.Error
import JobWatch.Http.Message
import JobWatch.Poll.Loop

/-! What a command does, as a list: requests, text on the two streams, and files. -/

namespace JobWatch.CommandLine

-----------------------------------------------------------------------
-- Styled text
-----------------------------------------------------------------------

/-- How a text looks on a terminal. -/
inductive Style where
  | bold
  | dim
  | red
  | green
  | yellow
  | cyan
  deriving DecidableEq, Repr

/-- The control sequence that turns a style on. -/
def Style.on : Style → List Char
  | .bold => "\x1b[1m".toList
  | .dim => "\x1b[2m".toList
  | .red => "\x1b[31m".toList
  | .green => "\x1b[32m".toList
  | .yellow => "\x1b[33m".toList
  | .cyan => "\x1b[36m".toList

/-- The control sequence that turns all styles off. -/
def stylesOff : List Char :=
  "\x1b[0m".toList

/-- A text with a style turned on again wherever it is turned off. -/
def turnOnAgain (style : List Char) : List Char → List Char
  | '\x1b' :: '[' :: '0' :: 'm' :: rest => stylesOff ++ style ++ turnOnAgain style rest
  | c :: rest => c :: turnOnAgain style rest
  | [] => []

/-- Whether text is styled at all. -/
structure Palette where
  colors : Bool
  deriving DecidableEq, Repr

/-- A text in a style. -/
def Palette.paint (palette : Palette) (style : Style) (text : String) : String :=
  if palette.colors then
    String.ofList (style.on ++ turnOnAgain style.on text.toList ++ stylesOff)
  else text

/-- The palette for an environment and a terminal or no terminal. Colors can be forced, they can be
refused, and otherwise only a terminal has them.
-/
def Palette.choose (environment : String → Option String) (terminal : Bool) : Palette :=
  let isSet (key : String) := (environment key).map (· != "0")
  if isSet "CLICOLOR_FORCE" = some true then ⟨true⟩
  else if (isSet "NO_COLOR").isSome then ⟨false⟩
  else ⟨(isSet "CLICOLOR").getD true && terminal⟩

-----------------------------------------------------------------------
-- Effects
-----------------------------------------------------------------------

/-- One thing that a command does. -/
inductive Effect where
  | request (request : Http.Request)
  | out (text : String)
  | err (text : String)
  | store (file : String) (octets : List UInt8)
  deriving DecidableEq, Repr

namespace Effect

/-- A line of output. -/
def line (text : String) : Effect :=
  .out (text ++ "\n")

/-- A line of diagnostics. -/
def note (text : String) : Effect :=
  .err (text ++ "\n")

/-- The effects of a loop, where each request and each event has effects of its own. A wait has
none.
-/
def ofSteps (request : Asked → Option Http.Request) (event : Event → Effect)
    (steps : List (Poll.Step Asked Event)) : List Effect :=
  steps.flatMap fun
    | .request asked => (request asked).toList.map .request
    | .event told => [event told]
    | .wait _ => []

/-- All output, in order. -/
def output (effects : List Effect) : String :=
  String.join
    (effects.filterMap fun
      | .out text => some text
      | .request _ | .err _ | .store _ _ => none)

/-- All diagnostics, in order. -/
def diagnostics (effects : List Effect) : String :=
  String.join
    (effects.filterMap fun
      | .err text => some text
      | .request _ | .out _ | .store _ _ => none)

/-- All requests, in order. -/
def requests (effects : List Effect) : List Http.Request :=
  effects.filterMap fun
    | .request sent => some sent
    | .out _ | .err _ | .store _ _ => none

/-- All files, in order. -/
def files (effects : List Effect) : List (String × List UInt8) :=
  effects.filterMap fun
    | .store file octets => some (file, octets)
    | .request _ | .out _ | .err _ => none

end Effect

-----------------------------------------------------------------------
-- Failures
-----------------------------------------------------------------------

/-- Why a command failed: what it was about, and the causes from the nearest to the farthest. -/
structure Failure where
  context : String
  causes : List String
  deriving DecidableEq, Repr

namespace Failure

/-- A text whose later lines stand behind an indentation. -/
def hanging (indent : Nat) (text : String) : List Char :=
  text.toList.flatMap fun c => if c = '\n' then c :: List.replicate indent ' ' else [c]

/-- A cause behind its number, which stands at the end of a column. -/
def numbered (number : Nat) (cause : String) : List Char :=
  let digits := Number.natural number
  '\n' :: List.replicate (5 - digits.length) ' ' ++ digits ++ ": ".toList ++ hanging 7 cause

/-- The causes below the context. A single cause has no number. -/
def causesText : List String → List Char
  | [] => []
  | [cause] => "\n\nCaused by:\n    ".toList ++ hanging 4 cause
  | causes =>
    "\n\nCaused by:".toList
      ++ causes.zipIdx.flatMap fun (cause, number) => numbered number cause

/-- The report of a failure. -/
def report (failure : Failure) : Effect :=
  .err ("Error: " ++ failure.context ++ String.ofList (causesText failure.causes) ++ "\n")

/-- The failure of a request. A request that failed has a cause of its own below it. -/
def ofError (context : String) (error : Client.Error) : Failure :=
  match error with
  | .requestFailed => ⟨context, [error.message, "no complete answer was received"]⟩
  | error => ⟨context, [error.message]⟩

end Failure

/-- What a command does, and the status it ends with. -/
structure Report where
  effects : List Effect
  status : UInt32
  deriving DecidableEq, Repr

namespace Report

/-- A command that did what it should. -/
def success (effects : List Effect) : Report :=
  ⟨effects, 0⟩

/-- A command that failed. -/
def failure (effects : List Effect) (failure : Failure) : Report :=
  ⟨effects ++ [failure.report], 1⟩

/-- The report with more effects before it. -/
def after (report : Report) (effects : List Effect) : Report :=
  { report with effects := effects ++ report.effects }

end Report

end JobWatch.CommandLine
