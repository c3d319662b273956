import JobWatch.CommandLine.Scanner
import JobWatch.CommandLine.Settings
import JobWatch.Output.Router

/-! Command lines that are accepted, and what they ask for. -/

namespace JobWatch.CommandLine

/-- How the output of an execution is followed. -/
structure FollowOptions where
  id : String
  start : Poll.Start
  maxLines : UInt32
  router : Output.Router
  deriving DecidableEq, Repr

/-- What a command line asks for. -/
inductive Command where
  | follow (options : FollowOptions)
  | info (id : String)
  | list (project : String) (max offset : UInt32)
  | exportProject (project file : String)
  deriving DecidableEq, Repr

/-- An accepted command line. -/
structure Invocation where
  settings : Settings
  command : Command
  deriving DecidableEq, Repr

-----------------------------------------------------------------------
-- Values
-----------------------------------------------------------------------

/-- A value that has to be there. -/
def require (value : Option α) : Except Refusal α :=
  match value with
  | some value => .ok value
  | none => .error .invalid

/-- The value of an option, read, or another value if the option is not given. -/
def valueOr (given : List Given) (name : String) (read : String → Option α) (absent : α)
    : Except Refusal α :=
  match Given.value? given name with
  | some text => require (read text)
  | none => .ok absent

/-- The only word that is given. -/
def onlyWord (given : List Given) : Except Refusal String :=
  match Given.words given with
  | [word] => .ok word
  | _ => .error .invalid

/-- No word is given. -/
def noWord (given : List Given) : Except Refusal Unit :=
  if (Given.words given).isEmpty then .ok () else .error .invalid

-----------------------------------------------------------------------
-- Commands
-----------------------------------------------------------------------

/-- The options of a command that follows. -/
def followSwitches : List Switch :=
  [⟨"restart", some 'r', none⟩, ⟨"tail", some 't', some .number⟩,
    ⟨"max-lines", none, some .number⟩, ⟨"progress", none, none⟩, ⟨"quiet", some 'q', none⟩,
    ⟨"outformat", none, some .text⟩]

/-- The command that follows. It cannot both start over and start at the end. -/
def readFollow (words : List String) : Except Refusal Command := do
  let (given, _) ← scan followSwitches false words
  let id ← onlyWord given
  let lines ← valueOr given "tail" number? 1
  let maxLines ← valueOr given "max-lines" number? Output.defaultMaxLines
  let restart := Given.has given "restart"
  if restart && (Given.value? given "tail").isSome then .error .invalid
  else
    return .follow
      { id, maxLines
        start := if restart then .restart else .tail lines
        router :=
          { progress := Given.has given "progress"
            quiet := Given.has given "quiet"
            template := (Given.value? given "outformat").map Output.Template.mk } }

/-- The command that shows an execution. -/
def readInfo (words : List String) : Except Refusal Command := do
  let (given, _) ← scan [] false words
  return .info (← onlyWord given)

/-- The options of a command that lists. -/
def listSwitches : List Switch :=
  [⟨"project", some 'p', some .text⟩, ⟨"max", none, some .number⟩,
    ⟨"offset", none, some .number⟩]

/-- The command that lists. -/
def readList (words : List String) : Except Refusal Command := do
  let (given, _) ← scan listSwitches false words
  noWord given
  let project ← require (Given.value? given "project")
  let max ← valueOr given "max" number? 20
  let offset ← valueOr given "offset" number? 0
  return .list project max offset

/-- The options of a command that exports. -/
def exportSwitches : List Switch :=
  [⟨"project", some 'p', some .text⟩, ⟨"file", some 'f', some .path⟩]

/-- The command that exports. -/
def readExport (words : List String) : Except Refusal Command := do
  let (given, _) ← scan exportSwitches false words
  noWord given
  let project ← require (Given.value? given "project")
  let file ← require (Given.value? given "file")
  return .exportProject project file

-----------------------------------------------------------------------
-- Menus
-----------------------------------------------------------------------

/-- A command or a group of commands: its name, how it reads the words behind its name, and which
words behind its name help is given on.
-/
structure MenuItem where
  name : String
  read : List String → Except Refusal Command
  isTopic : List String → Bool

namespace MenuItem

/-- A single command. -/
def command (name : String) (read : List String → Except Refusal Command) : MenuItem :=
  ⟨name, read, List.isEmpty⟩

/-- Help is given on a menu, on every item of it, and on help itself. -/
def haveTopic (items : List MenuItem) : List String → Bool
  | [] => true
  | name :: words =>
    if name = "help" then words.isEmpty
    else (items.find? (·.name == name)).any (·.isTopic words)

/-- The command that the first word chooses from a menu. -/
def choose (items : List MenuItem) : List String → Except Refusal Command
  | [] => .error .invalid
  | name :: words =>
    if name = "help" then .error (if haveTopic items words then .help else .invalid)
    else
      match items.find? (·.name == name) with
      | some item => item.read words
      | none => .error .invalid

/-- A group of commands. It has no options of its own. -/
def group (name : String) (items : List MenuItem) : MenuItem where
  name := name
  read words := do
    let (_, words) ← scan [] true words
    choose items words
  isTopic := haveTopic items

end MenuItem

/-- All commands. -/
def menu : List MenuItem :=
  [.group "executions" [.command "follow" readFollow, .command "info" readInfo,
      .command "list" readList],
    .group "projects" [.command "export" readExport]]

-----------------------------------------------------------------------
-- Invocations
-----------------------------------------------------------------------

/-- The options before the command. -/
def settingsSwitches : List Switch :=
  [⟨"url", none, some .text⟩, ⟨"token", none, some .text⟩,
    ⟨"poll-interval-ms", none, some .longNumber⟩]

/-- The variables of an environment. -/
abbrev Environment := String → Option String

/-- The settings: an option counts before its variable, and the variable before the standard. -/
def readSettings (given : List Given) (environment : Environment) : Except Refusal Settings := do
  let option (name key : String) := Given.value? given name <|> environment key
  let interval ←
    match option "poll-interval-ms" "DISPATCH_POLL_INTERVAL_MS" with
    | some text => require (longNumber? text)
    | none => .ok Settings.standard.pollInterval
  return {
    serverUrl := (option "url" "DISPATCH_URL").getD Settings.standard.serverUrl
    token := option "token" "DISPATCH_TOKEN"
    pollInterval := interval
    proxies := .ofVariables environment }

/-- The invocation that a command line and an environment stand for. -/
def Invocation.read (words : List String) (environment : Environment)
    : Except Refusal Invocation := do
  let (given, words) ← scan settingsSwitches true words
  let command ← MenuItem.choose menu words
  let settings ← readSettings given environment
  return ⟨settings, command⟩

end JobWatch.CommandLine
