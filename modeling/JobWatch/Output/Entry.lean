import JobWatch.Json.Writer
import JobWatch.Wire.Scalar

/-! One entry of an execution's console output. As it is sent an entry may hold several lines; its
level and context then belong to each of them.
-/

namespace JobWatch.Output

-----------------------------------------------------------------------
-- Levels
-----------------------------------------------------------------------

/-- How grave an entry is. -/
inductive Level where
  | error
  | warn
  | normal
  | verbose
  | debug
  | other
  deriving DecidableEq, Repr

namespace Level

/-- The name of a level. -/
def label : Level → String
  | .error => "ERROR"
  | .warn => "WARN"
  | .normal => "NORMAL"
  | .verbose => "VERBOSE"
  | .debug => "DEBUG"
  | .other => "OTHER"

/-- The level of a name. Every unknown name is the level `other`. -/
def ofLabel (label : String) : Level :=
  ([.error, .warn, .normal, .verbose, .debug].find? (·.label == label)).getD .other

/-- A level as it is sent. -/
def decode : Wire.Reader Level :=
  fun value => (Wire.label value).map ofLabel

/-- A level to send. -/
def encode (level : Level) : Json :=
  .string level.label

end Level

-----------------------------------------------------------------------
-- Entries
-----------------------------------------------------------------------

/-- An entry of the console output. -/
structure Entry where
  time : Option String
  level : Level
  log : String
  user : Option String
  command : Option String
  node : Option String
  deriving DecidableEq, Repr

namespace Entry

/-- The same entry with another text. -/
def withLog (entry : Entry) (log : String) : Entry :=
  { entry with log }

/-- The fields of an entry, in the order of declaration. -/
def fieldNames : List String :=
  ["time", "level", "log", "user", "command", "node"]

/-- An entry as it is sent. Every field may be left out or null. -/
def decode : Wire.Reader Entry :=
  Wire.record fieldNames fun field =>
    Entry.mk
      <$> (field "time").optional Wire.text
      <*> (field "level").either .normal Level.decode
      <*> (field "log").either "" Wire.text
      <*> (field "user").optional Wire.text
      <*> (field "command").optional Wire.text
      <*> (field "node").optional Wire.text

/-- A member that is only there for a value that is. -/
def optionalMember (name : String) : Option String → List (String × Json)
  | some text => [(name, .string text)]
  | none => []

/-- An entry to send. The user, command and node are left out when absent. -/
def encode (entry : Entry) : Json :=
  Json.record
    ([("time", .orNull (entry.time.map .string)),
        ("level", entry.level.encode),
        ("log", .string entry.log)]
      ++ optionalMember "user" entry.user
      ++ optionalMember "command" entry.command
      ++ optionalMember "node" entry.node)

end Entry

end JobWatch.Output
