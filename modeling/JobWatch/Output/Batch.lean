import JobWatch.Output.Entry
import JobWatch.Wire.Lenient

/-! A batch is one answer to a query for console output: some entries, where the next query has to
start, and how far the execution is.
-/

namespace JobWatch.Output

/-- An answer to an output query. -/
structure Batch where
  id : Option String
  message : Option String
  error : Option String
  unmodified : Bool
  empty : Bool
  offset : Int64
  completed : Bool
  execCompleted : Bool
  hasFailedNodes : Bool
  execState : String
  lastModified : Int64
  execDuration : Int64
  percentLoaded : Number.Binary64
  totalSize : Int64
  entries : List Entry
  deriving DecidableEq, Repr

namespace Batch

/-- The output has been sent to its end, and the execution is over. -/
def isDone (batch : Batch) : Bool :=
  batch.execCompleted && batch.completed

/-- The execution is reported to have succeeded. -/
def succeeded (batch : Batch) : Bool :=
  batch.execState == "succeeded"

/-- The fields of a batch, in the order of declaration. -/
def fieldNames : List String :=
  ["id", "message", "error", "unmodified", "empty", "offset", "completed", "execCompleted",
    "hasFailedNodes", "execState", "lastModified", "execDuration", "percentLoaded", "totalSize",
    "entries"]

/-- A batch as it is sent. Every field may be left out or null. -/
def decode : Wire.Reader Batch :=
  Wire.record fieldNames fun field =>
    Batch.mk
      <$> (field "id").orElse none Wire.lenientText
      <*> (field "message").optional Wire.text
      <*> (field "error").optional Wire.text
      <*> (field "unmodified").either false Wire.bool
      <*> (field "empty").either false Wire.bool
      <*> (field "offset").orElse 0 Wire.lenientInteger
      <*> (field "completed").either false Wire.bool
      <*> (field "execCompleted").either false Wire.bool
      <*> (field "hasFailedNodes").either false Wire.bool
      <*> (field "execState").either "" Wire.text
      <*> (field "lastModified").orElse 0 Wire.lenientInteger
      <*> (field "execDuration").orElse 0 Wire.lenientInteger
      <*> (field "percentLoaded").either ⟨false, 0⟩ Wire.binary64
      <*> (field "totalSize").orElse 0 Wire.lenientInteger
      <*> (field "entries").either [] (Wire.list Entry.decode)

/-- The members of a batch to send, all but the share that is loaded. -/
def members (batch : Batch) : List (String × Json) :=
  [("id", .orNull (batch.id.map .string)),
    ("message", .orNull (batch.message.map .string)),
    ("error", .orNull (batch.error.map .string)),
    ("unmodified", .bool batch.unmodified),
    ("empty", .bool batch.empty),
    ("offset", .ofInt batch.offset.toInt),
    ("completed", .bool batch.completed),
    ("execCompleted", .bool batch.execCompleted),
    ("hasFailedNodes", .bool batch.hasFailedNodes),
    ("execState", .string batch.execState),
    ("lastModified", .ofInt batch.lastModified.toInt),
    ("execDuration", .ofInt batch.execDuration.toInt),
    ("totalSize", .ofInt batch.totalSize.toInt),
    ("entries", .array (batch.entries.map Entry.encode) true)]

/-- A batch to send. The share that is loaded is for display only and is left out. -/
def encode (batch : Batch) : Json :=
  Json.record batch.members

end Batch

end JobWatch.Output
