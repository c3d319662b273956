import JobWatch.Calendar.Timestamp
import JobWatch.Execution.Status

/-! An execution is one run of a job or of a single command. -/

namespace JobWatch

-----------------------------------------------------------------------
-- Jobs
-----------------------------------------------------------------------

/-- The job that an execution belongs to. -/
structure Execution.Job where
  id : String
  name : String
  group : Option String
  project : Option String
  deriving DecidableEq, Repr

namespace Execution.Job

/-- The fields of a job, in the order of declaration. -/
def fieldNames : List String :=
  ["id", "name", "group", "project"]

/-- A job as it is sent. -/
def decode : Wire.Reader Job :=
  Wire.record fieldNames fun field =>
    Job.mk
      <$> (field "id").required Wire.text
      <*> (field "name").required Wire.text
      <*> (field "group").optional Wire.text
      <*> (field "project").optional Wire.text

/-- A job to send. -/
def encode (job : Job) : Json :=
  Json.record
    [("id", .string job.id), ("name", .string job.name),
      ("group", .orNull (job.group.map .string)), ("project", .orNull (job.project.map .string))]

end Execution.Job

-----------------------------------------------------------------------
-- Dates
-----------------------------------------------------------------------

/-- An instant, once as a number of the server's own and once as a date. -/
structure Execution.DateStamp where
  unixtime : Int64
  date : Calendar.Instant
  deriving DecidableEq, Repr

namespace Execution.DateStamp

/-- The fields of a date, in the order of declaration. -/
def fieldNames : List String :=
  ["unixtime", "date"]

/-- An instant as it is sent. -/
def readDate : Wire.Reader Calendar.Instant
  | .string text =>
    match Calendar.Timestamp.read? text with
    | some instant => .ok instant
    | none => .error .malformed
  | _ => .error .malformed

/-- A date as it is sent. -/
def decode : Wire.Reader DateStamp :=
  Wire.record fieldNames fun field =>
    DateStamp.mk
      <$> (field "unixtime").required Wire.int64
      <*> (field "date").required readDate

/-- A date to send. -/
def encode (stamp : DateStamp) : Json :=
  Json.record
    [("unixtime", .ofInt stamp.unixtime.toInt),
      ("date", .string (Calendar.Timestamp.text stamp.date))]

end Execution.DateStamp

-----------------------------------------------------------------------
-- Executions
-----------------------------------------------------------------------

/-- An execution. -/
structure Execution where
  id : Int64
  status : Execution.Status
  project : String
  user : Option String
  description : Option String
  argstring : Option String
  permalink : Option String
  job : Option Execution.Job
  dateStarted : Option Execution.DateStamp
  dateEnded : Option Execution.DateStamp
  deriving DecidableEq, Repr

namespace Execution

/-- How many nanoseconds the execution took, if it has a start and an end. -/
def duration? (execution : Execution) : Option Int :=
  match execution.dateStarted, execution.dateEnded with
  | some started, some ended => some (ended.date.since started.date)
  | _, _ => none

/-- A duration in whole seconds, toward zero. -/
def wholeSeconds (duration : Int) : Int :=
  duration.tdiv 1000000000

/-- A duration in whole milliseconds, toward zero. -/
def wholeMilliseconds (duration : Int) : Int :=
  duration.tdiv 1000000

/-- The fields of an execution, in the order of declaration. -/
def fieldNames : List String :=
  ["id", "status", "project", "user", "description", "argstring", "permalink", "job",
    "date-started", "date-ended"]

/-- An execution as it is sent. All but the first three fields may be left out or null. -/
def decode : Wire.Reader Execution :=
  Wire.record fieldNames fun field =>
    Execution.mk
      <$> (field "id").required Wire.int64
      <*> (field "status").required Status.decode
      <*> (field "project").required Wire.text
      <*> (field "user").optional Wire.text
      <*> (field "description").optional Wire.text
      <*> (field "argstring").optional Wire.text
      <*> (field "permalink").optional Wire.text
      <*> (field "job").optional Job.decode
      <*> (field "date-started").optional DateStamp.decode
      <*> (field "date-ended").optional DateStamp.decode

/-- An execution to send. -/
def encode (execution : Execution) : Json :=
  Json.record
    [("id", .ofInt execution.id.toInt),
      ("status", execution.status.encode),
      ("project", .string execution.project),
      ("user", .orNull (execution.user.map .string)),
      ("description", .orNull (execution.description.map .string)),
      ("argstring", .orNull (execution.argstring.map .string)),
      ("permalink", .orNull (execution.permalink.map .string)),
      ("job", .orNull (execution.job.map Job.encode)),
      ("date-started", .orNull (execution.dateStarted.map DateStamp.encode)),
      ("date-ended", .orNull (execution.dateEnded.map DateStamp.encode))]

end Execution

end JobWatch
