import JobWatch.Json.Writer
import JobWatch.Wire.Scalar

/-! The state that an execution is in. -/

namespace JobWatch

/-- The state of an execution. -/
inductive Execution.Status where
  | running
  | succeeded
  | failed
  | aborted
  | timedOut
  | failedWithRetry
  | scheduled
  | other
  deriving DecidableEq, Repr

namespace Execution.Status

/-- The name of a state. -/
def label : Status → String
  | .running => "running"
  | .succeeded => "succeeded"
  | .failed => "failed"
  | .aborted => "aborted"
  | .timedOut => "timedout"
  | .failedWithRetry => "failed-with-retry"
  | .scheduled => "scheduled"
  | .other => "other"

/-- The state of a name. Every unknown name is the state `other`. -/
def ofLabel (label : String) : Status :=
  let known :=
    [running, succeeded, failed, aborted, timedOut, failedWithRetry, scheduled]
  (known.find? (·.label == label)).getD .other

/-- The execution will not change any more. -/
def isTerminal : Status → Bool
  | .running | .scheduled => false
  | .succeeded | .failed | .aborted | .timedOut | .failedWithRetry | .other => true

/-- A state as it is sent. -/
def decode : Wire.Reader Status :=
  fun value => (Wire.label value).map ofLabel

/-- A state to send. -/
def encode (status : Status) : Json :=
  .string status.label

end Execution.Status

end JobWatch
