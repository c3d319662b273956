import JobWatch.Number.Decimal

/-! What can come of a request instead of an answer. None of it is ever tried again. -/

namespace JobWatch.Client

/-- Why a request gave no answer. A failed request ended before a status was received, or in the
middle of an archive.
-/
inductive Error where
  | requestFailed
  | answered (status : Nat) (message : String)
  | unreadable (detail : String)
  | unknownExecution (id : String)
  | unknownExport (project token : String)
  deriving DecidableEq, Repr

namespace Error

/-- An error in words. -/
def message : Error → String
  | .requestFailed => "HTTP request failed"
  | .answered status message =>
    "server answered " ++ String.ofList (Number.natural status) ++ ": " ++ message
  | .unreadable detail => "unreadable response: " ++ detail
  | .unknownExecution id => "execution " ++ id ++ " does not exist"
  | .unknownExport project token =>
    "export " ++ token ++ " of project " ++ project ++ " is unknown or expired"

/-- What was asked for does not exist. -/
def isNotFound : Error → Bool
  | .answered status _ => status == 404
  | .unknownExecution _ | .unknownExport _ _ => true
  | .requestFailed | .unreadable _ => false

/-- The server blames the request. -/
def isClientError : Error → Bool
  | .answered status _ => 400 ≤ status && status < 500
  | .unknownExecution _ | .unknownExport _ _ => true
  | .requestFailed | .unreadable _ => false

/-- The server blames itself. -/
def isServerError : Error → Bool
  | .answered status _ => 500 ≤ status
  | .requestFailed | .unreadable _ | .unknownExecution _ | .unknownExport _ _ => false

/-- The status 404 on a request about an execution means that there is no such execution. -/
def forExecution (id : String) : Error → Error
  | .answered 404 _ => .unknownExecution id
  | error => error

/-- The status 404 on a request about an export means that there is no such export. -/
def forExport (project token : String) : Error → Error
  | .answered 404 _ => .unknownExport project token
  | error => error

end Error

end JobWatch.Client
