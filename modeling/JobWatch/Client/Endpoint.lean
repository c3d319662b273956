import JobWatch.Client.Error
import JobWatch.Poll.Follow

/-! What the server can be asked for, and where it is. Identifiers and names are put into the path
as they are.
-/

namespace JobWatch.Client

/-- The version of the server's interface. -/
def apiVersion : Nat :=
  41

/-- What the server can be asked for. -/
inductive Endpoint where
  | execution (id : String)
  | executions (project : String) (max offset : UInt32)
  | output (id : String) (query : Poll.OutputQuery)
  | exportStart (project : String)
  | exportStatus (project token : String)
  | exportDownload (project token : String)
  deriving DecidableEq, Repr

namespace Endpoint

/-- A word in decimal. -/
def word (value : UInt32) : List Char :=
  Number.natural value.toNat

/-- A signed word in decimal. -/
def signedWord (value : Int64) : List Char :=
  Number.signed value.toInt

/-- Where the output of an execution is that a query asks for. -/
def outputQuery : Poll.OutputQuery → List Char
  | .after cursor =>
    "offset=".toList ++ signedWord cursor.offset
      ++ "&lastmod=".toList ++ signedWord cursor.lastModified
      ++ "&maxlines=".toList ++ word cursor.maxLines
      ++ "&compacted=true".toList
  | .tail lines => "tail=".toList ++ word lines ++ "&compacted=true".toList

/-- Where an endpoint is, below the root of the interface. -/
def path : Endpoint → List Char
  | execution id => "execution/".toList ++ id.toList
  | executions project max offset =>
    "project/".toList ++ project.toList
      ++ "/executions?max=".toList ++ word max ++ "&offset=".toList ++ word offset
  | output id query =>
    "execution/".toList ++ id.toList ++ "/output?".toList ++ outputQuery query
  | exportStart project => "project/".toList ++ project.toList ++ "/export/async".toList
  | exportStatus project token =>
    "project/".toList ++ project.toList ++ "/export/status/".toList ++ token.toList
  | exportDownload project token =>
    "project/".toList ++ project.toList ++ "/export/download/".toList ++ token.toList

/-- An error seen in the light of what was asked for. -/
def specify : Endpoint → Error → Error
  | execution id, error | output id _, error => error.forExecution id
  | exportStatus project token, error | exportDownload project token, error =>
    error.forExport project token
  | executions _ _ _, error | exportStart _, error => error

end Endpoint

end JobWatch.Client
