import JobWatch.Client.Error
import JobWatch.Http.Transfer
import JobWatch.Json.Reader
import JobWatch.Text.Marked
import JobWatch.Wire.Record

/-! What is made of a reply: a document, an archive or an error. -/

namespace JobWatch.Client

open JobWatch.Http

/-- The error of a refusal. Its message is the body as text, if all of it arrived. -/
def refusal (status : Nat) (body : List UInt8) (complete : Bool) : Error :=
  .answered status (if complete then String.ofList (Text.Marked.decode body) else "Unknown error")

/-- The error of a granted request whose body is not the document that was asked for. -/
def undecodable : Error :=
  .unreadable "Failed to parse JSON response: error decoding response body"

/-- The result of a reply that arrives. The body of a refusal is never read any further. -/
def accept (onBody : List UInt8 → Bool → Except Error α) (reply : Reply) : Except Error α :=
  match reply.received with
  | .dropped => .error .requestFailed
  | .answered status body complete =>
    if isSuccess status then onBody body complete else .error (refusal status body complete)

/-- The document of a reply. -/
def document (read : Wire.Reader α) : Reply → Except Error α :=
  accept fun body complete =>
    if complete then
      match Wire.document read (Json.read (Text.Utf8.decode body)) with
      | .ok value => .ok value
      | .error _ => .error undecodable
    else .error undecodable

/-- The archive of a reply. -/
def archive : Reply → Except Error (List UInt8) :=
  accept fun body complete => if complete then .ok body else .error .requestFailed

end JobWatch.Client
