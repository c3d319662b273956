import JobWatch.Http.Head
import JobWatch.Number.Radix

/-! Requests and responses as octets on a connection that serves a single request. The response
ends where it says, or else where the server closes the connection, and is complete if nothing it
announced is missing.
-/

namespace JobWatch.Http

-----------------------------------------------------------------------
-- Requests
-----------------------------------------------------------------------

/-- One line of a request. -/
def headLine (text : String) : List UInt8 :=
  Text.Utf8.encode (text.toList ++ ['\r', '\n'])

/-- A line for a header, if there is something to say. -/
def optionalLine (name : String) (value? : Option String) : List UInt8 :=
  match value? with
  | some value => headLine (name ++ ": " ++ value)
  | none => []

/-- A request about a host, which is to close the connection after its response. A proxy may want
credentials of its own.
-/
def Request.octets (request : Request) (host : String) (proxyCredentials? : Option String)
    : List UInt8 :=
  headLine (request.method ++ " " ++ request.target ++ " HTTP/1.1")
    ++ headLine ("host: " ++ host)
    ++ headLine ("accept: " ++ request.accept)
    ++ optionalLine "authorization" request.authorization
    ++ optionalLine "proxy-authorization" proxyCredentials?
    ++ headLine "connection: close"
    ++ headLine ""

-----------------------------------------------------------------------
-- Bodies
-----------------------------------------------------------------------

/-- How the end of a body is found: by its length, by its last chunk, or as the end of the
connection.
-/
inductive Extent where
  | length (size : Nat)
  | chunks
  | connection
  deriving DecidableEq, Repr

/-- The length that all parts of all values agree on. -/
def commonLength? (values : List (List Char)) : Option Nat :=
  let parts := values.flatMap fun value => (Text.split (· == ',') value).map bare
  match parts.mapM Number.natural? with
  | some (size :: others) =>
    if others.all (· == size) && size < UInt64.size - 2 then some size else none
  | _ => none

/-- How the end of the body behind a head is found, unless the head is at odds with itself. -/
def Head.extent? (head : Head) : Option Extent :=
  match (head.values "transfer-encoding").getLast?, head.values "content-length" with
  | some encodings, _ =>
    let last := (Text.split (· == ',') encodings).getLastD []
    if !head.isLatest then none
    else if (bare last).map Char.toLower = "chunked".toList then some .chunks
    else some .connection
  | none, [] => some .connection
  | none, values => (commonLength? values).map .length

/-- The size of a chunk, in the line before it. A carriage return has to stand at its end. -/
def chunkSize? (line : List UInt8) : Option Nat :=
  let digits := Text.dropTrailing isSpace ((lineText line).takeWhile (· != ';'))
  if digits.isEmpty || line.getLast? != some 13 then none else Number.naturalIn? 16 digits

/-- The octets of at most so many chunks, and whether the last one was among them. Behind it there
may be more lines, up to an empty one.
-/
def joinChunks : Nat → List UInt8 → List UInt8 × Bool
  | 0, _ => ([], false)
  | most + 1, octets =>
    match takeLine? octets with
    | some (line, behind) =>
      match chunkSize? line with
      | some 0 => ([], (takeLines? (behind.length + 1) behind).isSome)
      | some size =>
        match behind.drop size with
        | 13 :: 10 :: behindChunk =>
          let (rest, complete) := joinChunks most behindChunk
          (behind.take size ++ rest, complete)
        | _ => (behind.take size, false)
      | none => ([], false)
    | none => ([], false)

/-- The body with an extent, and whether it is complete. -/
def Extent.body (extent : Extent) (octets : List UInt8) : List UInt8 × Bool :=
  match extent with
  | .length size => (octets.take size, size ≤ octets.length)
  | .chunks => joinChunks octets.length octets
  | .connection => (octets, true)

-----------------------------------------------------------------------
-- Replies
-----------------------------------------------------------------------

namespace Reply

/-- The reply that the octets of a connection make up behind at most so many that only announce
it.
-/
def ofOctetsBehind : Nat → List UInt8 → Reply
  | 0, _ => .dropped
  | most + 1, octets =>
    match takeHead? octets with
    | some (head, behind) =>
      if !isStatus head.status then .dropped
      else if isInterim head.status then ofOctetsBehind most behind
      else if hasNoBody head.status then .answered head.status [] true
      else
        match head.extent? with
        | some extent =>
          let (body, complete) := extent.body behind
          .answered head.status body complete
        | none => .dropped
    | none => .dropped

/-- The reply that the octets of a connection make up. -/
def ofOctets (octets : List UInt8) : Reply :=
  ofOctetsBehind octets.length octets

/-- What arrives of a reply. What looks like the body of an announcement is the reply itself. -/
def received : Reply → Reply
  | .dropped => .dropped
  | .answered status body complete =>
    if !isStatus status then .dropped
    else if isInterim status then ofOctets body
    else if hasNoBody status then .answered status [] true
    else .answered status body complete

end Reply

end JobWatch.Http
