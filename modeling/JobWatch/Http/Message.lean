/-! Requests as they are sent, and what a server does about them. -/

namespace JobWatch.Http

/-- A request: its method, the path and query it asks for, and two of its headers. -/
structure Request where
  method : String
  target : String
  accept : String
  authorization : Option String
  deriving DecidableEq, Repr

/-- What a server does about a request: it closes the connection, or it sends a status and a body,
of which the end may not arrive.
-/
inductive Reply where
  | dropped
  | answered (status : Nat) (body : List UInt8) (complete : Bool)
  deriving DecidableEq, Repr

/-- The status tells that the request was granted. -/
def isSuccess (status : Nat) : Bool :=
  200 ≤ status && status < 300

/-- A response with one of these statuses has no body, whatever follows it. -/
def hasNoBody (status : Nat) : Bool :=
  status == 101 || status == 204 || status == 304

/-- A response with such a status only announces another one. -/
def isInterim (status : Nat) : Bool :=
  100 ≤ status && status < 200 && status != 101

/-- A status has three digits, and the first one is not zero. -/
def isStatus (status : Nat) : Bool :=
  100 ≤ status && status ≤ 999

/-- A value of a header: no control characters other than tab. -/
def isHeaderValue (text : List Char) : Bool :=
  text.all fun c => c == '\t' || 0x20 ≤ c.toNat && c.toNat != 0x7F

end JobWatch.Http
