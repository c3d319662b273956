import JobWatch.Client.Endpoint
import JobWatch.Client.Response
import JobWatch.Execution.Page
import JobWatch.Http.Proxies
import JobWatch.Http.Url
import JobWatch.Poll.Track

/-! A connection to a server: which requests are made for an endpoint, and what comes of them. -/

namespace JobWatch.Client

open JobWatch.Http

/-- A server to ask, the token that requests carry, the proxies on the way, and the names that are
known.
-/
structure Connection where
  baseUrl : String
  token : Option String
  proxies : Proxies
  resolver : Resolver
  deriving DecidableEq, Repr

/-- The straight connection to a server. Slashes at the end of its address count for nothing. -/
def connect (url : String) (token : Option String) : Connection where
  baseUrl := String.ofList (Text.dropTrailing (· == '/') url.toList)
  token := token
  proxies := .none
  resolver := .all

/-- One request and what came of it: the request if it was sent, its result, and the replies that
are left.
-/
structure Exchange (α : Type) where
  request : Option Request
  result : Except Error α
  unread : List Reply

namespace Connection

/-- The text of an endpoint's address. -/
def urlText (connection : Connection) (endpoint : Endpoint) : List Char :=
  connection.baseUrl.toList ++ "/api/".toList ++ Number.natural apiVersion ++ '/' :: endpoint.path

/-- The authorization of a request: the token comes before credentials in the address. -/
def authorization (connection : Connection) (url : Url) : Option String :=
  match connection.token with
  | some token => some ("Bearer " ++ token)
  | none => url.credentials?.map ("Basic " ++ ·)

/-- The token may be sent. -/
def hasLegalToken (connection : Connection) : Bool :=
  match connection.token with
  | some token => isHeaderValue token.toList
  | none => true

/-- The address of an endpoint, if it can be asked for and the token may be sent. -/
def url? (connection : Connection) (endpoint : Endpoint) : Option Url :=
  if connection.hasLegalToken then (Url.read? (connection.urlText endpoint)).filter (·.fits)
  else none

/-- What a request to an address asks for, if it can be sent: a proxy is told the whole address, and
a server only the path and the query.
-/
def target? (connection : Connection) (url : Url) : Option (List Char) :=
  match connection.proxies.forHost? url.host with
  | some proxy =>
    if proxy.isReachable connection.resolver then some url.absoluteTarget else none
  | none => if connection.resolver.finds url.host then some url.target else none

/-- The request for an endpoint, if its address may be asked. -/
def request? (connection : Connection) (endpoint : Endpoint) : Option Request :=
  (connection.url? endpoint).bind fun url =>
    (connection.target? url).map fun target =>
      { method := "GET"
        target := String.ofList target
        accept := "application/json"
        authorization := connection.authorization url }

/-- The result of a reply to the request for an endpoint. -/
def result (endpoint : Endpoint) (read : Reply → Except Error α) (reply : Reply)
    : Except Error α :=
  (read reply).mapError endpoint.specify

/-- The exchange for an endpoint. A server without replies closes the connection. -/
def call (connection : Connection) (endpoint : Endpoint) (read : Reply → Except Error α)
    (replies : List Reply) : Exchange α :=
  match connection.request? endpoint with
  | some request => ⟨some request, result endpoint read (replies.headD .dropped), replies.tail⟩
  | none => ⟨none, .error .requestFailed, replies⟩

/-- A service whose requests are made to endpoints. -/
def service (connection : Connection) (endpoint : Asked → Endpoint)
    (read : Reply → Except Error α) : Poll.Service Asked Reply α where
  refusal? asked :=
    if (connection.request? (endpoint asked)).isSome then none else some .requestFailed
  answer asked reply := result (endpoint asked) read reply
  exhausted := .requestFailed

/-- The output of an execution as a service. -/
def outputService (connection : Connection) (id : String)
    : Poll.Service Poll.OutputQuery Reply Output.Batch :=
  connection.service (.output id) (document Output.Batch.decode)

/-- The status of a project's export as a service. -/
def statusService (connection : Connection) (project : String)
    : Poll.Service String Reply Export.Status :=
  connection.service (.exportStatus project) (document Export.Status.decode)

-----------------------------------------------------------------------
-- Single calls
-----------------------------------------------------------------------

/-- An execution. -/
def execution (connection : Connection) (id : String) : List Reply → Exchange Execution :=
  connection.call (.execution id) (document Execution.decode)

/-- A page of the executions of a project. -/
def executions (connection : Connection) (project : String) (max offset : UInt32)
    : List Reply → Exchange Execution.Page :=
  connection.call (.executions project max offset) (document Execution.Page.decode)

/-- Output of an execution. -/
def output (connection : Connection) (id : String) (query : Poll.OutputQuery)
    : List Reply → Exchange Output.Batch :=
  connection.call (.output id query) (document Output.Batch.decode)

/-- The status of an export that is started by asking for it. -/
def startExport (connection : Connection) (project : String)
    : List Reply → Exchange Export.Status :=
  connection.call (.exportStart project) (document Export.Status.decode)

/-- The status of an export. -/
def exportStatus (connection : Connection) (project token : String)
    : List Reply → Exchange Export.Status :=
  connection.call (.exportStatus project token) (document Export.Status.decode)

/-- The archive of an export. -/
def downloadExport (connection : Connection) (project token : String)
    : List Reply → Exchange (List UInt8) :=
  connection.call (.exportDownload project token) archive

end Connection

end JobWatch.Client
