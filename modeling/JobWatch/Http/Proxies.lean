import JobWatch.Http.Host
import JobWatch.Http.Proxy
import JobWatch.Text.Blank

/-! The proxy that variables of an environment name, and the hosts that do without it. -/

namespace JobWatch.Http

-----------------------------------------------------------------------
-- Exemptions
-----------------------------------------------------------------------

/-- Hosts that do without a proxy: those in a network, or a name and all names below it. -/
inductive Exemption where
  | network (network : Network)
  | domain (name : List Char)
  deriving DecidableEq, Repr

namespace Exemption

/-- The exemptions in a list with commas. -/
def readList (text : List Char) : List Exemption :=
  ((Text.split (· == ',') text).map Text.trim).filterMap fun item =>
    ((Network.read? item).map .network)
      <|> if item.isEmpty then none else some (.domain item)

/-- A name is another one, or below it. A dot before the other one counts for nothing, and a star
stands for all names.
-/
def isWithin (name domain : List Char) : Bool :=
  let domain := domain.map Char.toLower
  let below := if domain.head? = some '.' then domain else '.' :: domain
  domain == ['*'] || name == domain || '.' :: name == domain || below.isSuffixOf name

/-- A host is among those of an exemption. -/
def covers (host : Host) : Exemption → Bool
  | .network exempt =>
    match host with
    | .address address => exempt.contains address
    | .name _ => false
  | .domain exempt =>
    match host with
    | .name name => isWithin name exempt
    | .address _ => false

end Exemption

-----------------------------------------------------------------------
-- Choice
-----------------------------------------------------------------------

/-- The proxy for requests, if there is one, and the hosts that do without it. -/
structure Proxies where
  proxy : Option Proxy
  exemptions : List Exemption
  deriving DecidableEq, Repr

namespace Proxies

/-- No proxy at all. -/
def none : Proxies :=
  ⟨.none, []⟩

/-- The proxy for a host. -/
def forHost? (proxies : Proxies) (host : Host) : Option Proxy :=
  if proxies.exemptions.any (·.covers host) then .none else proxies.proxy

/-- The value of the first variable that is set. -/
def first (environment : String → Option String) (names : List String) : List Char :=
  ((names.findSome? environment).getD "").toList

/-- The proxies that the variables name. A proxy for all kinds of requests stands in for one that
cannot be read. A program that itself serves a request uses none, since requests could name
variables.
-/
def ofVariables (environment : String → Option String) : Proxies :=
  if (environment "REQUEST_METHOD").isSome then none
  else
    { proxy :=
        Proxy.read? (first environment ["HTTP_PROXY", "http_proxy"])
          <|> Proxy.read? (first environment ["ALL_PROXY", "all_proxy"])
      exemptions := Exemption.readList (first environment ["NO_PROXY", "no_proxy"]) }

/-- The variables that count. -/
def variableNames : List String :=
  ["REQUEST_METHOD", "HTTP_PROXY", "http_proxy", "ALL_PROXY", "all_proxy", "NO_PROXY", "no_proxy"]

end Proxies

end JobWatch.Http
