import JobWatch.Http.Authority
import JobWatch.Http.Resolver
import JobWatch.Text.Base64

/-! Proxies, which requests are sent to instead of their servers, and how they are named. -/

namespace JobWatch.Http

/-- A proxy: whether it is only spoken to in secret, the name and the password for it as an
authorization, its host if it names one, and its port.
-/
structure Proxy where
  isSecret : Bool
  authorization : Option String
  host : Option Host
  port : Option Nat
  deriving DecidableEq, Repr

namespace Proxy

/-- Requests can be sent to the proxy. -/
def isReachable (resolver : Resolver) (proxy : Proxy) : Bool :=
  !proxy.isSecret && proxy.host.any resolver.finds

/-- What stands before and behind two slashes with a colon, if a scheme stands there. -/
def splitScheme (text : List Char) : Option (List Char) × List Char :=
  let isSchemeChar (c : Char) := c.isAlphanum || c == '+' || c == '-' || c == '.'
  match text.dropWhile isSchemeChar with
  | ':' :: '/' :: '/' :: rest => (some (text.takeWhile isSchemeChar), rest)
  | _ => (none, text)

/-- Whether the scheme of a proxy asks for secrecy, if it is one. -/
def isSecretScheme? (scheme : List Char) : Option Bool :=
  let plain := scheme.map Char.toLower
  if plain = "https".toList then some true
  else if plain = "http".toList then some false
  else if ["socks4", "socks4a", "socks5", "socks5h"].any (·.toList == scheme) then some false
  else none

/-- The name and the password before a host, as an authorization. -/
def authorization? (userinfo : Option (List Char)) : Option String :=
  userinfo.map fun userinfo =>
    let plain (text : List Char) :=
      Text.Utf8.encode (Text.Utf8.decodeLossy (Percent.decode (Text.Utf8.encode text)))
    let name := plain (userinfo.takeWhile (· != ':'))
    let password := plain ((userinfo.dropWhile (· != ':')).drop 1)
    "Basic " ++ String.ofList (Text.Base64.encode (name ++ 0x3A :: password))

/-- The port behind a host, if it is one. -/
def port? (text : List Char) : Option Nat :=
  match text with
  | ':' :: digits => (Number.unsigned? digits).filter (· < 65536)
  | _ => none

/-- The proxy of a host and a port, with something before an at sign or not. What stands before the
first at sign are the credentials.
-/
def ofAuthority? (isSecret : Bool) (text : List Char) : Option Proxy :=
  let hasUserinfo := text.contains '@'
  let rest := if hasUserinfo then (text.dropWhile (· != '@')).drop 1 else text
  let userinfo := if hasUserinfo then some (text.takeWhile (· != '@')) else none
  if isAuthority text && isAuthority rest then
    let server := (rest.reverse.takeWhile (· != '@')).reverse
    let host :=
      if server.head? = some '[' then server.takeWhile (· != ']') ++ [']']
      else server.takeWhile (· != ':')
    some
      ⟨isSecret, authorization? userinfo, Host.read? host, port? (server.drop host.length)⟩
  else none

/-- A character that may stand in a path behind a host. -/
def isPathChar (c : Char) : Bool :=
  0x20 < c.toNat && !"#<>?\x60".toList.contains c

/-- A character that may stand in a query. -/
def isQueryChar (c : Char) : Bool :=
  0x20 < c.toNat && !"\"#<>".toList.contains c

/-- A path and a query behind a host. What follows a number sign does not count. -/
def isPathAndQuery (text : List Char) : Bool :=
  let text := text.takeWhile (· != '#')
  (text.takeWhile (· != '?')).all isPathChar
    && ((text.dropWhile (· != '?')).drop 1).all isQueryChar

/-- The proxy that a text names: an address with a scheme, or a host alone, which is no star. -/
def read? (text : List Char) : Option Proxy :=
  match splitScheme text with
  | (some scheme, rest) =>
    let endsAuthority (c : Char) := c == '/' || c == '?' || c == '#'
    match isSecretScheme? scheme, isPathAndQuery (rest.dropWhile (!endsAuthority ·)) with
    | some isSecret, true => ofAuthority? isSecret (rest.takeWhile (!endsAuthority ·))
    | _, _ => none
  | (none, text) => if text = ['*'] then none else ofAuthority? false text

end Proxy

end JobWatch.Http
