import JobWatch.Client.Connection
import JobWatch.Poll.Wait

/-! Which server a command talks to, and how often it asks. -/

namespace JobWatch.CommandLine

/-- The server, the token for it, the milliseconds between two polls, and the proxies on the way. -/
structure Settings where
  serverUrl : String
  token : Option String
  pollInterval : UInt64
  proxies : Http.Proxies
  deriving DecidableEq, Repr

/-- Why settings cannot be used. -/
inductive SettingsFault where
  | emptyUrl
  | unknownScheme
  | noInterval
  deriving DecidableEq, Repr

/-- A fault in words. -/
def SettingsFault.message : SettingsFault → String
  | .emptyUrl => "server URL cannot be empty"
  | .unknownScheme => "server URL must start with http:// or https://"
  | .noInterval => "poll interval must be greater than 0"

namespace Settings

/-- The settings when nothing is said. -/
def standard : Settings :=
  ⟨"http://localhost:4440", none, UInt64.ofNat Poll.defaultInterval, .none⟩

/-- The URL starts like one of a web server. -/
def hasKnownScheme (settings : Settings) : Bool :=
  "http://".toList.isPrefixOf settings.serverUrl.toList
    || "https://".toList.isPrefixOf settings.serverUrl.toList

/-- The first fault of the settings. -/
def fault? (settings : Settings) : Option SettingsFault :=
  if settings.serverUrl.isEmpty then some .emptyUrl
  else if !settings.hasKnownScheme then some .unknownScheme
  else if settings.pollInterval = 0 then some .noInterval
  else none

/-- The connection to the server, where some names are known. -/
def connection (settings : Settings) (resolver : Http.Resolver) : Client.Connection :=
  { Client.connect settings.serverUrl settings.token with
    proxies := settings.proxies
    resolver := resolver }

end Settings

end JobWatch.CommandLine
