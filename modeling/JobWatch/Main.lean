import JobWatch.CommandLine.Program
import JobWatch.CommandLine.Usage
import JobWatch.Http.Transfer
import Std.Async.DNS
import Std.Async.Signal
import Std.Async.TCP

/-! The program on a real network, clock and terminal. What to ask, what to show and when to stop is
decided elsewhere; here it is done.
-/

namespace JobWatch.Live

open JobWatch.CommandLine

-----------------------------------------------------------------------
-- Requests
-----------------------------------------------------------------------

/-- All octets that a connection yields until it is closed. -/
partial def receiveAll (socket : Std.Async.TCP.Socket.Client) (received : ByteArray)
    : Std.Async.Async ByteArray := do
  match ← socket.recv? 65536 with
  | some octets => receiveAll socket (received ++ octets)
  | none => return received

/-- The host and the port that a request to an address is sent to. -/
def destination (url : Http.Url) (proxy? : Option Http.Proxy) : Http.Host × Nat :=
  match proxy? with
  | some proxy => (proxy.host.getD url.host, proxy.port.getD Http.Url.standardPort)
  | none => (url.host, url.port.getD Http.Url.standardPort)

/-- The name of a host as the resolver takes it. -/
def resolverName : Http.Host → String
  | .name text => String.ofList text
  | .address address => String.ofList address.text

/-- The answer of a host at a port to some octets. -/
def exchange (host : Http.Host) (port : Nat) (octets : List UInt8)
    : Std.Async.Async ByteArray := do
  let port := UInt16.ofNat port
  let addresses ← Std.Async.DNS.getAddrInfo (resolverName host) ""
  match addresses[0]? with
  | some address =>
    let socket ← Std.Async.TCP.Socket.Client.mk
    socket.connect
      (match address with
      | .v4 address => .v4 ⟨address, port⟩
      | .v6 address => .v6 ⟨address, port⟩)
    socket.send ⟨octets.toArray⟩
    receiveAll socket .empty
  | none => throw (IO.userError "unknown host")

/-- What the server does about the request for an endpoint. -/
def ask (connection : Client.Connection) (endpoint : Client.Endpoint)
    (read : Http.Reply → Except Client.Error α) : IO (Except Client.Error α) := do
  match connection.url? endpoint, connection.request? endpoint with
  | some url, some request =>
    let proxy? := connection.proxies.forHost? url.host
    let (host, port) := destination url proxy?
    let octets := request.octets (String.ofList url.authority) (proxy?.bind (·.authorization))
    let reply ←
      try
        let answer ← (exchange host port octets).block
        pure (Http.Reply.ofOctets answer.toList)
      catch _ => pure .dropped
    return Client.Connection.result endpoint read reply
  | _, _ => return .error .requestFailed

-----------------------------------------------------------------------
-- Effects
-----------------------------------------------------------------------

/-- One effect on the two streams. -/
def perform (effect : Effect) : IO Unit := do
  match effect with
  | .out text =>
    let out ← IO.getStdout
    out.putStr text
    out.flush
  | .err text => (← IO.getStderr).putStr text
  | .request _ | .store _ _ => return

/-- All effects of a report, and its status. -/
def finish (report : Report) : IO UInt32 := do
  report.effects.forM perform
  return report.status

/-- Why a file could not be written. -/
def writeFault (error : IO.Error) : String :=
  let reason (details : String) (code : UInt32) :=
    details ++ " (os error " ++ String.ofList (Number.natural code.toNat) ++ ")"
  match error with
  | .noFileOrDirectory _ code details => reason details code
  | .inappropriateType _ code details => reason details code
  | .permissionDenied _ code details => reason details code
  | .invalidArgument _ code details => reason details code
  | .resourceExhausted _ code details => reason details code
  | .otherError code details => reason details code
  | error => toString error

/-- The octets in a file, or why they could not be written. -/
def store (file : String) (octets : List UInt8) : IO (Option String) := do
  try
    IO.FS.writeBinFile file ⟨octets.toArray⟩
    return none
  catch error => return some (writeFault error)

-----------------------------------------------------------------------
-- Polling
-----------------------------------------------------------------------

/-- A task that is done, and says that polling must not go on, when the user interrupts the program.
Nothing waits for a second interrupt, which then ends the program at once.
-/
def onInterrupt (palette : Palette) : IO (Task Bool) := do
  let waiter ← Std.Async.Signal.Waiter.mk .sigint false
  BaseIO.mapTask
    (fun signal => do
      match signal with
      | .ok _ =>
        discard (perform (Interrupt.notice palette)).toBaseIO
        return false
      | .error _ => return true)
    (← waiter.wait)

/-- A wait of an interval, unless the user interrupts it. -/
def wait (interrupted : Task Bool) (interval : UInt64) : IO Bool := do
  let pause : BaseIO Bool := do
    IO.sleep (UInt32.ofNat (min interval.toNat 4294967295))
    return true
  if ← IO.hasFinished interrupted then
    if interrupted.get then pause else return false
  else IO.waitAny [interrupted, ← BaseIO.asTask pause .dedicated] (by simp)

/-- A polling loop, and what it shows on the way. -/
partial def poll (loop : Poll.Loop State Asked Answer Event)
    (ask : Asked → IO (Except Client.Error Answer)) (tell : Event → IO Unit) (wait : IO Bool)
    (state : State) : IO (Except Client.Error Poll.Outcome) := do
  match ← ask (loop.request state) with
  | .error error => return .error error
  | .ok answer =>
    (loop.events state answer).forM tell
    match loop.verdict? state answer with
    | some success => return .ok (.completed success)
    | none =>
      if ← wait then poll loop ask tell wait (loop.advance state answer)
      else return .ok .cancelled

-----------------------------------------------------------------------
-- Commands
-----------------------------------------------------------------------

/-- The command that follows. -/
def follow (palette : Palette) (connection : Client.Connection) (options : FollowOptions)
    (wait : IO Bool) : IO UInt32 := do
  let marked ← IO.mkRef false
  let result ←
    poll (Poll.following options.maxLines options.router.events)
      (fun query =>
        ask connection (.output options.id query) (Client.document Output.Batch.decode))
      (fun event => do
        if event = .progress then marked.set true
        perform (FollowOptions.shown palette event))
      wait (options.start.query options.maxLines)
  if ← marked.get then perform (.out "\n")
  finish (FollowOptions.ending palette options result)

/-- The command that exports. -/
def exportProject (palette : Palette) (connection : Client.Connection) (options : ExportOptions)
    (wait : IO Bool) : IO UInt32 := do
  let started ←
    ask connection (.exportStart options.project) (Client.document Export.Status.decode)
  match started with
  | .error error => finish (.failure [] (options.startFailure error))
  | .ok initial =>
    perform (options.opening palette)
    let result ←
      poll (Poll.tracking initial.token)
        (fun token =>
          ask connection (.exportStatus options.project token)
            (Client.document Export.Status.decode))
        (fun percentage => perform (ExportOptions.shown palette percentage)) wait
        initial.percentage
    perform (.out "\n")
    match options.stopped? palette result with
    | some report => finish report
    | none =>
      let archive ←
        ask connection (.exportDownload options.project initial.token) Client.archive
      let fault ←
        match archive with
        | .ok octets => store options.file octets
        | .error _ => pure none
      finish (options.ending palette (fun _ => fault) archive)

/-- An accepted command line. -/
def carryOut (palette : Palette) (invocation : Invocation) : IO UInt32 := do
  match invocation.settings.fault? with
  | some fault => finish fault.report
  | none =>
    let connection := invocation.settings.connection .all
    let interrupted ← onInterrupt palette
    let wait := wait interrupted invocation.settings.pollInterval
    match invocation.command with
    | .follow options => follow palette connection options wait
    | .info id =>
      let result ← ask connection (.execution id) (Client.document Execution.decode)
      finish (infoEnding palette id result)
    | .list project max offset =>
      let result ←
        ask connection (.executions project max offset) (Client.document Execution.Page.decode)
      finish (listEnding palette project result)
    | .exportProject project file => exportProject palette connection ⟨project, file⟩ wait

/-- The variables that the program looks at. -/
def variableNames : List String :=
  ["DISPATCH_URL", "DISPATCH_TOKEN", "DISPATCH_POLL_INTERVAL_MS", "CLICOLOR", "CLICOLOR_FORCE",
    "NO_COLOR"] ++ Http.Proxies.variableNames

/-- The environment of the program. -/
def environment : IO Environment := do
  let values ← variableNames.mapM fun key => return (key, ← IO.getEnv key)
  return fun key => (values.lookup key).join

end JobWatch.Live

/-- The program. A wrong command line ends with status 2. -/
def main (words : List String) : IO UInt32 := do
  let environment ← JobWatch.Live.environment
  match JobWatch.CommandLine.Invocation.read words environment with
  | .ok invocation =>
    let terminal ← (← IO.getStdout).isTty
    JobWatch.Live.carryOut (.choose environment terminal) invocation
  | .error .help =>
    (← IO.getStdout).putStr JobWatch.CommandLine.usage
    return 0
  | .error .invalid =>
    (← IO.getStderr).putStr JobWatch.CommandLine.usage
    return 2
