import JobWatch.CommandLine.Details
import JobWatch.CommandLine.Export
import JobWatch.CommandLine.Follow

/-! The program: it reads its command line, checks its settings and carries out one command. An
interrupt ends it at the next wait, and a second one at once.
-/

namespace JobWatch.CommandLine

-----------------------------------------------------------------------
-- Commands
-----------------------------------------------------------------------

/-- A command on a script of replies and the results of its waits. -/
def Command.report (palette : Palette) (connection : Client.Connection) (storage : Storage)
    (replies : List Http.Reply) (waits : List Bool) : Command → Report
  | .follow options => options.report palette connection replies waits
  | .info id => infoReport palette connection id replies
  | .list project max offset => listReport palette connection project max offset replies
  | .exportProject project file =>
    ExportOptions.report palette connection ⟨project, file⟩ storage replies waits

/-- How many requests a command makes before the first one that a wait follows. -/
def Command.requestsBeforePolling : Command → Nat
  | .follow _ | .info _ | .list _ _ _ => 0
  | .exportProject _ _ => 1

/-- The report of settings that cannot be used. -/
def SettingsFault.report (fault : SettingsFault) : Report :=
  .failure [] ⟨fault.message, []⟩

-----------------------------------------------------------------------
-- Interrupts
-----------------------------------------------------------------------

/-- Interrupts by the user, while a request is being answered that is counted from one. -/
structure Interrupt where
  request : Nat
  twice : Bool
  deriving DecidableEq, Repr

namespace Interrupt

/-- The notice of an interrupt. -/
def notice (palette : Palette) : Effect :=
  .note
    (palette.paint .yellow
      "Interrupted, stopping after the current request (Ctrl-C again to exit now)")

/-- The results of the waits: the one after the interrupted request ends polling. -/
def waits (interrupt : Interrupt) (command : Command) : List Bool :=
  List.replicate (interrupt.request - command.requestsBeforePolling - 1) true ++ [false]

/-- The effects up to a request that is counted from one, and those after it. -/
def splitAt : Nat → List Effect → Option (List Effect × List Effect)
  | _, [] => none
  | count, .request sent :: effects =>
    if count ≤ 1 then some ([.request sent], effects)
    else (splitAt (count - 1) effects).map fun (before, after) => (.request sent :: before, after)
  | count, effect :: effects =>
    (splitAt count effects).map fun (before, after) => (effect :: before, after)

/-- A report with the interrupt in it. A second interrupt cuts it off. -/
def apply (palette : Palette) (interrupt : Interrupt) (report : Report) : Report :=
  match splitAt interrupt.request report.effects with
  | some (before, after) =>
    if interrupt.twice then ⟨before ++ [notice palette], 130⟩
    else { report with effects := before ++ notice palette :: after }
  | none => report

end Interrupt

-----------------------------------------------------------------------
-- The program
-----------------------------------------------------------------------

/-- An invocation on a script of replies. Settings that cannot be used end it at once. -/
def Invocation.report (palette : Palette) (storage : Storage) (resolver : Http.Resolver)
    (replies : List Http.Reply) (interrupt : Option Interrupt) (invocation : Invocation)
    : Report :=
  match invocation.settings.fault? with
  | some fault => fault.report
  | none =>
    let connection := invocation.settings.connection resolver
    let command := invocation.command
    match interrupt with
    | some interrupt =>
      interrupt.apply palette
        (command.report palette connection storage replies (interrupt.waits command))
    | none => command.report palette connection storage replies []

/-- The program without a terminal, or the reason why its command line is not carried out. -/
def run (words : List String) (environment : Environment) (storage : Storage)
    (resolver : Http.Resolver) (replies : List Http.Reply) (interrupt : Option Interrupt)
    : Except Refusal Report :=
  (Invocation.read words environment).map
    (Invocation.report (.choose environment false) storage resolver replies interrupt)

end JobWatch.CommandLine
