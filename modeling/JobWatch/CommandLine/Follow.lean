import JobWatch.CommandLine.Effect
import JobWatch.CommandLine.Invocation

/-! The command that follows the output of an execution. -/

namespace JobWatch.CommandLine

namespace FollowOptions

/-- What is shown of an event. Markers stay on one line. -/
def shown (palette : Palette) : Output.ChannelEvent → Effect
  | .output line => .line line
  | .warning line => .note (palette.paint .yellow line)
  | .error line => .note (palette.paint .red line)
  | .progress => .out (palette.paint .dim ".")

/-- A marker was shown, so that a line is open. -/
def leavesLineOpen (steps : List (Poll.Step Poll.OutputQuery Output.ChannelEvent)) : Bool :=
  steps.contains (.event .progress)

/-- What is shown at the end. -/
def ending (palette : Palette) (options : FollowOptions)
    (result : Except Client.Error Poll.Outcome) : Report :=
  match result with
  | .ok (.completed true) =>
    .success
      (if options.router.quiet then []
      else [.line (palette.paint .green ("✓ Execution " ++ options.id ++ " succeeded"))])
  | .ok (.completed false) =>
    .failure [] ⟨"Execution " ++ options.id ++ " did not succeed", []⟩
  | .ok .cancelled =>
    .success
      [.line
        (palette.paint .yellow
          ("Stopped following execution " ++ options.id ++ " (best effort)"))]
  | .error error =>
    .failure [] (.ofError ("Failed to follow output of execution " ++ options.id) error)

/-- The whole command, on a script of replies and the results of its waits. -/
def report (palette : Palette) (connection : Client.Connection) (options : FollowOptions)
    (replies : List Http.Reply) (waits : List Bool) : Report :=
  let run :=
    Poll.follow (connection.outputService options.id) options.start options.maxLines
      options.router.events replies waits
  let told :=
    Effect.ofSteps (fun query => connection.request? (.output options.id query)) (shown palette)
      run.steps
  (ending palette options run.result).after
    (told ++ if leavesLineOpen run.steps then [.out "\n"] else [])

end FollowOptions

end JobWatch.CommandLine
