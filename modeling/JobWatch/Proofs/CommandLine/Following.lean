import JobWatch.Proofs.CommandLine.Effects
import JobWatch.Proofs.Poll.ReceivedBatches

/-! The command that follows an output, told by the run behind it: what it asks for, and what it
shows of the batches that it is answered with.
-/

namespace JobWatch.CommandLine.FollowOptions

-----------------------------------------------------------------------
-- Batches on the screen
-----------------------------------------------------------------------

/-- The batch that a reply brings, if it brings one. -/
def batch? (reply : Http.Reply) : Option Output.Batch :=
  (Client.document Output.Batch.decode reply).toOption

/-- The service behind the command answers with the batches that replies bring. -/
theorem outputService_reads (connection : Client.Connection) (id : String)
    (query : Poll.OutputQuery) (reply : Http.Reply) (batch : Output.Batch)
    : (connection.outputService id).answer query reply = .ok batch ↔ batch? reply = some batch := by
  rw [Client.Connection.outputService, Client.Connection.service_reads, batch?]
  cases Client.document Output.Batch.decode reply <;> simp [Except.toOption]

/-- What batches come to on the channels. -/
def told (options : FollowOptions) (batches : List Output.Batch) : List Output.ChannelEvent :=
  batches.flatMap fun batch => options.router.events (Output.decompact batch.entries)

/-- What is shown of batches. -/
def shownOf (palette : Palette) (options : FollowOptions) (batches : List Output.Batch)
    : List Effect :=
  (options.told batches).map (shown palette)

/-- The end of the line of markers that batches leave open. -/
def lineEnd (options : FollowOptions) (batches : List Output.Batch) : String :=
  if (options.told batches).contains .progress then "\n" else ""

/-- The run behind the command. -/
def run (connection : Client.Connection) (options : FollowOptions) (replies : List Http.Reply)
    (waits : List Bool) : Poll.Run Poll.OutputQuery Output.ChannelEvent Http.Reply :=
  Poll.follow (connection.outputService options.id) options.start options.maxLines
    options.router.events replies waits

-----------------------------------------------------------------------
-- The effects of the command
-----------------------------------------------------------------------

theorem shown_isText (palette : Palette) (event : Output.ChannelEvent)
    : (shown palette event).isText := by
  cases event <;> rfl

theorem ending_texts (palette : Palette) (options : FollowOptions)
    (result : Except Client.Error Poll.Outcome)
    : ∀ effect ∈ (ending palette options result).effects, effect.isText := by
  rcases result with error | (_ | _) | _ <;>
    simp [ending, Report.success, Report.failure, Failure.report, Effect.line, Effect.isText]

/-- The effects of the command: those of its run, the end of an open line, and the ending. -/
theorem report_effects (palette : Palette) (connection : Client.Connection)
    (options : FollowOptions) (replies : List Http.Reply) (waits : List Bool)
    : (options.report palette connection replies waits).effects
      = Effect.ofSteps (fun query => connection.request? (.output options.id query))
          (shown palette) (options.run connection replies waits).steps
        ++ (if leavesLineOpen (options.run connection replies waits).steps then [.out "\n"] else [])
        ++ (ending palette options (options.run connection replies waits).result).effects :=
  rfl

theorem report_status (palette : Palette) (connection : Client.Connection)
    (options : FollowOptions) (replies : List Http.Reply) (waits : List Bool)
    : (options.report palette connection replies waits).status
      = (ending palette options (options.run connection replies waits).result).status :=
  rfl

theorem leavesLineOpen_eq (steps : List (Poll.Step Poll.OutputQuery Output.ChannelEvent))
    : leavesLineOpen steps = (Poll.told steps).contains .progress := by
  rw [Bool.eq_iff_iff, leavesLineOpen, List.contains_iff_mem, List.contains_iff_mem, Poll.mem_told]

/-- The command sends what its run asks for, and nothing else. -/
theorem requests_report (palette : Palette) (connection : Client.Connection)
    (options : FollowOptions) (replies : List Http.Reply) (waits : List Bool)
    : Effect.requests (options.report palette connection replies waits).effects
      = (Poll.requests (options.run connection replies waits).steps).filterMap
          fun query => connection.request? (.output options.id query) := by
  rw [report_effects, Effect.requests_append, Effect.requests_append,
    Effect.requests_ofSteps (shown_isText palette), Effect.requests_texts (ending_texts _ _ _)]
  split <;> simp [Effect.requests]

theorem run_ran (connection : Client.Connection) (options : FollowOptions)
    (replies : List Http.Reply) (waits : List Bool)
    : (Poll.following options.maxLines options.router.events).Ran
        (connection.outputService options.id) (options.start.query options.maxLines) replies waits
        (options.run connection replies waits) :=
  Poll.Loop.ran _ _ _ _ _

theorem run_sends (connection : Client.Connection) (options : FollowOptions)
    (replies : List Http.Reply) (waits : List Bool)
    : ∀ query ∈ Poll.requests (options.run connection replies waits).steps,
        (connection.request? (.output options.id query)).isSome :=
  fun query asked =>
    Client.Connection.service_sends ((run_ran connection options replies waits).sent query asked)

/-- What was shown of the batches of a run ends its open line. -/
theorem output_report (palette : Palette) (connection : Client.Connection)
    (options : FollowOptions) (replies : List Http.Reply) (waits : List Bool)
    {batches : List Output.Batch}
    (heard : Poll.told (options.run connection replies waits).steps = options.told batches)
    : Effect.output (options.report palette connection replies waits).effects
      = Effect.output (options.shownOf palette batches) ++ options.lineEnd batches
        ++ Effect.output
          (ending palette options (options.run connection replies waits).result).effects := by
  rw [report_effects, Effect.output_append, Effect.output_append, Effect.output_ofSteps,
    leavesLineOpen_eq, heard, shownOf, lineEnd]
  split <;> rfl

end JobWatch.CommandLine.FollowOptions
