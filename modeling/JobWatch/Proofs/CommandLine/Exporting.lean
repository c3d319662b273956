import JobWatch.Proofs.CommandLine.Effects
import JobWatch.Proofs.Poll.Readiness

/-! The command that exports a project, told by the run behind it. What becomes of an export that
could be started is decided by the last status that was polled.
-/

namespace JobWatch.CommandLine.ExportOptions

-----------------------------------------------------------------------
-- The parts of an export
-----------------------------------------------------------------------

/-- The status that a reply brings, if it brings one. -/
def status? (reply : Http.Reply) : Option Export.Status :=
  (Client.document Export.Status.decode reply).toOption

/-- The run behind an export that is started. -/
def run (connection : Client.Connection) (options : ExportOptions) (initial : Export.Status)
    (replies : List Http.Reply) (waits : List Bool) : Poll.Run String UInt32 Http.Reply :=
  Poll.track (connection.statusService options.project) initial replies waits

/-- What an export does until it is no longer tracked: it sends its start, and shows the run behind
it.
-/
def tracked (palette : Palette) (connection : Client.Connection) (options : ExportOptions)
    (run : Poll.Run String UInt32 Http.Reply) : List Effect :=
  (connection.request? (.exportStart options.project)).toList.map .request
    ++ (opening palette options
      :: Effect.ofSteps (fun token => connection.request? (.exportStatus options.project token))
        (shown palette) run.steps
      ++ [.out "\n"])

/-- What becomes of an export when it is no longer tracked. -/
def closing (palette : Palette) (connection : Client.Connection) (options : ExportOptions)
    (storage : Storage) (initial : Export.Status)
    (result : Except Client.Error Poll.Outcome) (unread : List Http.Reply) : Report :=
  match stopped? palette options result with
  | some report => report
  | none =>
    let download := connection.downloadExport options.project initial.token unread
    (ending palette options storage download.result).after
      (download.request.toList.map .request)

-----------------------------------------------------------------------
-- The effects of an export
-----------------------------------------------------------------------

/-- An export that could be started has sent its first request, and read a reply to it. -/
theorem start_sends {connection : Client.Connection} {options : ExportOptions}
    {replies : List Http.Reply} {initial : Export.Status}
    (started : (connection.startExport options.project replies).result = .ok initial)
    : ∃ request,
        connection.request? (.exportStart options.project) = some request
        ∧ (connection.startExport options.project replies).request = some request
        ∧ (connection.startExport options.project replies).unread = replies.tail := by
  revert started
  simp only [Client.Connection.startExport, Client.Connection.call]
  cases connection.request? (.exportStart options.project) <;> simp

/-- An export that could be started is tracked, and then something becomes of it. -/
theorem report_of_started (palette : Palette) {connection : Client.Connection}
    {options : ExportOptions} (storage : Storage) {replies : List Http.Reply} (waits : List Bool)
    {initial : Export.Status}
    (started : (connection.startExport options.project replies).result = .ok initial)
    : options.report palette connection storage replies waits
      = (closing palette connection options storage initial
          (options.run connection initial replies.tail waits).result
          (options.run connection initial replies.tail waits).unread).after
        (tracked palette connection options
          (options.run connection initial replies.tail waits)) := by
  obtain ⟨request, sends, sent, unread⟩ := start_sends started
  rw [report, started, sent, unread, tracked, sends]
  simp only [trackReport, Report.after, List.append_assoc]
  rfl

theorem run_ran (connection : Client.Connection) (options : ExportOptions)
    (initial : Export.Status) (replies : List Http.Reply) (waits : List Bool)
    : (Poll.tracking initial.token).Ran (connection.statusService options.project)
        initial.percentage replies waits (options.run connection initial replies waits) :=
  Poll.Loop.ran _ _ _ _ _

theorem status?_eq_some {reply : Http.Reply} {status : Export.Status}
    : status? reply = some status ↔ Client.document Export.Status.decode reply = .ok status := by
  rw [status?]
  cases Client.document Export.Status.decode reply <;> simp [Except.toOption]

/-- A poll is answered with the status that the reply to it brings. -/
theorem answered_iff (connection : Client.Connection) (options : ExportOptions) (token : String)
    (reply : Http.Reply) (status : Export.Status)
    : (connection.statusService options.project).answer token reply = .ok status
      ↔ status? reply = some status := by
  rw [Client.Connection.statusService, Client.Connection.service_reads, status?_eq_some]

/-- How the run of an export ends, by the last status that it polled. -/
theorem run_ends (connection : Client.Connection) (options : ExportOptions)
    (initial : Export.Status) (replies : List Http.Reply) (waits : List Bool)
    : let run := options.run connection initial replies waits
      Poll.requests run.steps = List.replicate (Poll.requests run.steps).length initial.token
      ∧ run.unread = replies.drop (Poll.requests run.steps).length
      ∧ Poll.EndsWith (Poll.lastStatus? status? replies (Poll.requests run.steps).length)
          run.result :=
  Poll.tracking_ends (run_ran connection options initial replies waits)
    (answered_iff connection options)

/-- All that the run polls for can be sent. -/
theorem run_sends (connection : Client.Connection) (options : ExportOptions)
    (initial : Export.Status) (replies : List Http.Reply) (waits : List Bool)
    : ∀ token ∈ Poll.requests (options.run connection initial replies waits).steps,
        (connection.request? (.exportStatus options.project token)).isSome :=
  fun token asked =>
    Client.Connection.service_sends
      ((run_ran connection options initial replies waits).sent token asked)

/-- The archive is asked for if the last status is ready, and nothing else is. -/
theorem requests_closing {palette : Palette} {connection : Client.Connection}
    {options : ExportOptions} {storage : Storage} {initial : Export.Status}
    {result : Except Client.Error Poll.Outcome} {last? : Option Export.Status}
    (ends : Poll.EndsWith last? result) (unread : List Http.Reply)
    : Effect.requests
        (closing palette connection options storage initial result unread).effects
      = if last?.any (·.ready) then
          (connection.request? (.exportDownload options.project initial.token)).toList
        else [] := by
  cases last? with
  | none =>
      obtain ⟨error, rfl⟩ := ends
      rfl
  | some status =>
      cases ready : status.ready with
      | false =>
          obtain rfl : result = .ok .cancelled := by simpa [Poll.EndsWith, ready] using ends
          simp [ready, closing, stopped?, Report.success, Effect.line, Effect.requests]
      | true =>
          obtain rfl : result = .ok (.completed true) := by
            simpa [Poll.EndsWith, ready] using ends
          have sent : (connection.downloadExport options.project initial.token unread).request
              = connection.request? (.exportDownload options.project initial.token) := by
            simp only [Client.Connection.downloadExport, Client.Connection.call]
            cases connection.request? (.exportDownload options.project initial.token) <;> rfl
          simp only [closing, stopped?, Report.after, Effect.requests_append, Effect.requests_sent,
            sent, Option.any_some, ready, if_true, List.append_right_eq_self, ending]
          split
          · split <;> rfl
          · rfl

section Tracked

variable (palette : Palette) (connection : Client.Connection) (options : ExportOptions)
  (run : Poll.Run String UInt32 Http.Reply)

/-- An export that is tracked sends its start and the polls of its run. -/
theorem requests_tracked
    : Effect.requests (tracked palette connection options run)
      = (connection.request? (.exportStart options.project)).toList
        ++ (Poll.requests run.steps).filterMap
            (fun token => connection.request? (.exportStatus options.project token)) := by
  rw [tracked, Effect.requests_append, Effect.requests_sent, ← List.singleton_append,
    Effect.requests_append, Effect.requests_append, Effect.requests_ofSteps fun _ => rfl]
  simp [opening, Effect.requests]

/-- An export that is tracked puts out its opening, and the percentages on the same line. -/
theorem output_tracked
    : Effect.output (tracked palette connection options run)
      = Effect.output [opening palette options]
        ++ Effect.output ((Poll.told run.steps).map (shown palette))
        ++ "\n" := by
  rw [tracked, Effect.output_append, Effect.output_sent, ← List.singleton_append,
    Effect.output_append, Effect.output_append, Effect.output_ofSteps, String.empty_append]
  rfl

theorem files_tracked : Effect.files (tracked palette connection options run) = [] := by
  rw [tracked, Effect.files_append, Effect.files_sent, ← List.singleton_append,
    Effect.files_append, Effect.files_append, Effect.files_ofSteps fun _ => rfl]
  rfl

theorem diagnostics_tracked : Effect.diagnostics (tracked palette connection options run) = "" := by
  have none (events : List UInt32) : Effect.diagnostics (events.map (shown palette)) = "" := by
    induction events with
    | nil => rfl
    | cons event rest ih => exact ih
  rw [tracked, Effect.diagnostics_append, Effect.diagnostics_sent, ← List.singleton_append,
    Effect.diagnostics_append, Effect.diagnostics_append, Effect.diagnostics_ofSteps, none]
  rfl

end Tracked

/-- The requests of an export that could be started: its start, the polls, and the archive. -/
theorem requests_report (palette : Palette) {connection : Client.Connection}
    {options : ExportOptions} (storage : Storage) {replies : List Http.Reply} (waits : List Bool)
    {initial : Export.Status}
    (started : (connection.startExport options.project replies).result = .ok initial)
    : Effect.requests (options.report palette connection storage replies waits).effects
      = (connection.request? (.exportStart options.project)).toList
        ++ ((Poll.requests (options.run connection initial replies.tail waits).steps).filterMap
              (fun token => connection.request? (.exportStatus options.project token))
          ++ if (Poll.lastStatus? status? replies.tail
                (Poll.requests
                  (options.run connection initial replies.tail waits).steps).length).any
              (·.ready) then
              (connection.request? (.exportDownload options.project initial.token)).toList
            else []) := by
  have ends := (run_ends connection options initial replies.tail waits).2.2
  rw [report_of_started palette storage waits started, Report.after, Effect.requests_append,
    requests_closing ends, requests_tracked, List.append_assoc]

/-- What an export puts out: its opening, the percentages, and what becomes of it in the end. -/
theorem output_report (palette : Palette) {connection : Client.Connection}
    {options : ExportOptions} (storage : Storage) {replies : List Http.Reply} (waits : List Bool)
    {initial : Export.Status}
    (started : (connection.startExport options.project replies).result = .ok initial)
    : Effect.output (options.report palette connection storage replies waits).effects
      = Effect.output [opening palette options]
        ++ Effect.output
          ((Poll.told (options.run connection initial replies.tail waits).steps).map
            (shown palette))
        ++ "\n"
        ++ Effect.output
          (closing palette connection options storage initial
            (options.run connection initial replies.tail waits).result
            (options.run connection initial replies.tail waits).unread).effects := by
  rw [report_of_started palette storage waits started, Report.after, Effect.output_append,
    output_tracked]

/-- All files of an export are kept when it is no longer tracked. -/
theorem files_report (palette : Palette) {connection : Client.Connection}
    {options : ExportOptions} (storage : Storage) {replies : List Http.Reply} (waits : List Bool)
    {initial : Export.Status}
    (started : (connection.startExport options.project replies).result = .ok initial)
    : Effect.files (options.report palette connection storage replies waits).effects
      = Effect.files
          (closing palette connection options storage initial
            (options.run connection initial replies.tail waits).result
            (options.run connection initial replies.tail waits).unread).effects := by
  rw [report_of_started palette storage waits started, Report.after, Effect.files_append,
    files_tracked, List.nil_append]

end JobWatch.CommandLine.ExportOptions
