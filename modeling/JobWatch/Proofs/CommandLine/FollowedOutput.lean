import JobWatch.Proofs.CommandLine.Following
import JobWatch.Proofs.Output.Routing

/-! The command that follows an output, beside the run of the loop behind it: the streams hold the
lines and the marks that the run told, and the ending says how the run ended.
-/

namespace JobWatch

-----------------------------------------------------------------------
-- Lines on the channels
-----------------------------------------------------------------------

namespace Output

/-- The line of an event on the channel of normal output. -/
def ChannelEvent.outputLine? : ChannelEvent → Option String
  | .output line => some line
  | .warning _ | .error _ | .progress => none

/-- The line of an event on one of the channels for warnings and errors. -/
def ChannelEvent.noteLine? : ChannelEvent → Option String
  | .warning line | .error line => some line
  | .output _ | .progress => none

end Output

namespace CommandLine

/-- Lines of text, each with its end. -/
def linesText (lines : List String) : String :=
  String.join (lines.map (· ++ "\n"))

namespace FollowOptions

variable {palette : Palette} {connection : Client.Connection} {options : FollowOptions}
  {replies : List Http.Reply}

-----------------------------------------------------------------------
-- Events on the streams
-----------------------------------------------------------------------

/-- The lines for normal output are those of the output, if no marks are among them. -/
theorem output_shown_lines {events : List Output.ChannelEvent}
    (unmarked : ∀ event ∈ events, event ≠ .progress)
    : Effect.output (events.map (shown palette))
      = linesText (events.filterMap Output.ChannelEvent.outputLine?) := by
  induction events with
  | nil => rfl
  | cons event rest ih =>
      have others := ih fun later member => unmarked later (List.mem_cons_of_mem _ member)
      rw [List.map_cons, ← List.singleton_append, Effect.output_append, others,
        List.filterMap_cons]
      cases event with
      | output line =>
          simp [shown, Effect.line, Effect.output, linesText, Output.ChannelEvent.outputLine?]
      | warning line | error line => exact String.empty_append
      | progress => exact absurd rfl (unmarked .progress List.mem_cons_self)

/-- Marks are dots in a row. -/
theorem output_shown_marks (plain : palette.colors = false) {events : List Output.ChannelEvent}
    (marks : ∀ event ∈ events, event = .progress)
    : Effect.output (events.map (shown palette))
      = String.join (List.replicate events.length ".") := by
  induction events with
  | nil => rfl
  | cons event rest ih =>
      obtain rfl := marks event List.mem_cons_self
      rw [List.map_cons, ← List.singleton_append, Effect.output_append,
        ih fun later member => marks later (List.mem_cons_of_mem _ member), List.length_cons,
        List.replicate_succ]
      simp [shown, Effect.output, Palette.paint_plain plain]

/-- The lines for warnings and errors are those of the diagnostics, in their common order. -/
theorem diagnostics_shown (plain : palette.colors = false) (events : List Output.ChannelEvent)
    : Effect.diagnostics (events.map (shown palette))
      = linesText (events.filterMap Output.ChannelEvent.noteLine?) := by
  induction events with
  | nil => rfl
  | cons event rest ih =>
      rw [List.map_cons, ← List.singleton_append, Effect.diagnostics_append, ih,
        List.filterMap_cons]
      cases event with
      | output line | progress => exact String.empty_append
      | warning line | error line =>
          simp [shown, Effect.note, Effect.diagnostics, linesText, Output.ChannelEvent.noteLine?,
            Palette.paint_plain plain]

-----------------------------------------------------------------------
-- The command beside its run
-----------------------------------------------------------------------

/-- What events come to on the output: their lines, or a row of dots with one end for all of them.
-/
def outputText (options : FollowOptions) (told : List Output.ChannelEvent) : String :=
  if options.router.progress then
    String.join (List.replicate (told.count .progress) ".")
      ++ if 0 < told.count .progress then "\n" else ""
  else linesText (told.filterMap Output.ChannelEvent.outputLine?)

/-- What is said on the output about a success, unless the command is to be quiet. -/
def successText (options : FollowOptions) (result : Except Client.Error Poll.Outcome) : String :=
  match result, options.router.quiet with
  | .ok (.completed true), false => "✓ Execution " ++ options.id ++ " succeeded" ++ "\n"
  | _, _ => ""

/-- What the command reports as an error: a failed request, or an execution that did not succeed. -/
def failure? (options : FollowOptions) : Except Client.Error Poll.Outcome → Option Failure
  | .error error =>
      some (.ofError ("Failed to follow output of execution " ++ options.id) error)
  | .ok (.completed false) => some ⟨"Execution " ++ options.id ++ " did not succeed", []⟩
  | .ok (.completed true) | .ok .cancelled => none

/-- A command shows a run: it sends all that the run asks for, its streams hold what the run told
and how it ended, and its status is zero exactly if the last batch is the end of a success.
-/
structure Shows (connection : Client.Connection) (options : FollowOptions)
    (replies : List Http.Reply)
    (run : Poll.Run Poll.OutputQuery Output.ChannelEvent Http.Reply) (report : Report)
    : Prop where
  requests
    : (Effect.requests report.effects).map some
      = (Poll.requests run.steps).map fun query => connection.request? (.output options.id query)
  output
    : Effect.output report.effects
      = options.outputText (Poll.told run.steps) ++ options.successText run.result
  diagnostics
    : Effect.diagnostics report.effects
      = linesText ((Poll.told run.steps).filterMap Output.ChannelEvent.noteLine?)
        ++ Effect.diagnostics ((options.failure? run.result).toList.map Failure.report)
  reported
    : (options.failure? run.result).isSome
      ↔ (∃ error, run.result = .error error) ∨ run.result = .ok (.completed false)
  succeeded
    : report.status = 0
      ↔ ∃ batch ∈ (Poll.receivedBatches batch? replies run).getLast?,
          batch.isDone = true ∧ batch.execState = "succeeded"

/-- The row of dots has an end if it has any dot, and lines have their own ends. Witness: a router
that marks batches tells only marks, and any other router tells none.
-/
theorem output_told (plain : palette.colors = false)
    : let told := Poll.told (options.run connection replies []).steps
      Effect.output (told.map (shown palette))
          ++ Effect.output (if told.contains .progress then [.out "\n"] else [])
        = options.outputText told := by
  intro told
  have ran := run_ran connection options replies []
  cases marks : options.router.progress with
  | true =>
      have all : ∀ event ∈ told, event = .progress := fun event isTold =>
        have ⟨_, delivered⟩ := Poll.following_told ran isTold
        Output.Router.events_of_progress marks delivered
      have count : told.count .progress = told.length :=
        List.count_eq_length.mpr fun event isTold => (all event isTold).symm
      rw [output_shown_marks plain all, outputText, if_pos marks, count]
      cases isTold : told with
      | nil => rfl
      | cons event rest =>
          obtain rfl : event = .progress := all event (isTold ▸ List.mem_cons_self)
          rfl
  | false =>
      have unmarked : ∀ event ∈ told, event ≠ .progress := fun event isTold =>
        have ⟨_, delivered⟩ := Poll.following_told ran isTold
        Output.Router.events_of_lines marks delivered
      have closed : told.contains .progress = false := by
        rw [List.contains_eq_mem, decide_eq_false_iff_not]
        exact fun isTold => unmarked .progress isTold rfl
      rw [output_shown_lines unmarked, closed, outputText, if_neg (Bool.eq_false_iff.mp marks)]
      exact String.append_empty

/-- What the ending puts on the two streams, by how the run ended. -/
theorem streams_ending (options : FollowOptions) (plain : palette.colors = false)
    {result : Except Client.Error Poll.Outcome} (finished : result ≠ .ok .cancelled)
    : Effect.output (ending palette options result).effects = options.successText result
      ∧ Effect.diagnostics (ending palette options result).effects
        = Effect.diagnostics ((options.failure? result).toList.map Failure.report)
      ∧ ((ending palette options result).status = 0 ↔ result = .ok (.completed true)) := by
  match result, finished with
  | .error error, _ => exact ⟨rfl, rfl, by simp [ending, Report.failure]⟩
  | .ok (.completed false), _ => exact ⟨rfl, rfl, by simp [ending, Report.failure]⟩
  | .ok .cancelled, finished => exact absurd rfl finished
  | .ok (.completed true), _ =>
      refine ⟨?_, ?_, by simp [ending, Report.success]⟩
      · cases quiet : options.router.quiet <;>
          simp [ending, successText, Report.success, quiet, Effect.line, Effect.output,
            Palette.paint_plain plain]
      · cases quiet : options.router.quiet <;>
          simp [ending, failure?, Report.success, quiet, Effect.line, Effect.diagnostics]

/-- The command without an interrupt shows the run behind it. -/
theorem report_shows (plain : palette.colors = false)
    : options.Shows connection replies (options.run connection replies [])
        (options.report palette connection replies []) := by
  have ran := run_ran connection options replies []
  have sends := run_sends connection options replies []
  have effects := report_effects palette connection options replies []
  obtain ⟨shownEnd, notedEnd, status⟩ := streams_ending options plain ran.not_cancelled
  refine ⟨?_, ?_, ?_, ?_, ?_⟩
  · rw [requests_report]
    exact Effect.map_some_sent sends
  · rw [effects, Effect.output_append, Effect.output_append, Effect.output_ofSteps,
      leavesLineOpen_eq, shownEnd, ← output_told plain]
  · rw [effects, Effect.diagnostics_append, Effect.diagnostics_append,
      Effect.diagnostics_ofSteps, diagnostics_shown plain, notedEnd]
    split <;> simp [Effect.diagnostics]
  · rcases (options.run connection replies []).result with error | (_ | _) | _ <;>
      simp [failure?]
  · rw [← Poll.following_succeeds ran (outputService_reads connection options.id), ← status]
    rfl

/-- The program that follows an output, without colors and without an interrupt, shows the run of
the loop on the same server, from the same start and with the same router.
-/
theorem program_shows_followed_output {words : List String} {environment : Environment}
    {storage : Storage} {resolver : Http.Resolver} {replies : List Http.Reply}
    {settings : Settings} {options : FollowOptions} {report : Report}
    (accepted : Invocation.read words environment = .ok ⟨settings, .follow options⟩)
    (valid : settings.fault? = none)
    (plain : (Palette.choose environment false).colors = false)
    (whole : CommandLine.run words environment storage resolver replies none = .ok report)
    : options.Shows (settings.connection resolver) replies
        (Poll.follow ((settings.connection resolver).outputService options.id) options.start
          options.maxLines options.router.events replies [])
        report := by
  rw [CommandLine.run, accepted] at whole
  obtain rfl := Except.ok.inj whole
  simp only [Invocation.report, valid]
  exact report_shows plain

/-- A warning in a first batch, and the end of a success in the second one. -/
def warnedSuccess : List Http.Reply :=
  [.answered 200
      "\x7b\"entries\":[\x7b\"level\":\"WARN\",\"log\":\"low\"\x7d]\x7d".toUTF8.toList true,
    .answered 200
      "\x7b\"completed\":true,\"execCompleted\":true,\"execState\":\"succeeded\"\x7d".toUTF8.toList
      true]

/-- A quiet command that follows such an output shows the warning, and nothing of the success. -/
theorem quiet_program_shows_warning
    : ∃ settings options report,
        Invocation.read ["--url", "http://[::1]", "executions", "follow", "7", "-r", "-q"]
            (fun _ => none)
          = .ok ⟨settings, .follow options⟩
        ∧ settings.fault? = none
        ∧ (Palette.choose (fun _ => none) false).colors = false
        ∧ CommandLine.run ["--url", "http://[::1]", "executions", "follow", "7", "-r", "-q"]
            (fun _ => none) (fun _ => none) .offline warnedSuccess none
          = .ok report
        ∧ Effect.output report.effects = ""
        ∧ Effect.diagnostics report.effects = "low\n"
        ∧ report.status = 0
        ∧ options.Shows (settings.connection .offline) warnedSuccess
          (Poll.follow ((settings.connection .offline).outputService options.id) options.start
            options.maxLines options.router.events warnedSuccess [])
          report := by
  let settings : Settings := ⟨"http://[::1]", none, 2000, .none⟩
  let options : FollowOptions := ⟨"7", .restart, 500, ⟨false, true, none⟩⟩
  have accepted
      : Invocation.read ["--url", "http://[::1]", "executions", "follow", "7", "-r", "-q"]
          (fun _ => none)
        = .ok ⟨settings, .follow options⟩ :=
    rfl
  have whole
      : CommandLine.run ["--url", "http://[::1]", "executions", "follow", "7", "-r", "-q"]
          (fun _ => none) (fun _ => none) .offline warnedSuccess none
        = .ok (Invocation.report (.choose (fun _ => none) false) (fun _ => none) .offline
          warnedSuccess none ⟨settings, .follow options⟩) := by
    rw [CommandLine.run, accepted]
    rfl
  refine ⟨settings, options, _, accepted, by decide, rfl, whole, ?_, ?_, ?_,
    program_shows_followed_output accepted (by decide) rfl whole⟩
  all_goals decide +kernel

end FollowOptions

end CommandLine

end JobWatch
