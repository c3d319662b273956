import JobWatch.CommandLine.EmptyDirectory
import JobWatch.Proofs.Client.Sending
import JobWatch.Proofs.CommandLine.Exporting
import JobWatch.Proofs.CommandLine.Scanning

/-! The archive of an export, told by the script of replies: whether it is asked for, and whether a
file has it in the end.
-/

namespace JobWatch.CommandLine

/-- The files that some effects leave in the working directory, by their names there. -/
def Effect.directory (effects : List Effect) : List (String × List UInt8) :=
  (files effects).filterMap fun (path, octets) =>
    match Place.ofPath path with
    | .inside name => some (name, octets)
    | .outside | .refused _ => none

/-- A report of an error, and of no file. -/
structure Report.IsLoss (report : Report) : Prop where
  directory : Effect.directory report.effects = []
  status : report.status = 1
  diagnostics : ∃ text, Effect.diagnostics report.effects = "Error: " ++ text ++ "\n"

/-- An error behind effects that are neither files nor errors. -/
theorem Report.isLoss_failure (failure : Failure) {before : List Effect}
    (noFiles : Effect.files before = []) (noDiagnostics : Effect.diagnostics before = "")
    : ((Report.failure [] failure).after before).IsLoss where
  directory := by
    rw [Effect.directory, Report.after, Effect.files_append, noFiles]
    rfl
  status := rfl
  diagnostics := by
    refine ⟨failure.context ++ String.ofList (Failure.causesText failure.causes), ?_⟩
    rw [Report.after, Effect.diagnostics_append, noDiagnostics]
    simp [Report.failure, Failure.report, Effect.diagnostics, String.append_assoc]

namespace ExportOptions

-----------------------------------------------------------------------
-- What becomes of an export
-----------------------------------------------------------------------

/-- An export comes to its archive with a poll: its start brings a status, the polls for the token
of that status find the export ready at this one, and no address on the way is too long.
-/
structure ComesToArchive (connection : Client.Connection) (options : ExportOptions)
    (replies : List Http.Reply) (initial : Export.Status) (poll : Nat)
    : Prop where
  startFits : connection.Fits (.exportStart options.project)
  started : (replies.head?).bind status? = some initial
  statusFits : connection.Fits (.exportStatus options.project initial.token)
  ready : Poll.ReadyAt status? replies.tail poll
  archiveFits : connection.Fits (.exportDownload options.project initial.token)

/-- The reply behind that poll grants the archive, and all of it arrives. -/
def BringsArchive (replies : List Http.Reply) (poll : Nat) (body : List UInt8) : Prop :=
  ∃ reply ∈ replies[poll + 2]?, ∃ status,
    reply.received = .answered status body true ∧ Http.isSuccess status = true

/-- The requests of an export: its start, then polls for its status, then its archive if it comes to
that. All but the first are for the token that the start brought.
-/
def AsksForArchive (connection : Client.Connection) (options : ExportOptions)
    (replies : List Http.Reply) (requests : List Http.Request) : Prop :=
  ∃ (start : Http.Request) (polls : List Http.Request) (download? : Option Http.Request),
    requests = start :: polls ++ download?.toList
    ∧ connection.request? (.exportStart options.project) = some start
    ∧ (∀ sent ∈ polls, ∃ initial ∈ (replies.head?).bind status?,
        connection.request? (.exportStatus options.project initial.token) = some sent)
    ∧ (∀ sent ∈ download?, ∃ initial ∈ (replies.head?).bind status?,
        connection.request? (.exportDownload options.project initial.token) = some sent)
    ∧ (download?.isSome ↔ ∃ initial poll, options.ComesToArchive connection replies initial poll)

/-- A report of an archive as the only file of the working directory. -/
structure ReportsArchive (palette : Palette) (options : ExportOptions) (name : String)
    (body : List UInt8) (report : Report)
    : Prop where
  directory : Effect.directory report.effects = [(name, body)]
  status : report.status = 0
  output
    : ∃ shown,
        Effect.output report.effects
          = shown
            ++ palette.paint .green
              ("✓ Exported " ++ options.project ++ " (" ++ toString body.length ++ " bytes) to "
                ++ options.file)
            ++ "\n"

/-- An export into a file of the working directory. It asks for its archive unless its start is too
long to be asked for; and it leaves the archive that it is brought in the file, or no file and an
error.
-/
structure KeepsArchive (palette : Palette) (connection : Client.Connection)
    (options : ExportOptions) (name : String) (replies : List Http.Reply) (report : Report)
    : Prop where
  unsent
    : ¬connection.Fits (.exportStart options.project) → Effect.requests report.effects = []
  requests
    : connection.Fits (.exportStart options.project) →
        options.AsksForArchive connection replies (Effect.requests report.effects)
  kept
    : ∀ initial poll body, options.ComesToArchive connection replies initial poll →
        BringsArchive replies poll body → options.ReportsArchive palette name body report
  lost
    : (∀ initial poll body, options.ComesToArchive connection replies initial poll →
        ¬BringsArchive replies poll body) →
        report.IsLoss

-----------------------------------------------------------------------
-- The calls of an export
-----------------------------------------------------------------------

variable {palette : Palette} {connection : Client.Connection} {options : ExportOptions}
  {base : Client.PlainBase} {storage : Storage} {replies : List Http.Reply}
  {initial : Export.Status}

/-- An export is started exactly if its start is not too long to be asked for and brings a status.
-/
theorem started_iff (leads : connection.LeadsTo base)
    : (connection.startExport options.project replies).result = .ok initial
      ↔ connection.Fits (.exportStart options.project)
        ∧ (replies.head?).bind status? = some initial := by
  have dropped : Client.document Export.Status.decode .dropped ≠ .ok initial := nofun
  rw [Client.Connection.startExport, Client.Connection.call_ok_iff dropped, leads.sends_iff,
    Option.bind_eq_some_iff]
  simp only [status?_eq_some, Option.mem_def]

/-- A started export succeeds with a poll exactly if its status can be asked for and this poll is
the first one that finds it ready.
-/
theorem run_completes (leads : connection.LeadsTo base) (poll : Nat)
    : let run := options.run connection initial replies []
      run.result = .ok (.completed true) ∧ (Poll.requests run.steps).length = poll + 1
        ↔ connection.Fits (.exportStatus options.project initial.token)
          ∧ Poll.ReadyAt status? replies poll := by
  intro run
  rw [Poll.tracking_completes (run_ran connection options initial replies [])
    (answered_iff connection options), ← leads.sends_iff]
  refine and_congr_left' ?_
  simp [Client.Connection.statusService, Client.Connection.service, Option.isSome_iff_ne_none]

/-- An export comes to its archive exactly if it is started, tracking succeeds with this poll, and
the archive can be asked for.
-/
theorem comesToArchive_iff (leads : connection.LeadsTo base) {poll : Nat}
    : options.ComesToArchive connection replies initial poll
      ↔ (connection.startExport options.project replies).result = .ok initial
        ∧ (options.run connection initial replies.tail []).result = .ok (.completed true)
        ∧ (Poll.requests (options.run connection initial replies.tail []).steps).length = poll + 1
        ∧ connection.Fits (.exportDownload options.project initial.token) := by
  constructor
  · rintro ⟨startFits, started, statusFits, ready, archiveFits⟩
    obtain ⟨completed, count⟩ := (run_completes leads poll).mpr ⟨statusFits, ready⟩
    exact ⟨(started_iff leads).mpr ⟨startFits, started⟩, completed, count, archiveFits⟩
  · rintro ⟨started, completed, count, archiveFits⟩
    obtain ⟨startFits, isStarted⟩ := (started_iff leads).mp started
    obtain ⟨statusFits, ready⟩ := (run_completes leads poll).mp ⟨completed, count⟩
    exact ⟨startFits, isStarted, statusFits, ready, archiveFits⟩

/-- The archive arrives exactly if it is asked for and granted as a whole. -/
theorem downloaded_iff (leads : connection.LeadsTo base) {poll : Nat} {body : List UInt8}
    : (connection.downloadExport options.project initial.token (replies.drop (poll + 2))).result
        = .ok body
      ↔ connection.Fits (.exportDownload options.project initial.token)
        ∧ BringsArchive replies poll body := by
  have dropped : Client.archive .dropped ≠ .ok body := nofun
  rw [Client.Connection.downloadExport, Client.Connection.call_ok_iff dropped, leads.sends_iff,
    List.head?_drop, BringsArchive]
  simp only [Client.archive_ok_iff]

-----------------------------------------------------------------------
-- The report of an export
-----------------------------------------------------------------------

/-- An export that cannot be started sends its start at most, and fails. -/
theorem report_of_unstarted (palette : Palette) (storage : Storage) (waits : List Bool)
    {error : Client.Error}
    (failed : (connection.startExport options.project replies).result = .error error)
    : options.report palette connection storage replies waits
      = (Report.failure [] (options.startFailure error)).after
        ((connection.request? (.exportStart options.project)).toList.map .request) := by
  rw [report, failed, Client.Connection.startExport, Client.Connection.call_request]

/-- An export with a start that is too long to be asked for does nothing but fail. -/
theorem report_of_unsent (palette : Palette) (storage : Storage) (replies : List Http.Reply)
    (waits : List Bool) (leads : connection.LeadsTo base)
    (tooLong : ¬connection.Fits (.exportStart options.project))
    : options.report palette connection storage replies waits
      = Report.failure [] (startFailure options .requestFailed) := by
  have unsent : connection.request? (.exportStart options.project) = none :=
    Option.not_isSome_iff_eq_none.mp (leads.sends_iff.not.mpr tooLong)
  have failed : (connection.startExport options.project replies).result
      = .error .requestFailed := by
    rw [Client.Connection.startExport, Client.Connection.call, unsent]
  rw [report_of_unstarted palette storage waits failed, unsent]
  rfl

/-- An export of which a poll finds it ready asks for its archive with the replies behind that poll.
-/
theorem report_of_completed (palette : Palette) (storage : Storage) {poll : Nat}
    (started : (connection.startExport options.project replies).result = .ok initial)
    (completed : (options.run connection initial replies.tail []).result = .ok (.completed true))
    (count : (Poll.requests (options.run connection initial replies.tail []).steps).length
      = poll + 1)
    : let download :=
        connection.downloadExport options.project initial.token (replies.drop (poll + 2))
      options.report palette connection storage replies []
        = (ending palette options storage download.result).after
          (tracked palette connection options (options.run connection initial replies.tail [])
            ++ (connection.request? (.exportDownload options.project initial.token)).toList.map
              .request) := by
  have unread := (run_ends connection options initial replies.tail []).2.1
  rw [count, List.drop_tail] at unread
  have sends : (connection.downloadExport options.project initial.token
      (replies.drop (poll + 2))).request
      = connection.request? (.exportDownload options.project initial.token) := by
    rw [Client.Connection.downloadExport, Client.Connection.call_request]
  rw [report_of_started palette storage [] started, completed, unread]
  simp only [closing, stopped?, Report.after, List.append_assoc, sends]

/-- An export that comes to its archive and is brought it keeps it. -/
theorem report_kept (palette : Palette) (leads : connection.LeadsTo base) {name : String}
    (place : Place.ofPath options.file = .inside name) {poll : Nat} {body : List UInt8}
    (comes : options.ComesToArchive connection replies initial poll)
    (brings : BringsArchive replies poll body)
    : options.ReportsArchive palette name body
        (options.report palette connection Place.fault? replies []) := by
  obtain ⟨started, completed, count, archiveFits⟩ := (comesToArchive_iff leads).mp comes
  have downloaded := (downloaded_iff leads).mpr ⟨archiveFits, brings⟩
  have writable : Place.fault? options.file = none := by rw [Place.fault?, place]
  rw [report_of_completed palette _ started completed count, downloaded]
  simp only [ending, writable]
  refine ⟨?_, rfl, ?_⟩
  · rw [Report.after, Effect.directory, Effect.files_append, Effect.files_append,
      files_tracked, Effect.files_sent]
    simp [Report.success, Effect.files, Effect.line, place]
  · refine ⟨Effect.output (tracked palette connection options
      (options.run connection initial replies.tail [])), ?_⟩
    rw [Report.after, Effect.output_append, Effect.output_append, Effect.output_sent,
      Number.natural_eq_toString, String.ofList_toList]
    simp [Report.success, Effect.output, Effect.line, String.append_assoc]

/-- An export that does not come to its archive, or is not brought it, fails. Witness: by what the
start brings, how the run ends and what the request for the archive brings; each of them but the
last success is a failure.
-/
theorem report_lost (palette : Palette) (leads : connection.LeadsTo base)
    (none : ∀ initial poll body, options.ComesToArchive connection replies initial poll →
      ¬BringsArchive replies poll body)
    : (options.report palette connection Place.fault? replies []).IsLoss := by
  cases started : (connection.startExport options.project replies).result with
  | error error =>
      rw [report_of_unstarted palette _ [] started]
      exact Report.isLoss_failure _ (Effect.files_sent _) (Effect.diagnostics_sent _)
  | ok initial =>
      have ran := run_ran connection options initial replies.tail []
      rcases Poll.tracking_completes_or_fails ran (answered_iff connection options) with
        ⟨poll, completed, count⟩ | ⟨error, failed⟩
      · rw [report_of_completed palette _ started completed count]
        cases downloaded : (connection.downloadExport options.project initial.token
            (replies.drop (poll + 2))).result with
        | ok body =>
            -- this is the one case that is ruled out
            obtain ⟨archiveFits, brings⟩ := (downloaded_iff leads).mp downloaded
            refine absurd brings (none initial poll body ?_)
            exact (comesToArchive_iff leads).mpr ⟨started, completed, count, archiveFits⟩
        | error error =>
            refine Report.isLoss_failure _ ?_ ?_
            · rw [Effect.files_append, files_tracked, Effect.files_sent, List.append_nil]
            · rw [Effect.diagnostics_append, diagnostics_tracked, Effect.diagnostics_sent,
                String.append_empty]
      · rw [report_of_started palette _ [] started, failed]
        exact Report.isLoss_failure _ (files_tracked _ _ _ _) (diagnostics_tracked _ _ _ _)

/-- The archive of an export is asked for exactly if it is come to. -/
theorem archive_asked_iff (leads : connection.LeadsTo base)
    (started : (connection.startExport options.project replies).result = .ok initial)
    : ((∃ status ∈ Poll.lastStatus? status? replies.tail
            (Poll.requests (options.run connection initial replies.tail []).steps).length,
          status.ready = true)
        ∧ (connection.request? (.exportDownload options.project initial.token)).isSome)
      ↔ ∃ initial poll, options.ComesToArchive connection replies initial poll := by
  have ran := run_ran connection options initial replies.tail []
  have ends := (run_ends connection options initial replies.tail []).2.2
  rw [← ends.completed_iff ran.not_cancelled, leads.sends_iff]
  constructor
  · rintro ⟨completed, archiveFits⟩
    rcases Poll.tracking_completes_or_fails ran (answered_iff connection options) with
      ⟨poll, _, count⟩ | ⟨error, failed⟩
    · exact ⟨initial, poll,
        (comesToArchive_iff leads).mpr ⟨started, completed, count, archiveFits⟩⟩
    · rw [failed] at completed
      cases completed
  · rintro ⟨other, poll, comes⟩
    obtain ⟨same, completed, -, archiveFits⟩ := (comesToArchive_iff leads).mp comes
    obtain rfl : initial = other := Except.ok.inj (started.symm.trans same)
    exact ⟨completed, archiveFits⟩

/-- An export with a start that can be asked for asks for its archive. -/
theorem report_asks (palette : Palette) (storage : Storage) (leads : connection.LeadsTo base)
    (startFits : connection.Fits (.exportStart options.project))
    : options.AsksForArchive connection replies
        (Effect.requests (options.report palette connection storage replies []).effects) := by
  obtain ⟨start, sends⟩ := Option.isSome_iff_exists.mp (leads.sends_iff.mpr startFits)
  cases started : (connection.startExport options.project replies).result with
  | error error =>
      refine ⟨start, [], none, ?_, sends, nofun, nofun, ?_⟩
      · rw [report_of_unstarted palette _ [] started, Report.after, Effect.requests_append,
          Effect.requests_sent, sends]
        rfl
      · refine iff_of_false Bool.false_ne_true ?_
        rintro ⟨initial, poll, comes⟩
        cases started.symm.trans ((comesToArchive_iff leads).mp comes).1
  | ok initial =>
      have brought := ((started_iff leads).mp started).2
      have asked := archive_asked_iff leads started
      have all := requests_report palette storage [] started
      -- only the last status decides on the archive, whatever the polls before were
      generalize Poll.lastStatus? status? replies.tail
        (Poll.requests (options.run connection initial replies.tail []).steps).length = last?
        at asked all
      let download? : Option Http.Request :=
        if last?.any (·.ready) then
          connection.request? (.exportDownload options.project initial.token)
        else none
      let polled := Poll.requests (options.run connection initial replies.tail []).steps
      refine ⟨start, polled.filterMap fun token =>
        connection.request? (.exportStatus options.project token), download?, ?_, sends, ?_, ?_, ?_⟩
      · rw [all, sends, ← List.append_assoc, apply_ite Option.toList]
        rfl
      · intro sent member
        obtain ⟨token, asksFor, isSent⟩ := List.mem_filterMap.mp member
        have first : polled = List.replicate polled.length initial.token :=
          (run_ends connection options initial replies.tail []).1
        rw [first] at asksFor
        rw [List.eq_of_mem_replicate asksFor] at isSent
        exact ⟨initial, brought, isSent⟩
      · intro sent isDownload
        exact ⟨initial, brought, (Option.ite_none_right_eq_some.mp isDownload).2⟩
      · rw [← asked]
        cases last? with
        | none => simp [download?]
        | some status => cases ready : status.ready <;> simp [download?, ready]

/-- An export into a file of the working directory keeps its archive there. -/
theorem report_keeps (palette : Palette) (leads : connection.LeadsTo base) {name : String}
    (place : Place.ofPath options.file = .inside name)
    : options.KeepsArchive palette connection name replies
        (options.report palette connection Place.fault? replies []) where
  unsent tooLong := by
    rw [report_of_unsent palette _ replies [] leads tooLong]
    rfl
  requests := report_asks palette _ leads
  kept _ _ _ := report_kept palette leads place
  lost := report_lost palette leads

end ExportOptions

-----------------------------------------------------------------------
-- Exports by a server on the machine itself
-----------------------------------------------------------------------

/-- The words for the export of a project by a server on the machine itself. -/
def exportWords (project : String) : List String :=
  ["--url", "http://[::1]:8080", "projects", "export", "-p", project, "-f", "demo.zip"]

/-- The settings of these words. -/
def exportSettings : Settings :=
  ⟨"http://[::1]:8080", none, 2000, .none⟩

/-- A project is taken as it is if it does not look like an option. -/
theorem read_exportWords {project : String} (plain : Shape.of project = .plain)
    : Invocation.read (exportWords project) (fun _ => none)
      = .ok ⟨exportSettings, .exportProject project "demo.zip"⟩ := by
  have options
      : scan settingsSwitches true (exportWords project)
        = .ok ([.value "url" "http://[::1]:8080"],
          ["projects", "export", "-p", project, "-f", "demo.zip"]) :=
    rfl
  have command
      : MenuItem.choose menu ["projects", "export", "-p", project, "-f", "demo.zip"]
        = readExport ["-p", project, "-f", "demo.zip"] :=
    rfl
  have letter : Shape.of "-p" = .letters ['p'] := rfl
  have waits : findLetters (.help :: exportSwitches) [] ['p']
      = .ok ([], some ⟨"project", some 'p', some .text⟩) :=
    rfl
  have given
      : scan exportSwitches false ["-p", project, "-f", "demo.zip"]
        = .ok ([.value "project" project, .value "file" "demo.zip"], []) := by
    rw [scan, scanFrom, letter]
    simp only [waits, scanFrom, plain]
    rfl
  rw [Invocation.read, options]
  simp only [bind, Except.bind, command, readExport, given]
  rfl

theorem exportSettings_valid : exportSettings.fault? = none := by
  decide

theorem exportSettings_server : exportSettings.serverUrl = Client.localServer.text := by
  decide

theorem exportSettings_reached
    : ∃ authority ∈ Http.Url.readAuthority? Client.localServer.host,
        (exportSettings.connection .offline).Reaches authority.2.1 := by
  refine ⟨([], .address (.v6 1), some 8080), ?_, rfl⟩
  decide +kernel

theorem exportSettings_leads
    : (exportSettings.connection .offline).LeadsTo Client.localServer where
  known := by decide
  reached := exportSettings_reached
  legal := rfl

theorem demo_place : Place.ofPath "demo.zip" = .inside "demo.zip" := by
  decide +kernel

theorem run_exportWords {project : String} (plain : Shape.of project = .plain)
    (replies : List Http.Reply)
    : run (exportWords project) (fun _ => none) Place.fault? .offline replies none
      = .ok (ExportOptions.report ⟨false⟩ (exportSettings.connection .offline)
        ⟨project, "demo.zip"⟩ Place.fault? replies []) := by
  rw [run, read_exportWords plain]
  simp only [Except.map, Invocation.report, exportSettings_valid]
  rfl

/-- A start with a token, two statuses of which the second one is ready, and an archive. -/
def demoReplies : List Http.Reply :=
  [.answered 200 "\x7b\"token\":\"t 1\",\"percentage\":0\x7d".toUTF8.toList true,
    .answered 200 "\x7b\"token\":\"t 2\",\"percentage\":40\x7d".toUTF8.toList true,
    .answered 200
      "\x7b\"token\":\"t 3\",\"ready\":true,\"percentage\":100\x7d".toUTF8.toList true,
    .answered 200 [80, 75, 3, 4] true]

-----------------------------------------------------------------------
-- The program
-----------------------------------------------------------------------

/-- The program without an interrupt carries an export out as `KeepsArchive` tells, whatever the
server does: the settings are accepted, the server's address is its own and can be reached, the
token may be sent, and the file would be one of the working directory, which holds nothing.
-/
theorem program_keeps_archive {words : List String} {environment : Environment}
    {resolver : Http.Resolver} {replies : List Http.Reply} {settings : Settings}
    {options : ExportOptions} {base : Client.PlainBase} {name : String} {report : Report}
    (accepted : Invocation.read words environment
      = .ok ⟨settings, .exportProject options.project options.file⟩)
    (valid : settings.fault? = none) (server : settings.serverUrl = base.text)
    (reached : ∃ authority ∈ Http.Url.readAuthority? base.host,
      (settings.connection resolver).Reaches authority.2.1)
    (legal : (settings.connection resolver).hasLegalToken = true)
    (place : Place.ofPath options.file = .inside name)
    (whole : run words environment Place.fault? resolver replies none = .ok report)
    : options.KeepsArchive (.choose environment false) (settings.connection resolver) name replies
        report := by
  rw [run, accepted] at whole
  obtain rfl := Except.ok.inj whole
  simp only [Invocation.report, valid]
  have known : (settings.connection resolver).baseUrl.toList
      = "http://".toList ++ base.host ++ Http.pathOf base.segments := by
    rw [← base.baseUrl_connect settings.token, ← server]
    rfl
  exact ExportOptions.report_keeps _ ⟨known, reached, legal⟩ place

/-- A program that is given these replies asks with the first token only, and keeps the archive. -/
theorem demo_project_is_exported
    : ∃ report,
        Invocation.read (exportWords "demo") (fun _ => none)
          = .ok ⟨exportSettings, .exportProject "demo" "demo.zip"⟩
        ∧ run (exportWords "demo") (fun _ => none) Place.fault? .offline demoReplies none
          = .ok report
        ∧ (Effect.requests report.effects).map (·.target)
          = ["/api/41/project/demo/export/async", "/api/41/project/demo/export/status/t%201",
            "/api/41/project/demo/export/status/t%201",
            "/api/41/project/demo/export/download/t%201"]
        ∧ Effect.directory report.effects = [("demo.zip", [80, 75, 3, 4])]
        ∧ report.status = 0
        ∧ ExportOptions.KeepsArchive ⟨false⟩ (exportSettings.connection .offline)
          ⟨"demo", "demo.zip"⟩ "demo.zip" demoReplies report := by
  have plain : Shape.of "demo" = .plain := rfl
  have accepted := read_exportWords plain
  have whole := run_exportWords plain demoReplies
  refine ⟨_, accepted, whole, ?_, ?_, ?_,
    program_keeps_archive accepted exportSettings_valid exportSettings_server
      exportSettings_reached rfl demo_place whole⟩
  all_goals decide +kernel

/-- A name that is longer than any address may be. -/
def longProject : String :=
  String.ofList (List.replicate 70000 'a')

theorem longProject_toList : longProject.toList = List.replicate 70000 'a' := by
  unfold longProject
  exact String.toList_ofList

theorem longProject_isPlain : Http.IsPlainSegment longProject.toList := by
  rw [longProject_toList]
  exact .replicate (by decide) (by decide)

/-- Nothing is asked for if the name of the project is too long, even of a server that would bring
the archive.
-/
theorem long_project_is_not_exported
    : ∃ report initial,
        Invocation.read (exportWords longProject) (fun _ => none)
          = .ok ⟨exportSettings, .exportProject longProject "demo.zip"⟩
        ∧ exportSettings.fault? = none
        ∧ exportSettings.serverUrl = Client.localServer.text
        ∧ (exportSettings.connection .offline).hasLegalToken = true
        ∧ Place.ofPath "demo.zip" = .inside "demo.zip"
        ∧ run (exportWords longProject) (fun _ => none) Place.fault? .offline demoReplies none
          = .ok report
        ∧ (demoReplies.head?).bind ExportOptions.status? = some initial
        ∧ Poll.ReadyAt ExportOptions.status? demoReplies.tail 1
        ∧ Effect.requests report.effects = []
        ∧ Effect.directory report.effects = []
        ∧ report.status = 1 := by
  have plain : Shape.of longProject = .plain := by
    refine Shape.of_other ?_
    rw [longProject_toList]
    simp
  have long : Http.Url.maxSize < longProject.toList.length := by
    rw [longProject_toList, List.length_replicate]
    decide
  have isReport
      : ExportOptions.report ⟨false⟩ (exportSettings.connection .offline) ⟨longProject, "demo.zip"⟩
          Place.fault? demoReplies []
        = Report.failure [] (ExportOptions.startFailure ⟨longProject, "demo.zip"⟩ .requestFailed) :=
    ExportOptions.report_of_unsent _ _ _ _ exportSettings_leads
      (Client.Connection.not_fits_of_long exportSettings_leads.known
        (List.forall_mem_singleton.mpr longProject_isPlain) List.mem_cons_self long)
  refine ⟨_, ⟨"t 1", false, 0⟩, read_exportWords plain, exportSettings_valid, exportSettings_server,
    rfl, demo_place, run_exportWords plain demoReplies, ?_, ?_, ?_⟩
  · decide +kernel
  · have first : (demoReplies.tail[0]?).bind ExportOptions.status? = some ⟨"t 2", false, 40⟩ := by
      decide +kernel
    have second : (demoReplies.tail[1]?).bind ExportOptions.status? = some ⟨"t 3", true, 100⟩ := by
      decide +kernel
    refine ⟨⟨_, second, rfl⟩, fun earlier isEarlier => ?_⟩
    obtain rfl : earlier = 0 := by omega
    exact ⟨_, first, rfl⟩
  · rw [isReport]
    exact ⟨rfl, rfl, rfl⟩

end JobWatch.CommandLine
