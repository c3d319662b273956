import JobWatch.Proofs.Client.ServedRuns
import JobWatch.Proofs.CommandLine.ArchiveIntegrity
import JobWatch.Proofs.CommandLine.InterruptedExport
import JobWatch.Proofs.CommandLine.InterruptedFollowing

/-! The program with one interrupt, beside the program on the same command line, environment and
script of replies without it. What the interrupt changes depends on the command, on the request that
it hits, and on what this request is answered with.
-/

namespace JobWatch.CommandLine

/-- What a command with an interrupt is, beside the command without: `count` is the request that was
being answered. A command of a single request only has the notice in addition, and so has an export
that could not be started.
-/
def Command.Interrupted (palette : Palette) (connection : Client.Connection)
    (replies : List Http.Reply) (count : Nat) (full cut : Report) (command : Command)
    : Prop :=
  match command with
  | .follow options => options.Interrupted palette connection replies count full cut
  | .info _ | .list _ _ _ => NoticedAt palette count full cut
  | .exportProject project file =>
      match (connection.startExport project replies).result with
      | .error _ =>
          Effect.requests cut.effects = (connection.request? (.exportStart project)).toList
          ∧ NoticedAt palette count full cut
      | .ok initial =>
          ∃ polls,
            ExportOptions.Interrupted palette connection ⟨project, file⟩ initial replies count polls
              full cut

/-- An export that could not be started has made one request, and no wait changes what it does. -/
theorem ExportOptions.interrupted_of_unstarted {palette : Palette} {connection : Client.Connection}
    {options : ExportOptions} {storage : Storage} {replies : List Http.Reply} {error : Client.Error}
    {count : Nat} (waits : List Bool)
    (unstarted : (connection.startExport options.project replies).result = .error error)
    (positive : 1 ≤ count)
    (within : count
      ≤ (Effect.requests (options.report palette connection storage replies []).effects).length)
    : Effect.requests
          (Interrupt.apply palette ⟨count, false⟩
            (options.report palette connection storage replies waits)).effects
        = (connection.request? (.exportStart options.project)).toList
      ∧ NoticedAt palette count (options.report palette connection storage replies [])
          (Interrupt.apply palette ⟨count, false⟩
            (options.report palette connection storage replies waits)) := by
  have same : options.report palette connection storage replies waits
      = options.report palette connection storage replies [] := by
    simp only [report, unstarted]
  have noticed := Interrupt.apply_noticed palette positive within
  have sent : (connection.startExport options.project replies).request
      = connection.request? (.exportStart options.project) := by
    simp only [Client.Connection.startExport, Client.Connection.call]
    cases connection.request? (.exportStart options.project) <;> rfl
  rw [same]
  refine ⟨?_, noticed⟩
  rw [noticed.requests_eq]
  simp only [report, unstarted, sent, Report.after, Effect.requests_append, Effect.requests_sent]
  exact List.append_nil _

-----------------------------------------------------------------------
-- Following at the limit of addresses
-----------------------------------------------------------------------

/-- The words for following an execution of a server on the machine itself. They have the settings
of the export from there.
-/
def followWords (id : String) : List String :=
  ["--url", "http://[::1]:8080", "executions", "follow", id]

/-- The options of these words. -/
def followOptions (id : String) : FollowOptions :=
  ⟨id, .tail 1, 500, ⟨false, false, none⟩⟩

/-- An identifier is taken as it is if it does not look like an option. -/
theorem read_followWords {id : String} (plain : Shape.of id = .plain)
    : Invocation.read (followWords id) (fun _ => none)
      = .ok ⟨exportSettings, .follow (followOptions id)⟩ := by
  have options
      : scan settingsSwitches true (followWords id)
        = .ok ([.value "url" "http://[::1]:8080"], ["executions", "follow", id]) :=
    rfl
  have command : MenuItem.choose menu ["executions", "follow", id] = readFollow [id] := rfl
  have given : scan followSwitches false [id] = .ok ([.word id], []) := by
    rw [scan, scanFrom, plain]
    rfl
  rw [Invocation.read, options]
  simp only [bind, Except.bind, command, readFollow, given]
  rfl

/-- The program follows, and an interrupt at the first request cuts the wait behind it. -/
theorem run_followWords {id : String} (plain : Shape.of id = .plain) (replies : List Http.Reply)
    : let connection := exportSettings.connection .offline
      let report := (followOptions id).report ⟨false⟩ connection replies
      run (followWords id) (fun _ => none) (fun _ => none) .offline replies none = .ok (report [])
      ∧ run (followWords id) (fun _ => none) (fun _ => none) .offline replies (some ⟨1, false⟩)
        = .ok (Interrupt.apply ⟨false⟩ ⟨1, false⟩ (report (Poll.cutWaits 0))) := by
  rw [run, read_followWords plain, run, read_followWords plain]
  simp only [Except.map, Invocation.report, exportSettings_valid]
  exact ⟨rfl, rfl⟩

/-- A server that answers once, with a batch that tells where the output goes on. -/
def announcing : List Http.Reply :=
  [.answered 200 "\x7b\"offset\":1\x7d".toUTF8.toList true]

/-- The batch of this answer. -/
def announcement : Output.Batch where
  id := none
  message := none
  error := none
  unmodified := false
  empty := false
  offset := 1
  completed := false
  execCompleted := false
  hasFailedNodes := false
  execState := ""
  lastModified := 0
  execDuration := 0
  percentLoaded := ⟨false, 0⟩
  totalSize := 0
  entries := []

theorem announcing_reads : announcing.map FollowOptions.batch? = [some announcement] := by
  decide +kernel

/-- If the address of the first request fits and that of the second one does not, following fails in
front of the second one.
-/
theorem followOptions_run {id : String}
    (first : (exportSettings.connection .offline).Fits (.output id (.tail 1)))
    (second : ¬(exportSettings.connection .offline).Fits (.output id (.after ⟨1, 0, 500⟩)))
    : (followOptions id).run (exportSettings.connection .offline) announcing []
      = ⟨[.request (.tail 1), .wait true], .error .requestFailed, []⟩ := by
  let loop := Poll.following 500 (followOptions id).router.events
  have sent := Client.service_accepts exportSettings_leads first
    (Client.document Output.Batch.decode)
  have answered := (FollowOptions.outputService_reads (exportSettings.connection .offline) id
    (.tail 1) _ announcement).mpr (List.cons.inj announcing_reads).1
  have refused := Client.service_refuses exportSettings_leads second
    (Client.document Output.Batch.decode)
  have ran : loop.Ran ((exportSettings.connection .offline).outputService id) (.tail 1) announcing
      [] (Poll.Run.after ⟨[], .error .requestFailed, []⟩
        (loop.exchange (.tail 1) announcement ++ [.wait true])) :=
    .continued sent answered rfl rfl (.refused refused)
  exact ran.run_eq

/-- With such an identifier, an interrupt while the only request that is sent is being answered lets
the program stop and succeed, where without the interrupt it fails and shows nothing.
-/
theorem stops_in_front_of_long_address {id : String} (plain : Shape.of id = .plain)
    (first : (exportSettings.connection .offline).Fits (.output id (.tail 1)))
    (second : ¬(exportSettings.connection .offline).Fits (.output id (.after ⟨1, 0, 500⟩)))
    : ∃ full cut,
        run (followWords id) (fun _ => none) (fun _ => none) .offline announcing none = .ok full
        ∧ run (followWords id) (fun _ => none) (fun _ => none) .offline announcing (some ⟨1, false⟩)
          = .ok cut
        ∧ (Effect.requests full.effects).length = 1
        ∧ Effect.requests cut.effects = Effect.requests full.effects
        ∧ full.status = 1
        ∧ Effect.output full.effects = ""
        ∧ cut.status = 0
        ∧ Effect.output cut.effects
          = "Stopped following execution " ++ id ++ " (best effort)" ++ "\n" := by
  obtain ⟨whole, interrupted⟩ := run_followWords plain announcing
  have isRun := followOptions_run first second
  have sentOnce : (Effect.requests ((followOptions id).report ⟨false⟩
      (exportSettings.connection .offline) announcing []).effects).length = 1 := by
    rw [FollowOptions.length_requests_report, isRun]
    rfl
  have beside := (followOptions id).report_interrupted ⟨false⟩
    (exportSettings.connection .offline) announcing (Nat.le_refl 1) (Nat.le_of_eq sentOnce.symm)
  have oneMore : 1 < ((followOptions id).run (exportSettings.connection .offline)
      announcing []).requestsMade := by
    rw [isRun]
    decide
  obtain ⟨batches, -, read, -, status, output⟩ := beside.stopped oneMore
  obtain rfl : [announcement] = batches :=
    List.map_injective_iff.mpr (fun _ _ => Option.some.inj) (announcing_reads.symm.trans read)
  have nothing : (followOptions id).told [announcement] = [] := rfl
  rw [FollowOptions.shownOf, FollowOptions.lineEnd, nothing] at output
  refine ⟨_, _, whole, interrupted, sentOnce, ?_, ?_, ?_, status, ?_⟩
  · rw [beside.requests, List.take_of_length_le (Nat.le_of_eq sentOnce)]
  · rw [FollowOptions.report_status, isRun]
    rfl
  · have heard : Poll.told ((followOptions id).run (exportSettings.connection .offline) announcing
        []).steps = (followOptions id).told [] := by
      rw [isRun]
      rfl
    rw [FollowOptions.output_report _ _ _ _ _ heard, isRun]
    rfl
  · rw [output]
    simp [Effect.output, Palette.paint, followOptions]

/-- The address of an output at this server has 43 characters beside its identifier and query. -/
theorem output_fits_iff {id : String} (plain : Http.IsPlainSegment id.toList)
    (query : Poll.OutputQuery)
    : (exportSettings.connection .offline).Fits (.output id query)
      ↔ id.toList.length + (Client.Endpoint.outputQuery query).length + 43 ≤ Http.Url.maxSize := by
  have authority : Http.Url.readAuthority? Client.localServer.host
      = some ([], .address (.v6 1), some 8080) := by
    decide +kernel
  have beginning : (Http.Url.beginning ⟨[], .address (.v6 1), some 8080, [], none, none⟩).length
      = 17 := by
    decide +kernel
  have names : ∀ name ∈ (Client.Endpoint.output id query).names, Http.IsPlainSegment name.toList :=
    List.forall_mem_singleton.mpr plain
  have segments : (Client.localServer.resource (.output id query)).segments
      = ["api".toList, "41".toList, "execution".toList, id.toList, "output".toList] :=
    rfl
  have path : (Http.pathOf (Client.localServer.resource (.output id query)).segments).length
      = id.toList.length + 25 := by
    rw [segments]
    simp [Http.pathOf]
  rw [Client.Connection.fits_iff_of_plain exportSettings_leads.known authority names,
    Client.Endpoint.query?_output, List.length_append, List.length_append, beginning, path,
    Http.Url.marked, List.length_cons]
  omega

/-- An identifier with which the address of the last line fits, and that of what follows it not. -/
def nearlyLongId : String :=
  String.ofList (List.replicate 65460 'a')

theorem nearlyLongId_toList : nearlyLongId.toList = List.replicate 65460 'a' :=
  String.toList_ofList

/-- With this identifier, the queries of 31 characters or less have an address that fits. -/
theorem nearlyLongId_fits_iff (query : Poll.OutputQuery)
    : (exportSettings.connection .offline).Fits (.output nearlyLongId query)
      ↔ (Client.Endpoint.outputQuery query).length ≤ 31 := by
  have plain : Http.IsPlainSegment nearlyLongId.toList := by
    rw [nearlyLongId_toList]
    exact .replicate (by decide) (by decide)
  rw [output_fits_iff plain, nearlyLongId_toList, List.length_replicate, Http.Url.maxSize]
  omega

-----------------------------------------------------------------------
-- The program
-----------------------------------------------------------------------

/-- The program with an interrupt relates to the program without as its command tells.
Witness: every command has its own relation, and settings that cannot be used make no request.
-/
theorem interrupted_run_beside_whole_run {words : List String} {environment : Environment}
    {storage : Storage} {resolver : Http.Resolver} {replies : List Http.Reply}
    {invocation : Invocation} {count : Nat} {full cut : Report}
    (accepted : Invocation.read words environment = .ok invocation)
    (whole : run words environment storage resolver replies none = .ok full)
    (interrupted : run words environment storage resolver replies (some ⟨count, false⟩) = .ok cut)
    (positive : 1 ≤ count) (within : count ≤ (Effect.requests full.effects).length)
    : invocation.command.Interrupted (.choose environment false)
        (invocation.settings.connection resolver) replies count full cut := by
  rw [run, accepted] at whole interrupted
  obtain rfl := Except.ok.inj whole
  obtain rfl := Except.ok.inj interrupted
  cases fault : invocation.settings.fault? with
  | some reason =>
      rw [Invocation.report, fault] at within
      have : 1 ≤ 0 := Nat.le_trans positive within
      omega
  | none =>
      simp only [Invocation.report, fault] at within ⊢
      cases command : invocation.command with
      | follow options =>
          rw [command] at within
          exact options.report_interrupted _ _ replies positive within
      | info id =>
          rw [command] at within
          exact Interrupt.apply_noticed _ positive within
      | list project max offset =>
          rw [command] at within
          exact Interrupt.apply_noticed _ positive within
      | exportProject project file =>
          rw [command] at within
          cases started : ((invocation.settings.connection resolver).startExport project
              replies).result with
          | error error =>
              simp only [Command.Interrupted, started]
              exact ExportOptions.interrupted_of_unstarted _ started positive within
          | ok initial =>
              simp only [Command.Interrupted, started]
              exact ExportOptions.report_interrupted _ storage started positive within

/-- An execution is followed from its start on, and its first batch announces more. The interrupt
comes while this batch is being answered.
-/
theorem interrupted_following_beside_whole_following
    : ∃ invocation full cut,
        Invocation.read ["--url", "http://[::1]", "executions", "follow", "7", "-r"] (fun _ => none)
          = .ok invocation
        ∧ run ["--url", "http://[::1]", "executions", "follow", "7", "-r"] (fun _ => none)
            (fun _ => none) .offline [.answered 200 "\x7b\"offset\":1\x7d".toUTF8.toList true] none
          = .ok full
        ∧ run ["--url", "http://[::1]", "executions", "follow", "7", "-r"] (fun _ => none)
            (fun _ => none) .offline [.answered 200 "\x7b\"offset\":1\x7d".toUTF8.toList true]
            (some ⟨1, false⟩)
          = .ok cut
        ∧ 1 ≤ (Effect.requests full.effects).length
        ∧ invocation.command.Interrupted (.choose (fun _ => none) false)
            (invocation.settings.connection .offline)
            [.answered 200 "\x7b\"offset\":1\x7d".toUTF8.toList true] 1 full cut := by
  let invocation : Invocation :=
    ⟨⟨"http://[::1]", none, 2000, .none⟩, .follow ⟨"7", .restart, 500, ⟨false, false, none⟩⟩⟩
  have accepted : Invocation.read ["--url", "http://[::1]", "executions", "follow", "7", "-r"]
      (fun _ => none) = .ok invocation :=
    rfl
  have report (interrupt : Option Interrupt)
      : run ["--url", "http://[::1]", "executions", "follow", "7", "-r"] (fun _ => none)
          (fun _ => none) .offline [.answered 200 "\x7b\"offset\":1\x7d".toUTF8.toList true]
          interrupt
        = .ok (invocation.report (.choose (fun _ => none) false) (fun _ => none) .offline
          [.answered 200 "\x7b\"offset\":1\x7d".toUTF8.toList true] interrupt) := by
    rw [run, accepted]
    rfl
  have sent : 1 ≤ (Effect.requests (invocation.report (.choose (fun _ => none) false)
      (fun _ => none) .offline [.answered 200 "\x7b\"offset\":1\x7d".toUTF8.toList true]
      none).effects).length := by
    decide +kernel
  exact ⟨invocation, _, _, accepted, report none, report (some ⟨1, false⟩), sent,
    interrupted_run_beside_whole_run accepted (report none) (report (some ⟨1, false⟩)) (by decide)
      sent⟩

/-- An interrupt at the only request that is sent changes how the program ends, if the address of
the request behind it is too long.
-/
theorem nearly_long_id_stops_at_last_request
    : ∃ full cut,
        run (followWords nearlyLongId) (fun _ => none) (fun _ => none) .offline announcing none
          = .ok full
        ∧ run (followWords nearlyLongId) (fun _ => none) (fun _ => none) .offline announcing
            (some ⟨1, false⟩)
          = .ok cut
        ∧ (Effect.requests full.effects).length = 1
        ∧ Effect.requests cut.effects = Effect.requests full.effects
        ∧ full.status = 1
        ∧ Effect.output full.effects = ""
        ∧ cut.status = 0
        ∧ Effect.output cut.effects
          = "Stopped following execution " ++ nearlyLongId ++ " (best effort)" ++ "\n" := by
  have plain : Shape.of nearlyLongId = .plain := by
    refine Shape.of_other ?_
    rw [nearlyLongId_toList]
    simp
  refine stops_in_front_of_long_address plain ((nearlyLongId_fits_iff _).mpr ?_) fun fits => ?_
  · decide +kernel
  · exact absurd ((nearlyLongId_fits_iff _).mp fits) (by decide +kernel)

end JobWatch.CommandLine
