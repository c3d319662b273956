import JobWatch.Proofs.CommandLine.ConfiguredServer
import JobWatch.Proofs.CommandLine.Exporting
import JobWatch.Proofs.CommandLine.Following
import JobWatch.Proofs.CommandLine.Scanning
import JobWatch.Proofs.Http.Credentials

/-! Settings gate and mark the requests of a run: none is sent unless they can be used, and each
carries the token, whatever is answered.
-/

namespace JobWatch.CommandLine

-----------------------------------------------------------------------
-- Requests of commands
-----------------------------------------------------------------------

/-- All requests among some effects are for endpoints of a server. -/
def AskEndpoints (connection : Client.Connection) (effects : List Effect) : Prop :=
  ∀ request ∈ Effect.requests effects,
    ∃ endpoint, connection.request? endpoint = some request

namespace AskEndpoints

variable {connection : Client.Connection}

theorem append_iff {before behind : List Effect}
    : AskEndpoints connection (before ++ behind)
      ↔ AskEndpoints connection before ∧ AskEndpoints connection behind := by
  unfold AskEndpoints
  rw [Effect.requests_append, List.forall_mem_append]

theorem append {before behind : List Effect} (first : AskEndpoints connection before)
    (second : AskEndpoints connection behind)
    : AskEndpoints connection (before ++ behind) :=
  append_iff.mpr ⟨first, second⟩

theorem of_texts {effects : List Effect} (texts : ∀ effect ∈ effects, effect.isText)
    : AskEndpoints connection effects := by
  intro request member
  rw [Effect.requests_texts texts] at member
  cases member

theorem of_request? (endpoint : Client.Endpoint)
    : AskEndpoints connection ((connection.request? endpoint).toList.map .request) := by
  intro request member
  rw [Effect.requests_sent] at member
  exact ⟨endpoint, Option.mem_toList.mp member⟩

/-- A loop asks for the endpoints that its steps ask for. -/
theorem of_steps {Asked Event : Type} (endpoint : Asked → Client.Endpoint) {event : Event → Effect}
    (texts : ∀ told, (event told).isText) (steps : List (Poll.Step Asked Event))
    : AskEndpoints connection
        (Effect.ofSteps (fun asked => connection.request? (endpoint asked)) event steps) := by
  intro request member
  rw [Effect.requests_ofSteps texts] at member
  obtain ⟨asked, -, sent⟩ := List.mem_filterMap.mp member
  exact ⟨endpoint asked, sent⟩

end AskEndpoints

theorem optionalLine_texts (label : String) (text : Option String)
    : ∀ effect ∈ optionalLine label text, effect.isText := by
  cases text with
  | none => exact List.forall_mem_nil _
  | some text => exact List.forall_mem_singleton.mpr rfl

theorem details_texts (palette : Palette) (execution : Execution)
    : ∀ effect ∈ details palette execution, effect.isText := by
  unfold details
  repeat refine List.forall_mem_append.mpr ⟨?_, optionalLine_texts _ _⟩
  simp [Effect.line, Effect.isText]

theorem summary_texts (palette : Palette) (execution : Execution)
    : ∀ effect ∈ summary palette execution, effect.isText := by
  unfold summary
  refine List.forall_mem_append.mpr ⟨?_, List.forall_mem_singleton.mpr rfl⟩
  repeat refine List.forall_mem_append.mpr ⟨?_, optionalLine_texts _ _⟩
  simp [Effect.line, Effect.isText]

theorem failure_texts (failure : Failure)
    : ∀ effect ∈ (Report.failure [] failure).effects, effect.isText :=
  List.forall_mem_singleton.mpr rfl

theorem infoEnding_texts (palette : Palette) (id : String)
    (result : Except Client.Error Execution)
    : ∀ effect ∈ (infoEnding palette id result).effects, effect.isText := by
  cases result with
  | error error => exact failure_texts _
  | ok execution =>
      refine List.forall_mem_append.mpr ⟨details_texts palette execution, ?_⟩
      split <;> simp [Effect.line, Effect.isText]

theorem listEnding_texts (palette : Palette) (project : String)
    (result : Except Client.Error Execution.Page)
    : ∀ effect ∈ (listEnding palette project result).effects, effect.isText := by
  cases result with
  | error error => exact failure_texts _
  | ok page =>
      refine List.forall_mem_append.mpr ⟨?_, ?_⟩
      · split
        · exact List.forall_mem_singleton.mpr rfl
        · refine List.forall_mem_cons.mpr ⟨rfl, List.forall_mem_cons.mpr ⟨rfl, ?_⟩⟩
          intro effect member
          obtain ⟨execution, -, inside⟩ := List.mem_flatMap.mp member
          exact summary_texts palette execution effect inside
      · unfold footer
        split <;> simp [Effect.line, Effect.isText]

/-- A single call asks for its endpoint. -/
theorem singleReport_asks_endpoints {α : Type} {connection : Client.Connection}
    {endpoint : Client.Endpoint} {exchange : Client.Exchange α}
    (sent : exchange.request = connection.request? endpoint)
    {ending : Except Client.Error α → Report}
    (texts : ∀ result, ∀ effect ∈ (ending result).effects, effect.isText)
    : AskEndpoints connection (singleReport exchange ending).effects := by
  rw [singleReport, Report.after, sent]
  exact .append (.of_request? endpoint) (.of_texts (texts _))

theorem FollowOptions.asks_endpoints (palette : Palette) (connection : Client.Connection)
    (options : FollowOptions) (replies : List Http.Reply) (waits : List Bool)
    : AskEndpoints connection (options.report palette connection replies waits).effects := by
  rw [report_effects]
  refine .append (.append (.of_steps _ (shown_isText palette) _) (.of_texts ?_))
    (.of_texts (ending_texts _ _ _))
  split
  · exact List.forall_mem_singleton.mpr rfl
  · exact List.forall_mem_nil _

namespace ExportOptions

variable {palette : Palette} {connection : Client.Connection} {options : ExportOptions}

theorem requests_ending (palette : Palette) (options : ExportOptions) (storage : Storage)
    (result : Except Client.Error (List UInt8))
    : Effect.requests (ending palette options storage result).effects = [] := by
  unfold ending
  split
  · split <;> rfl
  · rfl

theorem stopped?_texts {result : Except Client.Error Poll.Outcome} {report : Report}
    (stopped : stopped? palette options result = some report)
    : ∀ effect ∈ report.effects, effect.isText := by
  unfold stopped? at stopped
  split at stopped
  · cases stopped
  · obtain rfl := Option.some.inj stopped
    exact List.forall_mem_singleton.mpr rfl
  · obtain rfl := Option.some.inj stopped
    exact List.forall_mem_singleton.mpr rfl

theorem trackReport_asks_endpoints (palette : Palette) (connection : Client.Connection)
    (options : ExportOptions) (storage : Storage) (initial : Export.Status)
    (replies : List Http.Reply) (waits : List Bool)
    : AskEndpoints connection
        (trackReport palette connection options storage initial replies waits).effects := by
  have texts : ∀ percentage, (shown palette percentage).isText := fun _ => rfl
  rw [trackReport, Report.after, ← List.singleton_append]
  refine .append (.append (.append ?_ (.of_steps _ texts _)) ?_) ?_
  · exact .of_texts (List.forall_mem_singleton.mpr rfl)
  · exact .of_texts (List.forall_mem_singleton.mpr rfl)
  · split
    case h_1 report stopped => exact .of_texts (stopped?_texts stopped)
    case h_2 =>
      rw [Report.after, Client.Connection.downloadExport, Client.Connection.call_request]
      refine .append (.of_request? _) fun request member => ?_
      rw [requests_ending] at member
      cases member

theorem asks_endpoints (palette : Palette) (connection : Client.Connection)
    (options : ExportOptions) (storage : Storage) (replies : List Http.Reply) (waits : List Bool)
    : AskEndpoints connection
        (options.report palette connection storage replies waits).effects := by
  have sent : (connection.startExport options.project replies).request
      = connection.request? (.exportStart options.project) := Client.Connection.call_request
  rw [report, Report.after, sent]
  refine .append (.of_request? _) ?_
  split
  · exact trackReport_asks_endpoints _ _ _ _ _ _ _
  · exact .of_texts (failure_texts _)

end ExportOptions

/-- Every request of a command is for an endpoint of the server. -/
theorem Command.asks_endpoints (palette : Palette) (connection : Client.Connection)
    (storage : Storage) (replies : List Http.Reply) (waits : List Bool) (command : Command)
    : AskEndpoints connection
        (command.report palette connection storage replies waits).effects := by
  cases command with
  | follow options => exact options.asks_endpoints _ _ _ _
  | info id =>
      exact singleReport_asks_endpoints Client.Connection.call_request
        (infoEnding_texts palette id)
  | list project max offset =>
      exact singleReport_asks_endpoints Client.Connection.call_request
        (listEnding_texts palette project)
  | exportProject project file => exact ExportOptions.asks_endpoints _ _ _ _ _ _

/-- Effects are split without a loss, by induction. -/
theorem Interrupt.splitAt_append {count : Nat} {effects before behind : List Effect}
    (parts : splitAt count effects = some (before, behind))
    : effects = before ++ behind := by
  induction effects generalizing count before with
  | nil => cases parts
  | cons effect rest ih =>
      have later {count : Nat}
          (parts : (splitAt count rest).map (fun parts => (effect :: parts.1, parts.2))
            = some (before, behind))
          : effect :: rest = before ++ behind := by
        obtain ⟨⟨front, back⟩, found, same⟩ := Option.map_eq_some_iff.mp parts
        obtain ⟨rfl, rfl⟩ := Prod.mk.inj same
        rw [ih found, List.cons_append]
      cases effect with
      | request sent =>
          rw [splitAt] at parts
          split at parts
          · obtain ⟨rfl, rfl⟩ := Prod.mk.inj (Option.some.inj parts)
            rfl
          · exact later parts
      | out | err | store => exact later parts

/-- An interrupt makes no requests. -/
theorem Interrupt.apply_asks_endpoints {palette : Palette} {interrupt : Interrupt} {report : Report}
    {connection : Client.Connection} (asks : AskEndpoints connection report.effects)
    : AskEndpoints connection (interrupt.apply palette report).effects := by
  have silent : AskEndpoints connection [notice palette] :=
    .of_texts (List.forall_mem_singleton.mpr rfl)
  unfold apply
  cases parts : splitAt interrupt.request report.effects with
  | none => exact asks
  | some found =>
      obtain ⟨before, behind⟩ := found
      rw [splitAt_append parts] at asks
      obtain ⟨first, second⟩ := AskEndpoints.append_iff.mp asks
      dsimp only
      split
      · exact .append first silent
      · exact .append first (.append silent second)

-----------------------------------------------------------------------
-- Marks
-----------------------------------------------------------------------

namespace Settings

/-- The authorization that settings give a request: the token, or else the credentials in the
address of the server.
-/
def authorization (settings : Settings) : Option String :=
  match settings.token with
  | some token => some ("Bearer " ++ token)
  | none =>
    ((Http.Url.read? (settings.serverUrl.toList ++ ['/'])).bind Http.Url.credentials?).map
      ("Basic " ++ ·)

/-- A request carries what settings say, and asks for a document. -/
structure Marks (settings : Settings) (request : Http.Request) : Prop where
  method : request.method = "GET"
  accept : request.accept = "application/json"
  authorization : request.authorization = settings.authorization

/-- The requests of accepted settings carry what these say. -/
theorem marks_request {settings : Settings} (valid : settings.fault? = none)
    {resolver : Http.Resolver} {endpoint : Client.Endpoint} {request : Http.Request}
    (sent : (settings.connection resolver).request? endpoint = some request)
    : settings.Marks request := by
  obtain ⟨address, read, rfl⟩ := Client.Connection.address_of_request? sent
  refine ⟨rfl, rfl, ?_⟩
  have token : (settings.connection resolver).token = settings.token := rfl
  rw [authorization, Client.Connection.authorization, token]
  cases settings.token with
  | some token => rfl
  | none =>
      dsimp only
      rw [Client.Connection.urlText_below_base, baseUrl_connection] at read
      obtain ⟨text, http | https⟩ := serverUrl_scheme valid
      · rw [http, Http.Url.dropTrailing_http] at read
        rw [http, Http.Url.credentials?_continued read]
      · rw [https, Http.Url.dropTrailing_https, List.append_assoc, Http.Url.read?_https] at read
        cases read

end Settings

-----------------------------------------------------------------------
-- Sources of settings
-----------------------------------------------------------------------

/-- The options for settings, each with its variable. -/
def settingSources : List (Switch × String) :=
  settingsSwitches.zip ["DISPATCH_URL", "DISPATCH_TOKEN", "DISPATCH_POLL_INTERVAL_MS"]

/-- Each setting has the value of its option if this is given, else the value of its variable, and
else the standard one.
-/
structure Settings.AreEffective (given : List Given) (environment : Environment)
    (settings : Settings) : Prop where
  serverUrl : settings.serverUrl
    = (Given.value? given "url" <|> environment "DISPATCH_URL").getD "http://localhost:4440"
  token : settings.token = (Given.value? given "token" <|> environment "DISPATCH_TOKEN")
  pollInterval
    : ((Given.value? given "poll-interval-ms" <|> environment "DISPATCH_POLL_INTERVAL_MS").elim
        (some 2000) longNumber?)
      = some settings.pollInterval

theorem readSettings_effective {given : List Given} {environment : Environment}
    {settings : Settings} (read : readSettings given environment = .ok settings)
    : settings.AreEffective given environment := by
  simp only [readSettings, bind, Except.bind] at read
  cases interval : (Given.value? given "poll-interval-ms"
      <|> environment "DISPATCH_POLL_INTERVAL_MS") with
  | none =>
      rw [interval] at read
      obtain rfl := Except.ok.inj read
      exact ⟨rfl, rfl, by rw [interval]; rfl⟩
  | some text =>
      rw [interval] at read
      dsimp only at read
      cases number : longNumber? text with
      | none => rw [number] at read; cases read
      | some value =>
          rw [number] at read
          obtain rfl := Except.ok.inj read
          exact ⟨rfl, rfl, by rw [interval]; exact number⟩

/-- The proxies depend on their own variables alone. -/
theorem ofVariables_update {key : String} (other : key ∉ Http.Proxies.variableNames)
    (environment : Environment) (value : Option String)
    : Http.Proxies.ofVariables (Function.update environment key value)
      = Http.Proxies.ofVariables environment := by
  have same : ∀ name ∈ Http.Proxies.variableNames,
      Function.update environment key value name = environment name := fun name member =>
    Function.update_of_ne (ne_of_mem_of_not_mem member other) _ _
  simp only [Http.Proxies.variableNames, List.forall_mem_cons, List.not_mem_nil, false_imp_iff,
    implies_true, and_true] at same
  simp [Http.Proxies.ofVariables, Http.Proxies.first, List.findSome?_cons, same]

/-- A value in the environment counts as if it were given. -/
theorem readSettings_written {source : Switch × String} (isSource : source ∈ settingSources)
    {front others : List Given} (absent : source.1.name ∉ Given.names (front ++ others))
    (environment : Environment) (text : String)
    : readSettings (front ++ .value source.1.name text :: others) environment
      = readSettings (front ++ others) (Function.update environment source.2 (some text)) := by
  have none := Given.value?_none absent
  have given := Given.value?_written absent text
  have apart : ∀ source ∈ settingSources, source.2 ∉ Http.Proxies.variableNames := by decide
  have proxies := ofVariables_update (apart source isSource) environment (some text)
  simp only [settingSources, settingsSwitches, List.zip_cons_cons, List.zip_nil_left, List.mem_cons,
    List.not_mem_nil, or_false] at isSource
  rcases isSource with rfl | rfl | rfl
  all_goals
    dsimp only at none given proxies
    simp [readSettings, given, none, proxies, Function.update]

/-- A value that no option takes is taken from no variable either. -/
theorem readSettings_refused {source : Switch × String} (isSource : source ∈ settingSources)
    {given : List Given} (absent : source.1.name ∉ Given.names given) (environment : Environment)
    {text : String} (refused : source.1.accepts text = false)
    : readSettings given (Function.update environment source.2 (some text)) = .error .invalid := by
  have none := Given.value?_none absent
  simp only [settingSources, settingsSwitches, List.zip_cons_cons, List.zip_nil_left, List.mem_cons,
    List.not_mem_nil, or_false] at isSource
  rcases isSource with rfl | rfl | rfl
  · cases refused
  · cases refused
  · have noNumber : longNumber? text = .none := by
      simpa [Switch.accepts, ValueKind.accepts] using refused
    dsimp only at none
    simp [readSettings, none, noNumber, require]

theorem choose_update {source : Switch × String} (isSource : source ∈ settingSources)
    (environment : Environment) (value : Option String) (terminal : Bool)
    : Palette.choose (Function.update environment source.2 value) terminal
      = Palette.choose environment terminal := by
  simp only [settingSources, settingsSwitches, List.zip_cons_cons, List.zip_nil_left, List.mem_cons,
    List.not_mem_nil, or_false] at isSource
  rcases isSource with rfl | rfl | rfl
  all_goals simp [Palette.choose, Function.update]

/-- The options for settings are told by their names, which have no equals sign. -/
theorem settingSources_listed
    : ∀ source ∈ settingSources,
        (Switch.help :: settingsSwitches).find? (·.name == source.1.name) = some source.1
        ∧ '=' ∉ source.1.name.toList := by
  decide

section Written

variable {source : Switch × String} {before behind : List String} {front : List Given}

/-- An option in one word with its value stands for the variable that has the value. -/
theorem Invocation.read_written (isSource : source ∈ settingSources)
    (all : scan settingsSwitches true before = .ok (front, [])) (unseparated : "--" ∉ before)
    {given : List Given} {rest : List String}
    (short : scan settingsSwitches true (before ++ behind) = .ok (given, rest))
    (absent : source.1.name ∉ Given.names given) {text : String}
    (accepted : source.1.accepts text) (environment : Environment)
    : Invocation.read (before ++ source.1.written text :: behind) environment
      = Invocation.read (before ++ behind)
          (Function.update environment source.2 (some text)) := by
  obtain ⟨listed, plain⟩ := settingSources_listed source isSource
  obtain ⟨others, rfl, long⟩ :=
    scan_written_of_scan listed plain all unseparated short absent accepted
  rw [Invocation.read, Invocation.read, long, short]
  simp only [bind, Except.bind, readSettings_written isSource absent]

/-- If either of them is accepted, so is the other. -/
theorem Invocation.read_written_toOption (isSource : source ∈ settingSources)
    (all : scan settingsSwitches true before = .ok (front, [])) (unseparated : "--" ∉ before)
    (absent : ∀ given rest, scan settingsSwitches true (before ++ behind) = .ok (given, rest)
      → source.1.name ∉ Given.names given) (text : String) (environment : Environment)
    : (Invocation.read (before ++ source.1.written text :: behind) environment).toOption
      = (Invocation.read (before ++ behind)
          (Function.update environment source.2 (some text))).toOption := by
  obtain ⟨listed, plain⟩ := settingSources_listed source isSource
  cases long : scan settingsSwitches true (before ++ source.1.written text :: behind) with
  | ok found =>
      obtain ⟨accepted, others, short⟩ := scan_of_scan_written listed plain all unseparated long
      rw [read_written isSource all unseparated short (absent others _ short) accepted]
  | error refusal =>
      have refused : (Invocation.read (before ++ source.1.written text :: behind)
          environment).toOption = none := by
        rw [Invocation.read, long]
        rfl
      rw [refused]
      cases short : scan settingsSwitches true (before ++ behind) with
      | error other =>
          rw [Invocation.read, short]
          rfl
      | ok found =>
          obtain ⟨given, rest⟩ := found
          cases accepted : source.1.accepts text with
          | true =>
              obtain ⟨others, -, isLong⟩ := scan_written_of_scan listed plain all unseparated short
                (absent given rest short) accepted
              cases long.symm.trans isLong
          | false =>
              have noSettings := readSettings_refused isSource (absent given rest short)
                environment accepted
              rw [Invocation.read, short]
              simp only [bind, Except.bind, noSettings]
              cases MenuItem.choose menu rest <;> rfl

end Written

-----------------------------------------------------------------------
-- Runs
-----------------------------------------------------------------------

/-- A report under its settings. If they cannot be used, nothing is done. Each request asks for a
document and carries the token, or else the credentials in the address of the server, of which
there are none without an at sign.
-/
structure Settings.Govern (settings : Settings) (report : Report) : Prop where
  unusable : ∀ fault ∈ settings.fault?,
    report.status = 1 ∧ Effect.requests report.effects = [] ∧ Effect.files report.effects = []
  marks : ∀ request ∈ Effect.requests report.effects, settings.Marks request
  bearer : ∀ token ∈ settings.token, ∀ request ∈ Effect.requests report.effects,
    request.authorization = some ("Bearer " ++ token)
  bare : settings.token = none → '@' ∉ settings.serverUrl.toList
    → ∀ request ∈ Effect.requests report.effects, request.authorization = none

/-- Settings without a token and without an at sign authorize nothing. -/
theorem Settings.authorization_none {settings : Settings} (valid : settings.fault? = none)
    (noToken : settings.token = none) (noAt : '@' ∉ settings.serverUrl.toList)
    : settings.authorization = none := by
  rw [authorization, noToken]
  dsimp only
  obtain ⟨text, http | https⟩ := serverUrl_scheme valid
  · rw [http] at noAt
    have behind : '@' ∉ text ++ ['/'] := by
      simp at noAt ⊢
      exact noAt
    rw [http, List.append_assoc, Http.Url.no_credentials behind]
    rfl
  · rw [https, List.append_assoc, Http.Url.read?_https]
    rfl

theorem Invocation.report_governed (palette : Palette) (storage : Storage)
    (resolver : Http.Resolver) (replies : List Http.Reply) (interrupt : Option Interrupt)
    (invocation : Invocation)
    : invocation.settings.Govern
        (invocation.report palette storage resolver replies interrupt) := by
  cases fault : invocation.settings.fault? with
  | some reason =>
      have same : invocation.report palette storage resolver replies interrupt = reason.report := by
        rw [report, fault]
      have silent : Effect.requests reason.report.effects = [] := rfl
      rw [same]
      refine ⟨fun _ _ => ⟨rfl, silent, rfl⟩, ?_, ?_, ?_⟩ <;> simp [silent]
  | none =>
      have asks : AskEndpoints (invocation.settings.connection resolver)
          (invocation.report palette storage resolver replies interrupt).effects := by
        rw [report, fault]
        cases interrupt with
        | none => exact Command.asks_endpoints _ _ _ _ _ _
        | some interrupt =>
            exact Interrupt.apply_asks_endpoints (Command.asks_endpoints _ _ _ _ _ _)
      have marks : ∀ request ∈ Effect.requests
            (invocation.report palette storage resolver replies interrupt).effects,
          invocation.settings.Marks request := fun request member => by
        obtain ⟨endpoint, sent⟩ := asks request member
        exact Settings.marks_request fault sent
      refine ⟨fun _ some => ?_, marks, fun token isToken request member => ?_,
        fun noToken noAt request member => ?_⟩
      · rw [fault] at some
        cases some
      · rw [(marks request member).authorization, Settings.authorization, isToken]
      · rw [(marks request member).authorization,
          Settings.authorization_none fault noToken noAt]

/-- An accepted command line has options that are scanned, and effective settings. -/
theorem Invocation.read_accepted {words : List String} {environment : Environment}
    {invocation : Invocation} (accepted : Invocation.read words environment = .ok invocation)
    : ∃ given rest,
        scan settingsSwitches true words = .ok (given, rest)
        ∧ invocation.settings.AreEffective given environment := by
  simp only [Invocation.read, bind, Except.bind] at accepted
  cases scanned : scan settingsSwitches true words with
  | error refusal => rw [scanned] at accepted; cases accepted
  | ok found =>
      obtain ⟨given, rest⟩ := found
      rw [scanned] at accepted
      dsimp only at accepted
      split at accepted
      · cases accepted
      · split at accepted
        case h_1 => cases accepted
        case h_2 settings read =>
          obtain rfl := Except.ok.inj accepted
          exact ⟨given, rest, rfl, readSettings_effective read⟩

/-- Settings gate and mark the requests of a run. Without an accepted command line nothing is run.
With one, its settings are effective, and govern the report, whatever is answered. So an option
with its value in one word does what its variable does with this value: either of them is
accepted if the other is, and what is run is the same; a refusal is the same as well if the value
and the other options are accepted.
-/
theorem settings_gate_and_mark_requests (environment : Environment) (storage : Storage)
    (resolver : Http.Resolver) (replies : List Http.Reply) (interrupt : Option Interrupt)
    : (∀ words refusal,
        Invocation.read words environment = .error refusal
        → run words environment storage resolver replies interrupt = .error refusal)
      ∧ (∀ words invocation,
        Invocation.read words environment = .ok invocation
        → ∃ report given rest,
          run words environment storage resolver replies interrupt = .ok report
          ∧ scan settingsSwitches true words = .ok (given, rest)
          ∧ invocation.settings.AreEffective given environment
          ∧ invocation.settings.Govern report)
      ∧ ∀ source ∈ settingSources, ∀ before behind front text,
        scan settingsSwitches true before = .ok (front, [])
        → "--" ∉ before
        → (∀ given rest, scan settingsSwitches true (before ++ behind) = .ok (given, rest)
          → source.1.name ∉ Given.names given)
        → let optioned :=
            run (before ++ source.1.written text :: behind) environment storage resolver replies
              interrupt
          let configured :=
            run (before ++ behind) (Function.update environment source.2 (some text)) storage
              resolver replies interrupt
          optioned.toOption = configured.toOption
          ∧ (source.1.accepts text
            → (scan settingsSwitches true (before ++ behind)).toOption.isSome
            → optioned = configured) := by
  refine ⟨fun words refusal refused => ?_, fun words invocation accepted => ?_, ?_⟩
  · rw [run, refused]
    rfl
  · obtain ⟨given, rest, scanned, effective⟩ := Invocation.read_accepted accepted
    refine ⟨_, given, rest, ?_, scanned, effective,
      Invocation.report_governed (.choose environment false) storage resolver replies interrupt
        invocation⟩
    rw [run, accepted]
    rfl
  · intro source isSource before behind front text all unseparated absent optioned configured
    have sameColors : configured
        = (Invocation.read (before ++ behind)
            (Function.update environment source.2 (some text))).map
          (Invocation.report (.choose environment false) storage resolver replies interrupt) := by
      rw [← choose_update isSource environment (some text) false]
      rfl
    have toOption_map (read : Except Refusal Invocation) (report : Invocation → Report)
        : (read.map report).toOption = read.toOption.map report := by
      cases read <;> rfl
    refine ⟨?_, fun accepted isShort => ?_⟩
    · rw [sameColors, toOption_map,
        ← Invocation.read_written_toOption isSource all unseparated absent text environment,
        ← toOption_map]
      rfl
    · cases short : scan settingsSwitches true (before ++ behind) with
      | error refusal => rw [short] at isShort; cases isShort
      | ok found =>
          obtain ⟨given, rest⟩ := found
          rw [sameColors, ← Invocation.read_written isSource all unseparated short
            (absent given rest short) accepted environment]
          rfl

/-- The variables of a server. -/
def serverVariables : Environment :=
  Function.update (fun _ => none) "DISPATCH_URL" (some "http://[::1]:4440")

/-- An execution is asked for with a token, given with its option or in its variable. -/
theorem token_is_carried
    : ∃ report request,
        run ["--token=secret", "executions", "info", "5"] serverVariables (fun _ => none) .offline
            [] none
          = .ok report
        ∧ request ∈ Effect.requests report.effects
        ∧ request.authorization = some "Bearer secret"
        ∧ run ["executions", "info", "5"]
            (Function.update serverVariables "DISPATCH_TOKEN" (some "secret")) (fun _ => none)
            .offline [] none
          = .ok report := by
  obtain ⟨-, accepted, sources⟩ :=
    settings_gate_and_mark_requests serverVariables (fun _ => none) .offline [] none
  have read : Invocation.read ["--token=secret", "executions", "info", "5"] serverVariables
      = .ok ⟨⟨"http://[::1]:4440", some "secret", 2000, .none⟩, .info "5"⟩ :=
    rfl
  have asks : (run ["--token=secret", "executions", "info", "5"] serverVariables (fun _ => none)
      .offline [] none).toOption.any fun report => !(Effect.requests report.effects).isEmpty := by
    decide +kernel
  obtain ⟨report, given, rest, isReport, -, -, governs⟩ := accepted _ _ read
  rw [isReport] at asks
  obtain ⟨request, others, requests⟩ : ∃ request others,
      Effect.requests report.effects = request :: others := by
    cases requests : Effect.requests report.effects with
    | nil => simp [Except.toOption, requests] at asks
    | cons request others => exact ⟨request, others, rfl⟩
  have member : request ∈ Effect.requests report.effects := by
    rw [requests]
    exact List.mem_cons_self
  have isSource : (⟨"token", none, some .text⟩, "DISPATCH_TOKEN") ∈ settingSources := by decide
  have short : scan settingsSwitches true ["executions", "info", "5"]
      = .ok ([], ["executions", "info", "5"]) :=
    rfl
  have same := (sources _ isSource [] ["executions", "info", "5"] [] "secret" rfl (by decide)
    fun given rest isShort => by
      obtain ⟨rfl, -⟩ := Prod.mk.inj (Except.ok.inj (short.symm.trans isShort))
      exact List.not_mem_nil).2 rfl (by rw [List.nil_append, short]; rfl)
  refine ⟨report, request, isReport, member, governs.bearer "secret" rfl request member, ?_⟩
  exact same.symm.trans isReport

/-- Without a token, credentials in the address of the server authorize a request. -/
theorem credentials_authorize_without_token
    : ∃ invocation report request,
        Invocation.read ["--url", "http://user:pw@[::1]:4440", "executions", "info", "5"]
            (fun _ => none)
          = .ok invocation
        ∧ invocation.settings.token = none
        ∧ run ["--url", "http://user:pw@[::1]:4440", "executions", "info", "5"] (fun _ => none)
            (fun _ => none) .offline [] none
          = .ok report
        ∧ request ∈ Effect.requests report.effects
        ∧ request.authorization = some "Basic dXNlcjpwdw==" := by
  have asks : (run ["--url", "http://user:pw@[::1]:4440", "executions", "info", "5"]
      (fun _ => none) (fun _ => none) .offline [] none).toOption.any fun report =>
        (Effect.requests report.effects).any
          (·.authorization = some "Basic dXNlcjpwdw==") := by
    decide +kernel
  cases isReport : run ["--url", "http://user:pw@[::1]:4440", "executions", "info", "5"]
      (fun _ => none) (fun _ => none) .offline [] none with
  | error refusal => rw [isReport] at asks; cases asks
  | ok report =>
      rw [isReport] at asks
      obtain ⟨request, member, isBasic⟩ := List.any_eq_true.mp asks
      exact ⟨⟨⟨"http://user:pw@[::1]:4440", none, 2000, .none⟩, .info "5"⟩, report, request, rfl,
        rfl, rfl, member, of_decide_eq_true isBasic⟩

end JobWatch.CommandLine
