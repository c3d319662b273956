import JobWatch.Proofs.Client.Sending
import JobWatch.Proofs.Client.ServedAnswers
import JobWatch.Proofs.Poll.HonestLog

/-! A run over a connection beside the run on a script of what the server answers. Both take the
same steps, and every request of the script is sent. Only an address that is too long makes a
difference: the run over the connection ends where it would be asked for.
-/

namespace JobWatch.Client

open JobWatch.Http JobWatch.Poll

variable {State Asked Answer Event Scripted : Type}

-----------------------------------------------------------------------
-- Beside a script
-----------------------------------------------------------------------

/-- The error of a script as it shows over a connection. The status 404 means that what was asked
for is missing, and at the end of the script the server has no reply.
-/
def overWire (missing : Error) : Error → Error
  | .answered 404 _ => missing
  | .answered status message => .answered status message
  | .requestFailed | .unreadable _ | .unknownExecution _ | .unknownExport _ _ => .requestFailed

/-- The requests that a run sends over a connection, in order. -/
def sentRequests (connection : Connection) (endpoint : Asked → Endpoint)
    (run : Run Asked Event Reply) : List Request :=
  (requests run.steps).filterMap fun asked => connection.request? (endpoint asked)

/-- A run over a connection refines a run on a script: it takes the same steps, sends a request for
each one of the script and ends the same way, or it takes the steps before the first request whose
address is too long and fails.
-/
inductive Refines (connection : Connection) (endpoint : Asked → Endpoint) (missing : Error)
    (scripted : Run Asked Event Scripted) (wire : Run Asked Event Reply) : Prop
  | whole (fits : ∀ asked ∈ requests scripted.steps, connection.Fits (endpoint asked))
    (steps : wire.steps = scripted.steps)
    (sent : (sentRequests connection endpoint wire).map some
      = (requests scripted.steps).map fun asked => connection.request? (endpoint asked))
    (result : wire.result = scripted.result.mapError (overWire missing))
  | cut {before behind : List (Step Asked Event)} {asked : Asked}
    (scriptedSteps : scripted.steps = before ++ .request asked :: behind)
    (fits : ∀ earlier ∈ requests before, connection.Fits (endpoint earlier))
    (tooLong : ¬connection.Fits (endpoint asked))
    (steps : wire.steps = before)
    (sent : (sentRequests connection endpoint wire).map some
      = (requests before).map fun asked => connection.request? (endpoint asked))
    (result : wire.result = .error .requestFailed)

variable {connection : Connection} {base : PlainBase} {endpoint : Asked → Endpoint}
  {missing : Error}

/-- If all requests of a run can be sent, as many are sent as there are. -/
theorem sentRequests_map_some {run : Run Asked Event Reply}
    (sendable : ∀ asked ∈ requests run.steps, (connection.request? (endpoint asked)).isSome)
    : (sentRequests connection endpoint run).map some
      = (requests run.steps).map fun asked => connection.request? (endpoint asked) := by
  unfold sentRequests
  revert sendable
  induction requests run.steps with
  | nil => exact fun _ => rfl
  | cons asked rest ih =>
      intro sendable
      obtain ⟨request, sent⟩ := Option.isSome_iff_exists.mp (sendable asked List.mem_cons_self)
      have others := ih fun other member => sendable other (List.mem_cons_of_mem _ member)
      simp only [List.filterMap_cons, List.map_cons, sent, others]

/-- Runs that take the same steps and end the same way refine, at a server that is led to. -/
theorem Refines.of_fitting (leads : connection.LeadsTo base) {scripted : Run Asked Event Scripted}
    {wire : Run Asked Event Reply}
    (fits : ∀ asked ∈ requests scripted.steps, connection.Fits (endpoint asked))
    (steps : wire.steps = scripted.steps)
    (result : wire.result = scripted.result.mapError (overWire missing))
    : Refines connection endpoint missing scripted wire := by
  refine .whole fits steps ?_ result
  rw [← steps] at fits ⊢
  exact sentRequests_map_some fun asked member => leads.sends_iff.mpr (fits asked member)

/-- A run that stops in front of a long address refines, at a server that is led to. -/
theorem Refines.of_cut (leads : connection.LeadsTo base) {scripted : Run Asked Event Scripted}
    {wire : Run Asked Event Reply} {behind : List (Step Asked Event)} {asked : Asked}
    (scriptedSteps : scripted.steps = wire.steps ++ .request asked :: behind)
    (fits : ∀ earlier ∈ requests wire.steps, connection.Fits (endpoint earlier))
    (tooLong : ¬connection.Fits (endpoint asked)) (result : wire.result = .error .requestFailed)
    : Refines connection endpoint missing scripted wire :=
  .cut scriptedSteps fits tooLong rfl
    (sentRequests_map_some fun earlier member => leads.sends_iff.mpr (fits earlier member)) result

/-- Refinement is kept under the same steps in front of both runs, if they ask for nothing too long.
-/
theorem Refines.after (leads : connection.LeadsTo base) {scripted : Run Asked Event Scripted}
    {wire : Run Asked Event Reply} (refines : Refines connection endpoint missing scripted wire)
    {steps : List (Step Asked Event)}
    (stepsFit : ∀ asked ∈ requests steps, connection.Fits (endpoint asked))
    : Refines connection endpoint missing (scripted.after steps) (wire.after steps) := by
  have allFit {rest : List (Step Asked Event)}
      (fits : ∀ asked ∈ requests rest, connection.Fits (endpoint asked))
      : ∀ asked ∈ requests (steps ++ rest), connection.Fits (endpoint asked) := by
    rw [requests_append]
    exact List.forall_mem_append.mpr ⟨stepsFit, fits⟩
  cases refines with
  | whole fits sameSteps sent result =>
      refine .of_fitting leads (allFit fits) ?_ result
      rw [Run.after_steps, Run.after_steps, sameSteps]
  | @cut before behind asked scriptedSteps fits tooLong isBefore sent result =>
      subst isBefore
      have after : (scripted.after steps).steps
          = (wire.after steps).steps ++ .request asked :: behind := by
        rw [Run.after_steps, Run.after_steps, scriptedSteps, List.append_assoc]
      exact .of_cut leads after (allFit fits) tooLong result

-----------------------------------------------------------------------
-- One poll
-----------------------------------------------------------------------

section Poll

variable {α : Type} {read : Wire.Reader α} {asked : Asked}

/-- A request whose address is not too long is sent. -/
theorem service_accepts (leads : connection.LeadsTo base)
    (fits : connection.Fits (endpoint asked)) (read : Reply → Except Error α)
    : (connection.service endpoint read).refusal? asked = none :=
  if_pos (leads.sends_iff.mpr fits)

/-- A request whose address is too long fails without being sent. -/
theorem service_refuses (leads : connection.LeadsTo base)
    (tooLong : ¬connection.Fits (endpoint asked)) (read : Reply → Except Error α)
    : (connection.service endpoint read).refusal? asked = some .requestFailed :=
  if_neg fun sendable => tooLong (leads.sends_iff.mp sendable)

/-- A served document is the answer to a request. -/
theorem service_answer_ok {served : ServedAnswer read} {answer : α}
    (isAnswer : served.answer = .ok answer)
    : (connection.service endpoint (document read)).answer asked served.reply = .ok answer :=
  Connection.service_reads.mpr (served.document_reply.trans isAnswer)

/-- A served refusal is the error of a request, seen in the light of what was asked for. -/
theorem service_answer_error {served : ServedAnswer read} {error : Error}
    (specifies : ∀ status message, (endpoint asked).specify (.answered status message)
      = overWire missing (.answered status message))
    (isAnswer : served.answer = .error error)
    : (connection.service endpoint (document read)).answer asked served.reply
      = .error (overWire missing error) := by
  change (document read served.reply).mapError (endpoint asked).specify = _
  rw [served.document_reply, isAnswer]
  cases served with
  | document => cases isAnswer
  | refusal status message =>
      obtain rfl := Except.error.inj isAnswer
      exact congrArg Except.error (specifies status message)

/-- A run on a script begins with its first request. -/
theorem scripted_begins {loop : Loop State Asked Answer Event} {state : State}
    {script : List (Except Error Answer)} {waits : List Bool}
    {run : Run Asked Event (Except Error Answer)} (ran : loop.Ran .scripted state script waits run)
    : ∃ behind, run.steps = .request (loop.request state) :: behind := by
  cases ran with
  | refused refusal => cases refusal
  | exhausted | failed | ended | cancelled | continued => exact ⟨_, rfl⟩

/-- To refine a run on a script, a run over a connection only has to be looked at when its first
request is sent: otherwise it fails at once, in front of the request that is too long.
-/
theorem refines_unless_long {loop : Loop State Asked Answer Event}
    {readReply : Reply → Except Error Answer} (leads : connection.LeadsTo base) {state : State}
    {script : List (Except Error Answer)} {waits : List Bool}
    {run : Run Asked Event (Except Error Answer)} (ran : loop.Ran .scripted state script waits run)
    (replies : List Reply)
    (sent : connection.Fits (endpoint (loop.request state))
      → (connection.service endpoint readReply).refusal? (loop.request state) = none
      → Refines connection endpoint missing run
          (loop.run (connection.service endpoint readReply) state replies waits))
    : Refines connection endpoint missing run
        (loop.run (connection.service endpoint readReply) state replies waits) := by
  by_cases fits : connection.Fits (endpoint (loop.request state))
  · exact sent fits (service_accepts leads fits _)
  · obtain ⟨behind, begins⟩ := scripted_begins ran
    rw [(Loop.Ran.refused (service_refuses leads fits _)).run_eq]
    exact .of_cut leads begins (fun _ member => nomatch member) fits rfl

end Poll

-----------------------------------------------------------------------
-- Whole runs
-----------------------------------------------------------------------

/-- A loop over a connection refines the loop on the script of what the server answers. Witness:
induction on the run on the script. A request that is too long ends the other run in front of it,
and else both polls have the same answer and leave the same state.
-/
theorem refines_of_ran {loop : Loop State Asked Answer Event} {read : Wire.Reader Answer}
    (leads : connection.LeadsTo base)
    (specifies : ∀ state status message,
      (endpoint (loop.request state)).specify (.answered status message)
        = overWire missing (.answered status message))
    {state : State} {script : List (Except Error Answer)} {waits : List Bool}
    {run : Run Asked Event (Except Error Answer)} (ran : loop.Ran .scripted state script waits run)
    {served : List (ServedAnswer read)} (isScript : served.map (·.answer) = script)
    : Refines connection endpoint missing run
        (loop.run (connection.service endpoint (document read)) state (served.map (·.reply))
          waits) := by
  induction ran generalizing served with
  | refused refusal => cases refusal
  | exhausted sent =>
      refine refines_unless_long leads (.exhausted sent) _ fun fits taken => ?_
      obtain rfl := List.map_eq_nil_iff.mp isScript
      rw [List.map_nil, (Loop.Ran.exhausted taken).run_eq]
      exact .of_fitting leads (List.forall_mem_singleton.mpr fits) rfl rfl
  | @failed state _ _ _ _ sent failure =>
      refine refines_unless_long leads (.failed sent failure) _ fun fits taken => ?_
      obtain ⟨first, rest, rfl, isAnswer, rfl⟩ := List.map_eq_cons_iff.mp isScript
      rw [List.map_cons, (Loop.Ran.failed taken (service_answer_error (specifies state)
        (isAnswer.trans failure))).run_eq]
      exact .of_fitting leads (List.forall_mem_singleton.mpr fits) rfl rfl
  | ended sent answered verdict =>
      refine refines_unless_long leads (.ended sent answered verdict) _ fun fits taken => ?_
      obtain ⟨first, rest, rfl, isAnswer, rfl⟩ := List.map_eq_cons_iff.mp isScript
      rw [List.map_cons, (Loop.Ran.ended taken (service_answer_ok (isAnswer.trans answered))
        verdict).run_eq]
      exact .of_fitting leads (by simpa using fits) rfl rfl
  | cancelled sent answered undecided stops =>
      refine refines_unless_long leads (.cancelled sent answered undecided stops) _
        fun fits taken => ?_
      obtain ⟨first, rest, rfl, isAnswer, rfl⟩ := List.map_eq_cons_iff.mp isScript
      rw [List.map_cons, (Loop.Ran.cancelled taken (service_answer_ok (isAnswer.trans answered))
        undecided stops).run_eq]
      exact .of_fitting leads (by simpa using fits) rfl rfl
  | @continued state _ _ waits answer run sent answered undecided continues rest ih =>
      refine refines_unless_long leads (.continued sent answered undecided continues rest) _
        fun fits taken => ?_
      obtain ⟨first, others, rfl, isAnswer, isRest⟩ := List.map_eq_cons_iff.mp isScript
      have goesOn := loop.ran (connection.service endpoint (document read))
        (loop.advance state answer) (others.map (·.reply)) waits.tail
      rw [List.map_cons, (Loop.Ran.continued taken (service_answer_ok (isAnswer.trans answered))
        undecided continues goesOn).run_eq]
      exact (ih isRest).after leads (by simpa using fits)

/-- Following and tracking over a connection refine following and tracking on a script, whatever the
server answers, whatever becomes of the lines and however long the waits let them go on. What is
missing at the status 404 is the execution, or the export of the token that tracking began with.
-/
theorem served_runs_refine_scripts (leads : connection.LeadsTo base) (waits : List Bool)
    : (∀ (id : String) (start : Start) (maxLines : UInt32)
          (deliver : List Output.Entry → List Event)
          (served : List (ServedAnswer Output.Batch.decode)),
        Refines connection (.output id) (.unknownExecution id)
          (follow .scripted start maxLines deliver (served.map (·.answer)) waits)
          (follow (connection.outputService id) start maxLines deliver (served.map (·.reply))
            waits))
      ∧ ∀ (project : String) (initial : Export.Status)
          (served : List (ServedAnswer Export.Status.decode)),
        Refines connection (.exportStatus project) (.unknownExport project initial.token)
          (track .scripted initial (served.map (·.answer)) waits)
          (track (connection.statusService project) initial (served.map (·.reply)) waits) := by
  constructor
  · intro id start maxLines deliver served
    have specifies (query : OutputQuery) (status : Nat) (message : String)
        : (Endpoint.output id query).specify (.answered status message)
          = overWire (.unknownExecution id) (.answered status message) := by
      change Error.forExecution id _ = _
      by_cases missing : status = 404 <;> simp [Error.forExecution, overWire, missing]
    exact refines_of_ran leads specifies (Loop.ran _ _ _ _ _) rfl
  · intro project initial served
    have specifies (_ : UInt32) (status : Nat) (message : String)
        : (Endpoint.exportStatus project initial.token).specify (.answered status message)
          = overWire (.unknownExport project initial.token) (.answered status message) := by
      change Error.forExport project initial.token _ = _
      by_cases missing : status = 404 <;> simp [Error.forExport, overWire, missing]
    exact refines_of_ran leads specifies (Loop.ran _ _ _ _ _) rfl

/-- A connection to the server on the machine itself, with a token. -/
def localConnection : Connection :=
  { connect localServer.text (some "secret") with resolver := .offline }

theorem localConnection_leads : localConnection.LeadsTo localServer where
  known := localServer.baseUrl_connect (some "secret")
  reached := ⟨([], .address (.v6 1), some 8080), by decide +kernel, rfl⟩
  legal := by decide

/-- An output that goes on, with one line so far. -/
def runningOutput : ServedAnswer Output.Batch.decode :=
  .document "\x7b\"offset\":\"12\",\"lastModified\":7,\"entries\":[\x7b\"log\":\"one\"\x7d]\x7d"
    { id := none, message := none, error := none, unmodified := false, empty := false, offset := 12,
      completed := false, execCompleted := false, hasFailedNodes := false, execState := "",
      lastModified := 7, execDuration := 0, percentLoaded := ⟨false, 0⟩, totalSize := 0,
      entries := [⟨none, .normal, "one", none, none, none⟩] }
    (by decide +kernel)

/-- An execution that is not there any more. -/
def goneExecution : ServedAnswer Output.Batch.decode :=
  .refusal 404 "gone" (by decide) (by decide)

/-- An execution that is removed while it is followed is unknown over a connection. -/
theorem removed_execution_refines
    : let served := [runningOutput, goneExecution]
      let scripted := follow .scripted (.tail 5) 500 (·.map (·.log)) (served.map (·.answer)) []
      let wire := follow (localConnection.outputService "a b") (.tail 5) 500 (·.map (·.log))
        (served.map (·.reply)) []
      localConnection.LeadsTo localServer
      ∧ Refines localConnection (.output "a b") (.unknownExecution "a b") scripted wire
      ∧ scripted.steps = [.request (.tail 5), .event "one", .wait true,
          .request (.after ⟨12, 7, 500⟩)]
      ∧ wire.result = .error (.unknownExecution "a b") := by
  intro served scripted wire
  refine ⟨localConnection_leads, ?_, rfl, by decide +kernel⟩
  exact (served_runs_refine_scripts localConnection_leads []).1 "a b" (.tail 5) 500 (·.map (·.log))
    served

/-- An identifier that is longer than any address may be. -/
def longId : String :=
  String.ofList (List.replicate 70000 'a')

/-- The address of the output with this identifier is too long, whatever is asked for of it. -/
theorem longId_not_fits (query : OutputQuery) : ¬localConnection.Fits (.output longId query) := by
  have isLong : longId.toList = List.replicate 70000 'a' := String.toList_ofList
  have plain : IsPlainSegment longId.toList := by
    rw [isLong]
    exact .replicate (by decide) (by decide)
  refine Connection.not_fits_of_long localConnection_leads.known
    (List.forall_mem_singleton.mpr plain) List.mem_cons_self ?_
  rw [isLong, List.length_replicate]
  decide

/-- An output that is at its end. -/
def finishedOutput : ServedAnswer Output.Batch.decode :=
  .document "\x7b\"completed\":true,\"execCompleted\":true,\"execState\":\"succeeded\"\x7d"
    { id := none, message := none, error := none, unmodified := false, empty := false, offset := 0,
      completed := true, execCompleted := true, hasFailedNodes := false, execState := "succeeded",
      lastModified := 0, execDuration := 0, percentLoaded := ⟨false, 0⟩, totalSize := 0,
      entries := [] }
    (by decide +kernel)

/-- An execution whose identifier is too long is not asked for, even if the server would answer. -/
theorem long_id_is_not_asked_for
    : let scripted := follow .scripted .restart 500 id [finishedOutput.answer] []
      let wire := follow (localConnection.outputService longId) .restart 500 id
        [finishedOutput.reply] []
      localConnection.LeadsTo localServer
      ∧ requests scripted.steps = [.after (.start 500)]
      ∧ scripted.result = .ok (.completed true)
      ∧ sentRequests localConnection (.output longId) wire = []
      ∧ wire.result = .error .requestFailed := by
  intro scripted wire
  have refused : wire = ⟨[], .error .requestFailed, [finishedOutput.reply]⟩ :=
    (Loop.Ran.refused (service_refuses localConnection_leads (longId_not_fits _) _)).run_eq
  rw [refused]
  exact ⟨localConnection_leads, rfl, rfl, rfl, rfl⟩

end JobWatch.Client
