import JobWatch.Proofs.Client.ServedRuns

/-! What comes of a call for every reply to it: the value of a granted reply, or an error that tells
the status. All endpoints share one table of results, which they differ in by what they read of a
body and by what the status 404 says about them.
-/

namespace JobWatch

namespace Http.Reply

/-- The status of a reply that is not dropped. -/
def status? : Reply → Option Nat
  | .dropped => none
  | .answered status _ _ => some status

end Http.Reply

namespace Client

open JobWatch.Http JobWatch.Poll

variable {α : Type}

-----------------------------------------------------------------------
-- The table of results
-----------------------------------------------------------------------

/-- What the status 404 says to be missing about an endpoint. -/
def Endpoint.missing? : Endpoint → Option Error
  | execution id | output id _ => some (.unknownExecution id)
  | exportStatus project token | exportDownload project token => some (.unknownExport project token)
  | executions _ _ _ | exportStart _ => none

/-- The result of an endpoint for a reply. It depends on what a whole body reads as, and on the
error of a granted body that does not arrive as a whole.
-/
inductive Yields (endpoint : Endpoint) (reads : List UInt8 → α → Prop) (cut : Error)
    : Reply → Except Error α → Prop
  | dropped : Yields endpoint reads cut .dropped (.error .requestFailed)
  | read {status : Nat} {body : List UInt8} {value : α} (granted : 200 ≤ status ∧ status < 300)
      (isRead : reads body value)
    : Yields endpoint reads cut (.answered status body true) (.ok value)
  | unreadable {status : Nat} {body : List UInt8} (granted : 200 ≤ status ∧ status < 300)
      (unread : ∀ value, ¬reads body value)
    : Yields endpoint reads cut (.answered status body true) (.error undecodable)
  | inPart {status : Nat} {body : List UInt8} (granted : 200 ≤ status ∧ status < 300)
    : Yields endpoint reads cut (.answered status body false) (.error cut)
  | missing {body : List UInt8} {complete : Bool} {error : Error}
      (isMissing : endpoint.missing? = some error)
    : Yields endpoint reads cut (.answered 404 body complete) (.error error)
  | refused {status : Nat} {body : List UInt8} (refuses : ¬(200 ≤ status ∧ status < 300))
      (present : status = 404 → endpoint.missing? = none)
    : Yields endpoint reads cut (.answered status body true)
        (.error (.answered status (String.ofList (Text.Marked.decode body))))
  | refusedInPart {status : Nat} {body : List UInt8} (refuses : ¬(200 ≤ status ∧ status < 300))
      (present : status = 404 → endpoint.missing? = none)
    : Yields endpoint reads cut (.answered status body false)
        (.error (.answered status "Unknown error"))

/-- What is made of the body of a granted reply: a whole body is read or undecodable, and one that
does not arrive as a whole is an error without a status.
-/
structure Opens (onBody : List UInt8 → Bool → Except Error α) (reads : List UInt8 → α → Prop)
    (cut : Error) : Prop where
  whole : ∀ {body value}, reads body value → onBody body true = .ok value
  unread : ∀ {body}, (∀ value, ¬reads body value) → onBody body true = .error undecodable
  part : ∀ body, onBody body false = .error cut
  noStatus : cut = .requestFailed ∨ cut = undecodable

/-- The octets are a document that decodes to the value. -/
def Decodes (read : Wire.Reader α) (body : List UInt8) (value : α) : Prop :=
  Wire.document read (Json.read (Text.Utf8.decode body)) = .ok value

-----------------------------------------------------------------------
-- Results
-----------------------------------------------------------------------

variable {endpoint : Endpoint} {onBody : List UInt8 → Bool → Except Error α}
  {reads : List UInt8 → α → Prop} {cut : Error} {reply : Reply} {result : Except Error α}

/-- An endpoint has something to say about the status 404 only. -/
theorem Endpoint.specify_answered (endpoint : Endpoint) (status : Nat) (message : String)
    : endpoint.specify (.answered status message)
      = if status = 404 then endpoint.missing?.getD (.answered status message)
        else .answered status message := by
  by_cases isMissing : status = 404 <;> cases endpoint <;>
    simp [specify, missing?, Error.forExecution, Error.forExport, isMissing]

theorem Endpoint.specify_of_missing {error : Error} (isMissing : endpoint.missing? = some error)
    (message : String)
    : endpoint.specify (.answered 404 message) = error := by
  rw [specify_answered, if_pos rfl, isMissing, Option.getD_some]

theorem Endpoint.specify_of_present {status : Nat}
    (present : status = 404 → endpoint.missing? = none) (message : String)
    : endpoint.specify (.answered status message) = .answered status message := by
  rw [specify_answered]
  split
  case isTrue isMissing => rw [present isMissing, Option.getD_none]
  case isFalse => rfl

/-- An error without a status stays as it is. -/
theorem Endpoint.specify_of_noStatus (endpoint : Endpoint) {error : Error}
    (noStatus : error = .requestFailed ∨ error = undecodable)
    : endpoint.specify error = error := by
  rcases noStatus with rfl | rfl <;> cases endpoint <;> rfl

theorem isSuccess_iff {status : Nat} : isSuccess status = true ↔ 200 ≤ status ∧ status < 300 := by
  simp [isSuccess]

theorem isSuccess_eq_false_iff {status : Nat}
    : isSuccess status = false ↔ ¬(200 ≤ status ∧ status < 300) := by
  rw [← isSuccess_iff, Bool.not_eq_true]

/-- Every reply has its row in the table, by cases of its status and its body. -/
theorem Yields.exists_result (endpoint : Endpoint) (reads : List UInt8 → α → Prop) (cut : Error)
    (reply : Reply)
    : ∃ result, Yields endpoint reads cut reply result := by
  cases reply with
  | dropped => exact ⟨_, .dropped⟩
  | answered status body complete =>
      by_cases granted : 200 ≤ status ∧ status < 300
      · cases complete with
        | false => exact ⟨_, .inPart granted⟩
        | true =>
            by_cases isRead : ∃ value, reads body value
            · exact ⟨_, .read granted isRead.choose_spec⟩
            · exact ⟨_, .unreadable granted (not_exists.mp isRead)⟩
      · by_cases isMissing : status = 404 ∧ endpoint.missing?.isSome
        · obtain ⟨rfl, isSome⟩ := isMissing
          exact ⟨_, .missing (Option.some_get isSome).symm⟩
        · have present : status = 404 → endpoint.missing? = none := by simpa using isMissing
          cases complete with
          | false => exact ⟨_, .refusedInPart granted present⟩
          | true => exact ⟨_, .refused granted present⟩

/-- The results of the table are the results of the endpoint, row by row. -/
theorem Yields.result_eq (opens : Opens onBody reads cut) (ordinary : reply.IsOrdinary)
    (yields : Yields endpoint reads cut reply result)
    : Connection.result endpoint (accept onBody) reply = result := by
  rw [Connection.result, accept, Reply.received_of_ordinary ordinary]
  cases yields with
  | dropped => simp [Except.mapError, endpoint.specify_of_noStatus (.inl rfl)]
  | read granted isRead => simp [Except.mapError, isSuccess_iff.mpr granted, opens.whole isRead]
  | unreadable granted unread =>
      simp [Except.mapError, isSuccess_iff.mpr granted, opens.unread unread,
        endpoint.specify_of_noStatus (.inr rfl)]
  | inPart granted =>
      simp [Except.mapError, isSuccess_iff.mpr granted, opens.part,
        endpoint.specify_of_noStatus opens.noStatus]
  | missing isMissing =>
      have refuses : isSuccess 404 = false := rfl
      simp [Except.mapError, refuses, refusal, Endpoint.specify_of_missing isMissing]
  | refused refuses present | refusedInPart refuses present =>
      simp [Except.mapError, isSuccess_eq_false_iff.mpr refuses, refusal,
        Endpoint.specify_of_present present]

/-- The result of an endpoint is the one in the table. -/
theorem result_iff_yields (opens : Opens onBody reads cut) (ordinary : reply.IsOrdinary)
    : Connection.result endpoint (accept onBody) reply = result
      ↔ Yields endpoint reads cut reply result := by
  constructor
  · rintro rfl
    obtain ⟨result, yields⟩ := Yields.exists_result endpoint reads cut reply
    rwa [yields.result_eq opens ordinary]
  · exact Yields.result_eq opens ordinary

-----------------------------------------------------------------------
-- What an error tells
-----------------------------------------------------------------------

/-- The predicates of an error tell the status of a reply. -/
structure Error.Tells (error : Error) (reply : Reply) : Prop where
  notFound : error.isNotFound ↔ reply.status? = some 404
  clientError : error.isClientError ↔ ∃ status ∈ reply.status?, 400 ≤ status ∧ status < 500
  serverError : error.isServerError ↔ ∃ status ∈ reply.status?, 500 ≤ status

/-- An error without a status tells no failure of client or server. -/
theorem Error.tells_of_noStatus {error : Error}
    (noStatus : error = .requestFailed ∨ error = undecodable)
    (unrefused : ∀ status ∈ reply.status?, status < 300)
    : error.Tells reply := by
  have notFound : reply.status? ≠ some 404 := by
    intro isStatus
    have small := unrefused 404 isStatus
    omega
  have noFailure {low : Nat} (high : 300 ≤ low) : ¬∃ status ∈ reply.status?, low ≤ status := by
    rintro ⟨status, isStatus, large⟩
    have small := unrefused status isStatus
    omega
  have noClientError : ¬∃ status ∈ reply.status?, 400 ≤ status ∧ status < 500 := by
    rintro ⟨status, isStatus, large, -⟩
    exact noFailure (by decide) ⟨status, isStatus, large⟩
  rcases noStatus with rfl | rfl
  all_goals
    exact ⟨iff_of_false nofun notFound, iff_of_false nofun noClientError,
      iff_of_false nofun (noFailure (by decide))⟩

/-- A missing execution or export tells the status 404. -/
theorem Error.tells_of_missing {error : Error} {body : List UInt8} {complete : Bool}
    (isMissing : endpoint.missing? = some error)
    : error.Tells (.answered 404 body complete) := by
  cases endpoint <;> cases isMissing <;>
    exact ⟨by simp [isNotFound, Reply.status?], by simp [isClientError, Reply.status?],
      by simp [isServerError, Reply.status?]⟩

/-- A refusal tells its status, whatever its message is. -/
theorem Error.tells_of_answered (status : Nat) (message : String) (body : List UInt8)
    (complete : Bool)
    : (answered status message).Tells (.answered status body complete) :=
  ⟨by simp [isNotFound, Reply.status?], by simp [isClientError, Reply.status?],
    by simp [isServerError, Reply.status?]⟩

/-- All errors of the table tell the status of the reply, row by row. -/
theorem Yields.tells (noStatus : cut = .requestFailed ∨ cut = undecodable) {error : Error}
    (yields : Yields endpoint reads cut reply (.error error))
    : error.Tells reply := by
  cases yields with
  | dropped => exact Error.tells_of_noStatus (.inl rfl) nofun
  | unreadable granted =>
      exact Error.tells_of_noStatus (.inr rfl) fun _ isStatus =>
        Option.some.inj isStatus ▸ granted.2
  | inPart granted =>
      exact Error.tells_of_noStatus noStatus fun _ isStatus => Option.some.inj isStatus ▸ granted.2
  | missing isMissing => exact Error.tells_of_missing isMissing
  | refused | refusedInPart => exact Error.tells_of_answered ..

-----------------------------------------------------------------------
-- Calls
-----------------------------------------------------------------------

/-- A call settles an endpoint: unless the address is too long, it sends one request and takes one
reply, the result is the one in the table, and an error tells the status.
-/
structure Settles (connection : Connection) (endpoint : Endpoint) (reads : List UInt8 → α → Prop)
    (cut : Error) (call : List Reply → Exchange α) : Prop where
  sends : connection.Fits endpoint → ∀ reply more, ∃ request,
    connection.request? endpoint = some request
    ∧ (call (reply :: more)).request = some request
    ∧ (call (reply :: more)).unread = more
  yields : connection.Fits endpoint → ∀ reply more result, reply.IsOrdinary →
    ((call (reply :: more)).result = result ↔ Yields endpoint reads cut reply result)
  tells : connection.Fits endpoint → ∀ reply more error, reply.IsOrdinary →
    (call (reply :: more)).result = .error error → error.Tells reply
  tooLong : ¬connection.Fits endpoint → ∀ replies,
    call replies = ⟨none, .error .requestFailed, replies⟩

variable {connection : Connection} {base : PlainBase}

/-- A call whose bodies are opened settles its endpoint, at a server that is led to. -/
theorem settles_of_opens (leads : connection.LeadsTo base) (endpoint : Endpoint)
    (opens : Opens onBody reads cut)
    : Settles connection endpoint reads cut (connection.call endpoint (accept onBody)) := by
  have sent (fits : connection.Fits endpoint) (reply : Reply) (more : List Reply)
      : ∃ request, connection.request? endpoint = some request
        ∧ connection.call endpoint (accept onBody) (reply :: more)
          = ⟨some request, Connection.result endpoint (accept onBody) reply, more⟩ := by
    obtain ⟨request, isRequest⟩ := Option.isSome_iff_exists.mp (leads.sends_iff.mpr fits)
    refine ⟨request, isRequest, ?_⟩
    rw [Connection.call, isRequest, List.headD_cons, List.tail_cons]
  have yields (fits : connection.Fits endpoint) (reply : Reply) (more : List Reply)
      (result : Except Error α) (ordinary : reply.IsOrdinary)
      : (connection.call endpoint (accept onBody) (reply :: more)).result = result
        ↔ Yields endpoint reads cut reply result := by
    obtain ⟨_, -, isCall⟩ := sent fits reply more
    rw [isCall]
    exact result_iff_yields opens ordinary
  refine ⟨fun fits reply more => ?_, yields, fun fits reply more error ordinary failed => ?_,
    fun tooLong replies => ?_⟩
  · obtain ⟨request, isRequest, isCall⟩ := sent fits reply more
    exact ⟨request, isRequest, by rw [isCall], by rw [isCall]⟩
  · exact ((yields fits reply more _ ordinary).mp failed).tells opens.noStatus
  · have unsent : connection.request? endpoint = none :=
      Option.not_isSome_iff_eq_none.mp fun sendable => tooLong (leads.sends_iff.mp sendable)
    rw [Connection.call, unsent]

/-- Documents are opened by decoding them. -/
theorem opens_document (read : Wire.Reader α)
    : Opens
        (fun body complete =>
          if complete then
            match Wire.document read (Json.read (Text.Utf8.decode body)) with
            | .ok value => .ok value
            | .error _ => .error undecodable
          else .error undecodable)
        (Decodes read) undecodable where
  whole isRead := by
    rw [Decodes] at isRead
    rw [if_pos rfl, isRead]
  unread {body} unread := by
    unfold Decodes at unread
    rw [if_pos rfl]
    cases decoded : Wire.document read (Json.read (Text.Utf8.decode body)) with
    | ok value => exact absurd decoded (unread value)
    | error fault => rfl
  part _ := rfl
  noStatus := .inr rfl

/-- Archives are their own values. -/
theorem opens_archive
    : Opens (fun body complete => if complete then .ok body else .error .requestFailed) Eq
        .requestFailed where
  whole same := by rw [if_pos rfl, same]
  unread {body} unread := absurd rfl (unread body)
  part _ := rfl
  noStatus := .inl rfl

/-- The calls for all endpoints settle them, at a server that is led to: those for documents by what
their bodies decode to, and the one for an archive by the body itself.
-/
theorem calls_settle (leads : connection.LeadsTo base)
    : (∀ id, Settles connection (.execution id) (Decodes Execution.decode) undecodable
        (connection.execution id))
      ∧ (∀ project max offset, Settles connection (.executions project max offset)
        (Decodes Execution.Page.decode) undecodable (connection.executions project max offset))
      ∧ (∀ id cursor, Settles connection (.output id (.after cursor))
        (Decodes Output.Batch.decode) undecodable (connection.output id (.after cursor)))
      ∧ (∀ id lines, Settles connection (.output id (.tail lines))
        (Decodes Output.Batch.decode) undecodable (connection.output id (.tail lines)))
      ∧ (∀ project, Settles connection (.exportStart project)
        (Decodes Export.Status.decode) undecodable (connection.startExport project))
      ∧ (∀ project token, Settles connection (.exportStatus project token)
        (Decodes Export.Status.decode) undecodable (connection.exportStatus project token))
      ∧ (∀ project token, Settles connection (.exportDownload project token)
        Eq .requestFailed (connection.downloadExport project token)) :=
  ⟨fun _ => settles_of_opens leads _ (opens_document _),
    fun _ _ _ => settles_of_opens leads _ (opens_document _),
    fun _ _ => settles_of_opens leads _ (opens_document _),
    fun _ _ => settles_of_opens leads _ (opens_document _),
    fun _ => settles_of_opens leads _ (opens_document _),
    fun _ _ => settles_of_opens leads _ (opens_document _),
    fun _ _ => settles_of_opens leads _ opens_archive⟩

/-- An export that has expired is unknown, not just refused. -/
theorem expired_export_is_unknown
    : let gone := Reply.answered 404 (Text.Utf8.encode "expired".toList) true
      let call := localConnection.downloadExport "ops" "t1" [gone]
      localConnection.LeadsTo localServer
      ∧ localConnection.Fits (.exportDownload "ops" "t1")
      ∧ gone.IsOrdinary
      ∧ call.request.isSome
      ∧ call.result = .error (.unknownExport "ops" "t1")
      ∧ (Error.unknownExport "ops" "t1").Tells gone := by
  intro gone call
  have fits : localConnection.Fits (.exportDownload "ops" "t1") :=
    localConnection_leads.sends_iff.mp (by decide +kernel)
  have ordinary : gone.IsOrdinary := by unfold Reply.IsOrdinary; decide
  obtain ⟨-, -, -, -, -, -, archives⟩ := calls_settle localConnection_leads
  have settles := archives "ops" "t1"
  obtain ⟨request, -, sent, -⟩ := settles.sends fits gone []
  have result : call.result = .error (.unknownExport "ops" "t1") :=
    (settles.yields fits gone [] _ ordinary).mpr (.missing rfl)
  exact ⟨localConnection_leads, fits, ordinary, Option.isSome_of_eq_some sent, result,
    settles.tells fits gone [] _ ordinary result⟩

/-- The document that a server has for an execution is not the value of a call whose address is too
long. Nothing is asked for.
-/
theorem long_id_yields_no_value
    : let query := OutputQuery.after (.start 500)
      localConnection.LeadsTo localServer
      ∧ finishedOutput.reply.IsOrdinary
      ∧ (∃ batch, Yields (.output longId query) (Decodes Output.Batch.decode) undecodable
          finishedOutput.reply (.ok batch))
      ∧ localConnection.output longId query [finishedOutput.reply]
        = ⟨none, .error .requestFailed, [finishedOutput.reply]⟩ := by
  intro query
  have unsent : localConnection.request? (.output longId query) = none :=
    Option.not_isSome_iff_eq_none.mp fun sendable =>
      longId_not_fits query (localConnection_leads.sends_iff.mp sendable)
  have ordinary : finishedOutput.reply.IsOrdinary :=
    ⟨by decide, by decide, by decide, by decide⟩
  obtain ⟨batch, isBatch⟩ : ∃ batch, finishedOutput.answer = .ok batch := ⟨_, rfl⟩
  have yields : Yields (.output longId query) (Decodes Output.Batch.decode) undecodable
      finishedOutput.reply (.ok batch) := by
    rw [← result_iff_yields (opens_document _) ordinary]
    exact Connection.result_ok_iff.mpr (finishedOutput.document_reply.trans isBatch)
  refine ⟨localConnection_leads, ordinary, ⟨batch, yields⟩, ?_⟩
  rw [Connection.output, Connection.call, unsent]

end Client

end JobWatch
