import JobWatch.Poll.Track
import JobWatch.Proofs.Poll.Runs

/-! How tracking ends, told by the statuses that were polled: by the last one, and by the first one
that is ready.
-/

namespace JobWatch.Poll

variable {Reply : Type} {token : String} {service : Service String Reply Export.Status}
  {status? : Reply → Option Export.Status} {highest : UInt32} {replies : List Reply}
  {run : Run String UInt32 Reply}

-----------------------------------------------------------------------
-- The last status of a run
-----------------------------------------------------------------------

/-- The status that the last of so many polls was answered with, if it was answered with one. -/
def lastStatus? (status? : Reply → Option Export.Status) (replies : List Reply)
    : Nat → Option Export.Status
  | 0 => none
  | poll + 1 => (replies[poll]?).bind status?

/-- How tracking ends, by the last status that was polled. -/
def EndsWith (last? : Option Export.Status) (result : Except Client.Error Outcome) : Prop :=
  match last? with
  | some status => result = .ok (if status.ready then .completed true else .cancelled)
  | none => ∃ error, result = .error error

/-- What a run of polls for a status comes to: it asks for nothing but the token, reads one reply
for each poll, and ends with the last status. Witness: induction on the run; a poll that goes on can
be sent again, so that there is one behind it.
-/
theorem tracking_ends {waits : List Bool}
    (ran : (tracking token).Ran service highest replies waits run)
    (reads : ∀ asked reply status,
      service.answer asked reply = .ok status ↔ status? reply = some status)
    : requests run.steps = List.replicate (requests run.steps).length token
      ∧ run.unread = replies.drop (requests run.steps).length
      ∧ EndsWith (lastStatus? status? replies (requests run.steps).length) run.result := by
  induction ran with
  | @refused state replies waits error refusal => exact ⟨rfl, rfl, error, rfl⟩
  | exhausted sent => exact ⟨rfl, rfl, _, rfl⟩
  | @failed state reply replies waits error sent failure =>
      have unread : status? reply = none := by
        refine Option.eq_none_iff_forall_ne_some.mpr fun status read => ?_
        rw [← reads, failure] at read
        cases read
      exact ⟨rfl, rfl, by simp [EndsWith, lastStatus?, unread]⟩
  | @ended state reply replies waits status success sent answered verdict =>
      rw [reads] at answered
      have ready : status.ready = true ∧ true = success := by simpa [tracking] using verdict
      exact ⟨by simp [tracking], by simp,
        by simp [EndsWith, lastStatus?, answered, ready]⟩
  | @cancelled state reply replies waits status sent answered undecided stops =>
      rw [reads] at answered
      have unready : status.ready = false := by simpa [tracking] using undecided
      exact ⟨by simp [tracking], by simp, by simp [EndsWith, lastStatus?, answered, unready]⟩
  | @continued state reply replies waits status run sent answered undecided continues rest ih =>
      obtain ⟨asks, unread, ends⟩ := ih
      obtain ⟨polls, count⟩ := rest.exists_request sent
      simp only [Run.after_steps, requests_append, requests_exchange, requests_wait, requests_nil,
        List.append_nil, List.length_append, List.length_singleton, Run.after_result,
        Run.after_unread]
      refine ⟨?_, ?_, ?_⟩
      · rw [asks, List.length_replicate, Nat.add_comm 1, List.replicate_succ]
        rfl
      · rw [unread, Nat.add_comm 1, List.drop_succ_cons]
      · rw [count] at ends ⊢
        simpa [lastStatus?, Nat.add_comm 1] using ends

-----------------------------------------------------------------------
-- The poll that finds an export ready
-----------------------------------------------------------------------

/-- A poll, counted from zero, is answered with a status that is ready, and all polls before it with
one that is not.
-/
def ReadyAt (status? : Reply → Option Export.Status) (replies : List Reply) (poll : Nat) : Prop :=
  (∃ status ∈ (replies[poll]?).bind status?, status.ready = true)
  ∧ ∀ earlier < poll, ∃ status ∈ (replies[earlier]?).bind status?, status.ready = false

/-- The last status of a run that was not stopped is ready exactly if the run ends with success. -/
theorem EndsWith.completed_iff {last? : Option Export.Status}
    {result : Except Client.Error Outcome} (ends : EndsWith last? result)
    (finished : result ≠ .ok .cancelled)
    : result = .ok (.completed true) ↔ ∃ status ∈ last?, status.ready = true := by
  cases last? with
  | none =>
      obtain ⟨error, rfl⟩ := ends
      simp
  | some status =>
      cases ready : status.ready with
      | true => simpa [EndsWith, ready] using ends
      | false => exact absurd (by simpa [EndsWith, ready] using ends) finished

/-- Tracking without an interrupt succeeds with some poll, or it fails. -/
theorem tracking_completes_or_fails (ran : (tracking token).Ran service highest replies [] run)
    (reads : ∀ asked reply status,
      service.answer asked reply = .ok status ↔ status? reply = some status)
    : (∃ poll, run.result = .ok (.completed true) ∧ (requests run.steps).length = poll + 1)
      ∨ ∃ error, run.result = .error error := by
  obtain ⟨-, -, ends⟩ := tracking_ends ran reads
  cases count : (requests run.steps).length with
  | zero =>
      rw [count] at ends
      exact .inr ends
  | succ poll =>
      rw [count] at ends
      cases last : lastStatus? status? replies (poll + 1) with
      | none => exact .inr (by simpa [last, EndsWith] using ends)
      | some status =>
          cases ready : status.ready with
          | true => exact .inl ⟨poll, by simpa [last, ready, EndsWith] using ends, rfl⟩
          | false =>
              exact absurd (by simpa [last, ready, EndsWith] using ends) ran.not_cancelled

/-- Tracking goes on behind a reply only if it brings a status that is not ready. -/
theorem unready_of_later {waits : List Bool}
    (ran : (tracking token).Ran service highest replies waits run)
    (reads : ∀ asked reply status,
      service.answer asked reply = .ok status ↔ status? reply = some status)
    {poll : Nat} (later : poll + 1 < (requests run.steps).length)
    : ∃ status ∈ (replies[poll]?).bind status?, status.ready = false := by
  obtain ⟨before, reply, status, -, replied, answered, undecided, -⟩ :=
    ran.next_request (List.getElem?_eq_getElem later)
  refine ⟨status, ?_, by simpa [tracking] using undecided⟩
  rw [replied]
  exact (reads _ _ _).mp answered

/-- Tracking without an interrupt succeeds with a poll exactly if the token can be asked about and
this poll is the first one that finds the export ready. Witness: a run goes on only behind a status
that is not ready, so that the last one is the first that is ready.
-/
theorem tracking_completes (ran : (tracking token).Ran service highest replies [] run)
    (reads : ∀ asked reply status,
      service.answer asked reply = .ok status ↔ status? reply = some status)
    (poll : Nat)
    : run.result = .ok (.completed true) ∧ (requests run.steps).length = poll + 1
      ↔ service.refusal? token = none ∧ ReadyAt status? replies poll := by
  obtain ⟨asks, -, ends⟩ := tracking_ends ran reads
  rw [ends.completed_iff ran.not_cancelled]
  constructor
  · rintro ⟨isReady, count⟩
    have sent : service.refusal? token = none := by
      refine ran.sent token ?_
      rw [asks, count]
      exact List.mem_cons_self
    rw [count, lastStatus?] at isReady
    exact ⟨sent, isReady, fun earlier isEarlier => unready_of_later ran reads (by omega)⟩
  · rintro ⟨sent, ⟨status, isStatus, ready⟩, unready⟩
    obtain ⟨polls, count⟩ := ran.exists_request sent
    rw [count, lastStatus?] at ends ⊢
    -- fewer polls end with a status that is not ready, and more go on behind one that is
    rcases Nat.lt_trichotomy polls poll with fewer | rfl | _
    · obtain ⟨early, isEarly, notReady⟩ := unready polls fewer
      rw [isEarly] at ends
      exact absurd (by simpa [EndsWith, notReady] using ends) ran.not_cancelled
    · rw [isStatus]
      exact ⟨⟨status, rfl, ready⟩, rfl⟩
    · have later : poll + 1 < (requests run.steps).length := by omega
      obtain ⟨late, isLate, notReady⟩ := unready_of_later ran reads later
      rw [isStatus] at isLate
      rw [Option.some.inj isLate, notReady] at ready
      cases ready

end JobWatch.Poll
