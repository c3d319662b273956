import JobWatch.Poll.Follow
import JobWatch.Proofs.Poll.Runs

/-! The batches that a run of following was answered with: what is told is told of them, and the
last one decides how following ends.
-/

namespace JobWatch.Poll

variable {Reply Event : Type} {maxLines : UInt32} {deliver : List Output.Entry → List Event}
  {service : Service OutputQuery Reply Output.Batch} {query : OutputQuery} {replies : List Reply}
  {waits : List Bool} {run : Run OutputQuery Event Reply}

/-- The batches that a run was answered with. -/
def receivedBatches (batch? : Reply → Option Output.Batch) (replies : List Reply)
    (run : Run OutputQuery Event Reply) : List Output.Batch :=
  (replies.take (requests run.steps).length).filterMap batch?

-----------------------------------------------------------------------
-- What is told
-----------------------------------------------------------------------

/-- Whatever is told was delivered, by induction on the run. -/
theorem following_told (ran : (following maxLines deliver).Ran service query replies waits run)
    {event : Event} (isTold : event ∈ told run.steps)
    : ∃ entries, event ∈ deliver entries := by
  induction ran with
  | refused | exhausted | failed => simp at isTold
  | ended => exact ⟨_, by simpa [following] using isTold⟩
  | cancelled => exact ⟨_, by simpa [following] using isTold⟩
  | continued sent answered undecided continues rest ih =>
      simp only [Run.after_steps, told_append, told_exchange, told_wait, told_nil, List.append_nil,
        List.mem_append] at isTold
      rcases isTold with now | later
      · exact ⟨_, now⟩
      · exact ih later

/-- Following that does not fail was answered with a batch every time, and told of these batches and
no others. Witness: induction on the run; each poll adds its batch in front.
-/
theorem following_batches (batch? : Reply → Option Output.Batch) {outcome : Outcome}
    (ran : (following maxLines deliver).Ran service query replies waits run)
    (reads : ∀ asked reply batch,
      service.answer asked reply = .ok batch → batch? reply = some batch)
    (unfailing : run.result = .ok outcome)
    : ∃ batches : List Output.Batch,
        batches.length = (requests run.steps).length
        ∧ (replies.take batches.length).map batch? = batches.map some
        ∧ told run.steps
          = batches.flatMap fun batch => deliver (Output.decompact batch.entries) := by
  induction ran with
  | refused | exhausted | failed => cases unfailing
  | @ended state reply replies waits answer success sent answered verdict =>
      exact ⟨[answer], by simp, by simp [reads _ _ _ answered], by simp [following]⟩
  | @cancelled state reply replies waits answer sent answered undecided stops =>
      exact ⟨[answer], by simp, by simp [reads _ _ _ answered], by simp [following]⟩
  | @continued state reply replies waits answer run sent answered undecided continues rest ih =>
      obtain ⟨batches, count, read, heard⟩ := ih unfailing
      refine ⟨answer :: batches, ?_, ?_, ?_⟩
      · simp [count, Nat.add_comm]
      · simp [reads _ _ _ answered, read]
      · simp [heard, following]

/-- Following that does not fail tells of the batches it was answered with. -/
theorem told_receivedBatches {batch? : Reply → Option Output.Batch} {outcome : Outcome}
    (ran : (following maxLines deliver).Ran service query replies waits run)
    (reads : ∀ asked reply batch,
      service.answer asked reply = .ok batch → batch? reply = some batch)
    (unfailing : run.result = .ok outcome)
    : told run.steps
      = (receivedBatches batch? replies run).flatMap fun batch =>
          deliver (Output.decompact batch.entries) := by
  obtain ⟨batches, count, read, heard⟩ := following_batches batch? ran reads unfailing
  have received : receivedBatches batch? replies run = batches := by
    rw [receivedBatches, ← count]
    have same := congrArg (List.filterMap id) read
    rwa [List.filterMap_map, List.filterMap_map, Function.id_comp, Function.id_comp,
      List.filterMap_some] at same
  rw [received, heard]

/-- A reply that is no answer brings no batch. -/
theorem unread_of_error {batch? : Reply → Option Output.Batch} {asked : OutputQuery}
    {reply : Reply} {error : Client.Error}
    (reads : ∀ batch, service.answer asked reply = .ok batch ↔ batch? reply = some batch)
    (failure : service.answer asked reply = .error error)
    : batch? reply = none := by
  refine Option.eq_none_iff_forall_ne_some.mpr fun batch read => ?_
  rw [← reads, failure] at read
  cases read

/-- Following that may fail tells of the batches among its replies, by induction on the run: a reply
that is no batch is the last one, and nothing is told of it.
-/
theorem told_of_replies {batch? : Reply → Option Output.Batch}
    (ran : (following maxLines deliver).Ran service query replies waits run)
    (reads : ∀ asked reply batch,
      service.answer asked reply = .ok batch ↔ batch? reply = some batch)
    : told run.steps
      = (receivedBatches batch? replies run).flatMap fun batch =>
          deliver (Output.decompact batch.entries) := by
  unfold receivedBatches
  induction ran with
  | refused | exhausted => rfl
  | failed sent failure => simp [unread_of_error (reads _ _) failure]
  | @ended state reply replies waits answer success sent answered verdict =>
      rw [reads] at answered
      simp [answered, following]
  | @cancelled state reply replies waits answer sent answered undecided stops =>
      rw [reads] at answered
      simp [answered, following]
  | @continued state reply replies waits answer run sent answered undecided continues rest ih =>
      rw [reads] at answered
      simp [answered, following, ih]

-----------------------------------------------------------------------
-- How following ends
-----------------------------------------------------------------------

/-- What is delivered has no say in what is asked for and in how following ends. Witness: induction
on the run; at every poll the other run takes the same turn.
-/
theorem following_independent {Event' : Type} (deliver' : List Output.Entry → List Event')
    (ran : (following maxLines deliver).Ran service query replies waits run)
    : requests ((following maxLines deliver').run service query replies waits).steps
        = requests run.steps
      ∧ ((following maxLines deliver').run service query replies waits).result = run.result := by
  induction ran with
  | @refused query replies waits error refusal =>
      have other : (following maxLines deliver').Ran service query replies waits _ :=
        .refused refusal
      rw [other.run_eq]
      exact ⟨rfl, rfl⟩
  | @exhausted query waits sent =>
      have other : (following maxLines deliver').Ran service query [] waits _ := .exhausted sent
      rw [other.run_eq]
      exact ⟨rfl, rfl⟩
  | @failed query reply replies waits error sent failure =>
      have other : (following maxLines deliver').Ran service query (reply :: replies) waits _ :=
        .failed sent failure
      rw [other.run_eq]
      exact ⟨rfl, rfl⟩
  | @ended query reply replies waits batch success sent answered verdict =>
      have other : (following maxLines deliver').Ran service query (reply :: replies) waits _ :=
        .ended sent answered verdict
      rw [other.run_eq, requests_exchange, requests_exchange]
      exact ⟨rfl, rfl⟩
  | @cancelled query reply replies waits batch sent answered undecided stops =>
      have other : (following maxLines deliver').Ran service query (reply :: replies) waits _ :=
        .cancelled sent answered undecided stops
      rw [other.run_eq, requests_append, requests_append, requests_exchange, requests_exchange]
      exact ⟨rfl, rfl⟩
  | @continued query reply replies waits batch run sent answered undecided continues rest ih =>
      have other : (following maxLines deliver').Ran service query (reply :: replies) waits _ :=
        .continued sent answered undecided continues (Loop.ran _ _ _ _ _)
      rw [other.run_eq]
      simpa [following] using ih

/-- Following is completed by the last batch it was answered with, which is done and tells whether
the execution succeeded. Witness: induction on the run.
-/
theorem following_completed {batch? : Reply → Option Output.Batch} {success : Bool}
    (ran : (following maxLines deliver).Ran service query replies waits run)
    (reads : ∀ asked reply batch,
      service.answer asked reply = .ok batch → batch? reply = some batch)
    (completed : run.result = .ok (.completed success))
    : ∃ batch ∈ (receivedBatches batch? replies run).getLast?,
        batch.isDone = true ∧ batch.succeeded = success := by
  unfold receivedBatches
  induction ran with
  | refused | exhausted | failed | cancelled => simp at completed
  | @ended state reply replies waits batch verdict sent answered decided =>
      have same : verdict = success := by simpa using completed
      have done : batch.isDone = true ∧ batch.succeeded = verdict := by
        simpa [following] using decided
      exact ⟨batch, by simp [reads _ _ _ answered], same ▸ done⟩
  | @continued state reply replies waits batch run sent answered undecided continues rest ih =>
      obtain ⟨last, isLast, done⟩ := ih completed
      refine ⟨last, ?_, done⟩
      simp [reads _ _ _ answered, List.getLast?_cons, Option.mem_def.mp isLast]

/-- Following without an interrupt ends with success exactly if the last batch says so. Witness:
induction on the run; a batch that another one may follow is not done, so it decides nothing even if
it is the last one before a failure.
-/
theorem following_succeeds {batch? : Reply → Option Output.Batch}
    (ran : (following maxLines deliver).Ran service query replies [] run)
    (reads : ∀ asked reply batch,
      service.answer asked reply = .ok batch ↔ batch? reply = some batch)
    : run.result = .ok (.completed true)
      ↔ ∃ batch ∈ (receivedBatches batch? replies run).getLast?,
          batch.isDone = true ∧ batch.execState = "succeeded" := by
  unfold receivedBatches
  generalize noWaits : [] = waits at ran
  induction ran with
  | refused refusal => simp
  | exhausted sent => simp
  | failed sent failure => simp [unread_of_error (reads _ _) failure]
  | @ended state reply replies waits batch success sent answered verdict =>
      rw [reads] at answered
      have done : batch.isDone = true ∧ batch.succeeded = success := by
        simpa [following] using verdict
      simp [answered, done.1, ← done.2, Output.Batch.succeeded]
  | cancelled sent answered undecided stops => simp [← noWaits] at stops
  | @continued state reply replies waits batch run sent answered undecided continues rest ih =>
      rw [reads] at answered
      -- this batch can be the last one that is read, but then it is not the end of a success
      have unfinished : batch.isDone = false := by simpa [following] using undecided
      have later := ih (by simp [← noWaits])
      simp only [Run.after_steps, Run.after_result, requests_append, requests_exchange,
        requests_wait, requests_nil, List.append_nil, List.length_append, List.length_singleton,
        Nat.add_comm 1, List.take_succ_cons, List.filterMap_cons, answered, List.getLast?_cons]
        at later ⊢
      rw [later]
      cases last : ((replies.take (requests run.steps).length).filterMap batch?).getLast? with
      | none => simp [unfinished]
      | some batch => simp

end JobWatch.Poll
