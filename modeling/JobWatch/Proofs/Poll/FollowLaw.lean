import JobWatch.Poll.Follow
import JobWatch.Proofs.Poll.ScriptedRuns
import Mathlib.Data.List.Basic

/-! Following an output on a script of batches: which queries are made, what is delivered between
them, where following waits, and how it ends. The main statement determines the whole run from the
first poll that ends it.
-/

namespace JobWatch.Poll

variable {Event : Type}

/-- A script of answers to output queries. -/
abbrev BatchScript := List (Except Client.Error Output.Batch)

/-- Following ends with a poll, counted from zero: the answer is an error, or a batch with both
flags of the end set, or any other batch that a wait with the result false follows.
-/
def FollowEndsAt (script : BatchScript) (waits : List Bool) (poll : Nat) : Prop :=
  match answerAt script poll with
  | .error _ => True
  | .ok batch =>
      (batch.execCompleted = true ∧ batch.completed = true)
      ∨ (¬(batch.execCompleted = true ∧ batch.completed = true) ∧ waitAt waits poll = false)

/-- Following ends with the exhausted script at the latest, whose answer is an error. -/
theorem followEndsAt_length (script : BatchScript) (waits : List Bool)
    : FollowEndsAt script waits script.length := by
  simp [FollowEndsAt, answerAt]

/-- The query of a poll: the start chooses the first one, and every other one asks from the tokens
of the batch before it on. There is no poll behind an error.
-/
def followQueryAt (start : Start) (maxLines : UInt32) (script : BatchScript) (poll : Nat)
    : OutputQuery :=
  match poll, start with
  | 0, .restart => .after ⟨0, 0, maxLines⟩
  | 0, .tail lines => .tail lines
  | poll + 1, _ =>
      match answerAt script poll with
      | .ok batch => .after ⟨batch.offset, batch.lastModified, maxLines⟩
      | .error _ => .after ⟨0, 0, maxLines⟩

/-- What is delivered at a poll: the lines of its batch. -/
def deliveryAt (deliver : List Output.Entry → List Event) (script : BatchScript) (poll : Nat)
    : List Event :=
  match answerAt script poll with
  | .ok batch => deliver (Output.decompact batch.entries)
  | .error _ => []

/-- The query of a poll and what is delivered of its answer. -/
def followExchangeAt (start : Start) (maxLines : UInt32)
    (deliver : List Output.Entry → List Event) (script : BatchScript) (poll : Nat)
    : List (Step OutputQuery Event) :=
  .request (followQueryAt start maxLines script poll)
    :: (deliveryAt deliver script poll).map .event

@[simp]
theorem requests_followExchangeAt (start : Start) (maxLines : UInt32)
    (deliver : List Output.Entry → List Event) (script : BatchScript) (poll : Nat)
    : requests (followExchangeAt start maxLines deliver script poll)
      = [followQueryAt start maxLines script poll] := by
  simp [followExchangeAt]

/-- How following ends with a poll: with its error, or by the two flags of the end. -/
def followResultAt (script : BatchScript) (poll : Nat) : Except Client.Error Outcome :=
  match answerAt script poll with
  | .error error => .error error
  | .ok batch =>
      if batch.execCompleted = true ∧ batch.completed = true then
        .ok (.completed (batch.execState = "succeeded"))
      else .ok .cancelled

variable {start : Start} {maxLines : UInt32} {deliver : List Output.Entry → List Event}
  {script : BatchScript} {waits : List Bool} {poll : Nat}

/-- The loop ends where its script and its waits say that following ends. -/
theorem endsAt_following
    : (following maxLines deliver).EndsAt (start.query maxLines) script waits poll
      ↔ FollowEndsAt script waits poll := by
  unfold Loop.EndsAt FollowEndsAt
  cases answerAt script poll with
  | error error => rfl
  | ok batch =>
      by_cases done : batch.execCompleted = true ∧ batch.completed = true <;>
        simp [following, Output.Batch.isDone, done]

/-- The state of the loop is the next query, as long as no poll has ended it. -/
theorem stateAt_following (going : ∀ earlier < poll, ¬FollowEndsAt script waits earlier)
    : (following maxLines deliver).stateAt (start.query maxLines) script poll
      = followQueryAt start maxLines script poll := by
  cases poll with
  | zero => cases start <;> rfl
  | succ poll =>
      have answered := going poll (Nat.lt_succ_self poll)
      cases answer : answerAt script poll with
      | error error => simp [FollowEndsAt, answer] at answered
      | ok batch => simp only [Loop.stateAt, followQueryAt, answer]; rfl

/-- Up to its end the loop does at each poll what following does. -/
theorem exchangeAt_following (going : ∀ earlier < poll, ¬FollowEndsAt script waits earlier)
    : (following maxLines deliver).exchangeAt (start.query maxLines) script poll
      = followExchangeAt start maxLines deliver script poll := by
  have state
      : (following maxLines deliver).stateAt (start.query maxLines) script poll
        = followQueryAt start maxLines script poll :=
    stateAt_following going
  unfold Loop.exchangeAt followExchangeAt deliveryAt
  rw [state]
  cases answerAt script poll <;> rfl

/-- The loop ends as following does, by the two flags of the end. -/
theorem resultAt_following
    : (following maxLines deliver).resultAt (start.query maxLines) script poll
      = followResultAt script poll := by
  unfold Loop.resultAt followResultAt
  cases answerAt script poll with
  | error error => rfl
  | ok batch =>
      by_cases done : batch.execCompleted = true ∧ batch.completed = true
      · simp only [following, Output.Batch.isDone, Output.Batch.succeeded, done, Bool.and_self,
          if_true, and_self]
        rw [Bool.beq_eq_decide_eq]
      · simp [following, Output.Batch.isDone, done]

/-- Following a script makes one query for each poll up to the first one that ends it, delivers
every batch before the wait and the query behind it, waits once between two queries, and ends as
its last poll says. Witness: the law of scripted runs, read for the loop that follows.
-/
theorem follow_steps_through_first_end (start : Start) (maxLines : UInt32)
    (deliver : List Output.Entry → List Event) (script : BatchScript) (waits : List Bool)
    : ∃ last ≤ script.length,
        FollowEndsAt script waits last
        ∧ (∀ earlier < last, ¬FollowEndsAt script waits earlier)
        ∧ (follow .scripted start maxLines deliver script waits).steps
          = (List.range last).flatMap (fun poll =>
              followExchangeAt start maxLines deliver script poll ++ [.wait true])
            ++ followExchangeAt start maxLines deliver script last
            ++ lastWait (followResultAt script last)
        ∧ requests (follow .scripted start maxLines deliver script waits).steps
          = (List.range (last + 1)).map (followQueryAt start maxLines script)
        ∧ (follow .scripted start maxLines deliver script waits).result
          = followResultAt script last := by
  obtain ⟨last, ends, first, steps, result⟩ :=
    ((following maxLines deliver).ran .scripted (start.query maxLines) script waits).scripted
  have going : ∀ earlier < last, ¬FollowEndsAt script waits earlier :=
    fun earlier before ends => first earlier before (endsAt_following.mpr ends)
  have exchanges
      : (List.range last).flatMap (fun poll =>
          (following maxLines deliver).exchangeAt (start.query maxLines) script poll
            ++ [.wait true])
        = (List.range last).flatMap (fun poll =>
            followExchangeAt start maxLines deliver script poll ++ [.wait true]) := by
    apply List.flatMap_congr
    intro poll member
    have before := List.mem_range.mp member
    rw [exchangeAt_following fun earlier lt => going earlier (Nat.lt_trans lt before)]
  rw [Loop.stepsThrough, exchanges, exchangeAt_following going, resultAt_following] at steps
  refine ⟨last, ?_, endsAt_following.mp ends, going, steps, ?_, result.trans resultAt_following⟩
  · by_contra beyond
    exact going script.length (by omega) (followEndsAt_length script waits)
  · rw [follow, steps]
    simp [requests_flatMap, List.range_succ, List.map_eq_flatMap]

end JobWatch.Poll
