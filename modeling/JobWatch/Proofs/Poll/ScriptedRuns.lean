import JobWatch.Proofs.Poll.Runs

/-! A loop on a script of answers: its run is determined by the first poll that ends it, and is
written down poll by poll.
-/

namespace JobWatch.Poll

variable {State Asked Answer Event : Type}

/-- The answer to a poll, counted from zero. An exhausted script answers an error. -/
def answerAt (script : List (Except Client.Error Answer)) (poll : Nat)
    : Except Client.Error Answer :=
  script.getD poll (.error (.unreadable "script exhausted"))

/-- The result of a wait, counted from zero. Waits beyond the script continue. -/
def waitAt (waits : List Bool) (poll : Nat) : Bool :=
  waits.getD poll true

/-- The state of a loop before a poll. Behind an error there is no poll, and the state stays. -/
def Loop.stateAt (loop : Loop State Asked Answer Event) (start : State)
    (script : List (Except Client.Error Answer))
    : Nat → State
  | 0 => start
  | poll + 1 =>
      match answerAt script poll with
      | .ok answer => loop.advance (loop.stateAt start script poll) answer
      | .error _ => loop.stateAt start script poll

/-- A loop ends with a poll: the poll fails, its answer ends the loop, or the wait behind it does.
-/
def Loop.EndsAt (loop : Loop State Asked Answer Event) (start : State)
    (script : List (Except Client.Error Answer)) (waits : List Bool) (poll : Nat)
    : Prop :=
  match answerAt script poll with
  | .error _ => True
  | .ok answer =>
      loop.verdict? (loop.stateAt start script poll) answer ≠ none ∨ waitAt waits poll = false

/-- What a poll does apart from waiting: its request, and the events of its answer. -/
def Loop.exchangeAt (loop : Loop State Asked Answer Event) (start : State)
    (script : List (Except Client.Error Answer)) (poll : Nat)
    : List (Step Asked Event) :=
  match answerAt script poll with
  | .error _ => [.request (loop.request (loop.stateAt start script poll))]
  | .ok answer => loop.exchange (loop.stateAt start script poll) answer

/-- How a loop ends with a poll. -/
def Loop.resultAt (loop : Loop State Asked Answer Event) (start : State)
    (script : List (Except Client.Error Answer)) (poll : Nat)
    : Except Client.Error Outcome :=
  match answerAt script poll with
  | .error error => .error error
  | .ok answer =>
      match loop.verdict? (loop.stateAt start script poll) answer with
      | some success => .ok (.completed success)
      | none => .ok .cancelled

/-- The wait behind the last poll, which only a cancelled loop has. -/
def lastWait : Except Client.Error Outcome → List (Step Asked Event)
  | .ok .cancelled => [.wait false]
  | .ok (.completed _) | .error _ => []

@[simp]
theorem requests_lastWait (result : Except Client.Error Outcome)
    : requests (lastWait result : List (Step Asked Event)) = [] := by
  rcases result with error | ⟨success⟩ | _ <;> rfl

@[simp]
theorem told_lastWait (result : Except Client.Error Outcome)
    : told (lastWait result : List (Step Asked Event)) = [] := by
  rcases result with error | ⟨success⟩ | _ <;> rfl

/-- The steps of a run with a given last poll: all polls before it are waited for. -/
def Loop.stepsThrough (loop : Loop State Asked Answer Event) (start : State)
    (script : List (Except Client.Error Answer)) (last : Nat)
    : List (Step Asked Event) :=
  (List.range last).flatMap (fun poll => loop.exchangeAt start script poll ++ [.wait true])
    ++ loop.exchangeAt start script last
    ++ lastWait (loop.resultAt start script last)

variable {loop : Loop State Asked Answer Event} {start : State} {answer : Answer}
  {script : List (Except Client.Error Answer)} {waits : List Bool}

@[simp]
theorem answerAt_cons_succ (reply : Except Client.Error Answer) (poll : Nat)
    : answerAt (reply :: script) (poll + 1) = answerAt script poll :=
  rfl

theorem waitAt_zero : waitAt waits 0 = waits.headD true := by
  cases waits <;> rfl

@[simp]
theorem waitAt_succ (poll : Nat) : waitAt waits (poll + 1) = waitAt waits.tail poll := by
  cases waits <;> rfl

/-- Behind a first answer the states are those of the rest of the script. -/
@[simp]
theorem Loop.stateAt_cons_succ (poll : Nat)
    : loop.stateAt start (.ok answer :: script) (poll + 1)
      = loop.stateAt (loop.advance start answer) script poll := by
  induction poll with
  | zero => rfl
  | succ poll ih => rw [Loop.stateAt, ih, answerAt_cons_succ]; rfl

@[simp]
theorem Loop.endsAt_cons_succ (poll : Nat)
    : loop.EndsAt start (.ok answer :: script) waits (poll + 1)
      ↔ loop.EndsAt (loop.advance start answer) script waits.tail poll := by
  simp [Loop.EndsAt]

@[simp]
theorem Loop.exchangeAt_cons_succ (poll : Nat)
    : loop.exchangeAt start (.ok answer :: script) (poll + 1)
      = loop.exchangeAt (loop.advance start answer) script poll := by
  simp [Loop.exchangeAt]

@[simp]
theorem Loop.resultAt_cons_succ (poll : Nat)
    : loop.resultAt start (.ok answer :: script) (poll + 1)
      = loop.resultAt (loop.advance start answer) script poll := by
  simp [Loop.resultAt]

/-- One more poll before the others adds its exchange and its wait. -/
theorem Loop.stepsThrough_cons_succ (last : Nat)
    : loop.stepsThrough start (.ok answer :: script) (last + 1)
      = loop.exchange start answer ++ [.wait true]
        ++ loop.stepsThrough (loop.advance start answer) script last := by
  simp only [Loop.stepsThrough, List.range_succ_eq_map, List.flatMap_cons, List.flatMap_map,
    Loop.exchangeAt_cons_succ, Loop.resultAt_cons_succ, List.append_assoc]
  rfl

/-- A run on a script ends with the first poll that ends the loop: its steps are those through this
poll, and its result is how the loop ends with it. Witness: induction on the run, where a poll that
goes on shifts the first ending poll by one.
-/
theorem Loop.Ran.scripted {run : Run Asked Event (Except Client.Error Answer)}
    (ran : loop.Ran .scripted start script waits run)
    : ∃ last,
        loop.EndsAt start script waits last
        ∧ (∀ earlier < last, ¬loop.EndsAt start script waits earlier)
        ∧ run.steps = loop.stepsThrough start script last
        ∧ run.result = loop.resultAt start script last := by
  induction ran with
  | refused refusal => cases refusal
  | exhausted sent => exact ⟨0, trivial, by simp, rfl, rfl⟩
  | failed sent failure =>
      cases failure
      exact ⟨0, trivial, by simp, rfl, rfl⟩
  | ended sent answered verdict =>
      cases answered
      refine ⟨0, Or.inl ?_, by simp, ?_, ?_⟩ <;>
        simp [Loop.stateAt, Loop.stepsThrough, Loop.exchangeAt, Loop.resultAt, lastWait, answerAt,
          verdict]
  | @cancelled state _ replies waits answer sent answered undecided stops =>
      cases answered
      refine ⟨0, Or.inr ?_, by simp, ?_, ?_⟩
      · rw [waitAt_zero, stops]
      · simp [Loop.stateAt, Loop.stepsThrough, Loop.exchangeAt, Loop.resultAt, lastWait, answerAt,
          undecided]
      · simp [Loop.stateAt, Loop.resultAt, answerAt, undecided]
  | @continued state _ replies waits answer run sent answered undecided continues rest ih =>
      cases answered
      obtain ⟨last, ends, first, steps, result⟩ := ih
      refine ⟨last + 1, (Loop.endsAt_cons_succ last).mpr ends, ?_, ?_, ?_⟩
      · intro earlier before
        cases earlier with
        | zero =>
            simp [-List.headD_eq_head?_getD, Loop.EndsAt, Loop.stateAt, answerAt, waitAt_zero,
              undecided, continues]
        | succ earlier =>
            exact fun endsEarlier =>
              first earlier (by omega) ((Loop.endsAt_cons_succ earlier).mp endsEarlier)
      · rw [Loop.stepsThrough_cons_succ, Run.after_steps, steps]
      · rw [Run.after_result, result, Loop.resultAt_cons_succ]

end JobWatch.Poll
