import JobWatch.Proofs.Poll.Runs

/-! A run whose waits are cut short, beside the run whose waits all continue: the two agree up to
the wait that is cut, and only a run that reaches this wait is changed.
-/

namespace JobWatch.Poll

variable {State Asked Reply Answer Event : Type} {loop : Loop State Asked Answer Event}
  {service : Service Asked Reply Answer} {state : State} {replies : List Reply}
  {waits : List Bool} {run : Run Asked Event Reply}

/-- A wait behind which a run goes on. -/
def Step.goesOn : Step Asked Event → Bool
  | .wait continues => continues
  | .request _ | .event _ => false

/-- How many requests a run makes, whether or not they could be sent: one at its start, and one
behind every wait that continues.
-/
def Run.requestsMade (run : Run Asked Event Reply) : Nat :=
  run.steps.countP Step.goesOn + 1

/-- No step of an exchange is a wait. -/
@[simp]
theorem countP_goesOn_exchange (answer : Answer)
    : (loop.exchange state answer).countP Step.goesOn = 0 := by
  simp [Loop.exchange, List.countP_eq_zero, Step.goesOn]

/-- An exchange that is waited for is one more request of the run behind it. -/
theorem requestsMade_after (run : Run Asked Event Reply) (answer : Answer)
    : (run.after (loop.exchange state answer ++ [.wait true])).requestsMade
        = run.requestsMade + 1 := by
  simp only [Run.requestsMade, Run.after_steps, List.countP_append, countP_goesOn_exchange]
  simp [Step.goesOn, Nat.add_comm]

/-- A run makes the requests that it sends, and one more if it fails in front of a request that
cannot be sent. Witness: induction on the run; every exchange but the last one has a wait behind it
that continues.
-/
theorem Loop.Ran.made_eq_sent_or (ran : loop.Ran service state replies waits run)
    : run.requestsMade = (requests run.steps).length
      ∨ run.requestsMade = (requests run.steps).length + 1
        ∧ ∃ asked error, service.refusal? asked = some error ∧ run.result = .error error := by
  induction ran with
  | refused refusal => exact .inr ⟨rfl, _, _, refusal, rfl⟩
  | exhausted | failed | ended | cancelled => simp [Run.requestsMade, Step.goesOn]
  | @continued state reply replies waits answer run sent answered undecided continues rest ih =>
      rw [requestsMade_after, Run.after_result, Run.after_steps, requests_append, requests_append,
        requests_exchange, List.length_append]
      refine ih.imp (fun same => ?_) fun ⟨same, stopped⟩ => ⟨?_, stopped⟩
      all_goals
        rw [same]
        simp [Nat.add_comm]

/-- Whatever was sent was made. -/
theorem Loop.Ran.sent_le_made (ran : loop.Ran service state replies waits run)
    : (requests run.steps).length ≤ run.requestsMade := by
  rcases ran.made_eq_sent_or with same | ⟨more, -⟩ <;> omega

/-- Behind a request stand the events of its answer, if it was answered. Witness: induction on the
run; the request asked for is that of the first poll, or of a later one.
-/
theorem Loop.Ran.at_request (ran : loop.Ran service state replies waits run) {poll : Nat}
    (within : poll < (requests run.steps).length)
    : ∃ earlier before later,
        run.steps = earlier ++ .request (loop.request before) :: later
        ∧ (requests earlier).length = poll
        ∧ ∀ reply answer, replies[poll]? = some reply
            → service.answer (loop.request before) reply = .ok answer
            → ∃ more, later = (loop.events before answer).map .event ++ more := by
  induction ran generalizing poll with
  | refused => simp at within
  | @exhausted state waits sent =>
      obtain rfl : poll = 0 := by simpa using within
      exact ⟨[], state, [], rfl, rfl, by simp⟩
  | @failed state reply replies waits error sent failure =>
      obtain rfl : poll = 0 := by simpa using within
      refine ⟨[], state, [], rfl, rfl, fun found answer replied answered => ?_⟩
      obtain rfl : reply = found := by simpa using replied
      simp [failure] at answered
  | @ended state reply replies waits answer success sent answered verdict =>
      obtain rfl : poll = 0 := by simpa using within
      refine ⟨[], state, _, rfl, rfl, fun found given replied gave => ⟨[], ?_⟩⟩
      obtain rfl : reply = found := by simpa using replied
      obtain rfl : answer = given := by simpa [answered] using gave
      simp
  | @cancelled state reply replies waits answer sent answered undecided stops =>
      obtain rfl : poll = 0 := by simpa using within
      refine ⟨[], state, _, rfl, rfl, fun found given replied gave => ⟨[.wait false], ?_⟩⟩
      obtain rfl : reply = found := by simpa using replied
      obtain rfl : answer = given := by simpa [answered] using gave
      rfl
  | @continued state reply replies waits answer run sent answered undecided continues rest ih =>
      cases poll with
      | zero =>
          refine ⟨[], state, _, rfl, rfl, fun found given replied gave =>
            ⟨.wait true :: run.steps, ?_⟩⟩
          obtain rfl : reply = found := by simpa using replied
          obtain rfl : answer = given := by simpa [answered] using gave
          simp
      | succ poll =>
          have stillWithin : poll < (requests run.steps).length := by simpa using within
          obtain ⟨earlier, before, later, steps, count, delivered⟩ := ih stillWithin
          refine ⟨loop.exchange state answer ++ [.wait true] ++ earlier, before, later, ?_, ?_,
            delivered⟩
          · rw [Run.after_steps, steps]
            simp
          · simpa using count

/-- The waits of a run of which the one behind so many others stops it. -/
def cutWaits (continuing : Nat) : List Bool :=
  List.replicate continuing true ++ [false]

/-- The run whose wait is cut does what the other run does up to this wait, and stops there. -/
structure CutAt (continuing : Nat) (full cut : Run Asked Event Reply)
    (before rest : List (Step Asked Event))
    : Prop where
  full_steps : full.steps = before ++ .wait true :: rest
  cut_steps : cut.steps = before ++ [.wait false]
  cut_result : cut.result = .ok .cancelled
  requests_before : (requests before).length = continuing + 1
  made : cut.requestsMade = continuing + 1
  made_before : continuing + 1 < full.requestsMade

/-- The cut comes after the end of a run, which has not made a request for each of the waits. -/
structure Uncut (continuing : Nat) (full cut : Run Asked Event Reply) : Prop where
  same : cut = full
  made_le : full.requestsMade ≤ continuing + 1

/-- A run that is cut has sent what it sent before its last wait. -/
theorem CutAt.requests_cut {continuing : Nat} {full cut : Run Asked Event Reply}
    {before rest : List (Step Asked Event)} (cutAt : CutAt continuing full cut before rest)
    : requests cut.steps = requests before := by
  rw [cutAt.cut_steps, requests_append]
  simp

theorem cutWaits_zero : cutWaits 0 = [false] :=
  rfl

/-- One more poll before the others is one more before the cut. Witness: both runs have its exchange
and its wait before all else.
-/
theorem CutAt.after {continuing : Nat} {full cut : Run Asked Event Reply}
    {before rest : List (Step Asked Event)} (cutAt : CutAt continuing full cut before rest)
    (state : State) (answer : Answer)
    : CutAt (continuing + 1) (full.after (loop.exchange state answer ++ [.wait true]))
        (cut.after (loop.exchange state answer ++ [.wait true]))
        (loop.exchange state answer ++ [.wait true] ++ before) rest where
  full_steps := by simp only [Run.after_steps, cutAt.full_steps, List.append_assoc]
  cut_steps := by simp only [Run.after_steps, cutAt.cut_steps, List.append_assoc]
  cut_result := cutAt.cut_result
  requests_before := by simp [cutAt.requests_before, Nat.add_comm]
  made := by rw [requestsMade_after, cutAt.made]
  made_before := by
    have := cutAt.made_before
    rw [requestsMade_after]
    omega

/-- A run that is uncut is so behind one more poll. -/
theorem Uncut.after {continuing : Nat} {full cut : Run Asked Event Reply}
    (uncut : Uncut continuing full cut) (state : State) (answer : Answer)
    : Uncut (continuing + 1) (full.after (loop.exchange state answer ++ [.wait true]))
        (cut.after (loop.exchange state answer ++ [.wait true])) where
  same := by rw [uncut.same]
  made_le := by
    have := uncut.made_le
    rw [requestsMade_after]
    omega

/-- Cutting a wait of a run either comes too late to change it, or stops it at this wait.
Witness: induction on the run; the first poll either ends it, or is waited for, or is cut.
-/
theorem Loop.Ran.cut_or_uncut (continuing : Nat) (ran : loop.Ran service state replies [] run)
    : Uncut continuing run (loop.run service state replies (cutWaits continuing))
      ∨ ∃ before rest,
          CutAt continuing run (loop.run service state replies (cutWaits continuing)) before
            rest := by
  generalize noWaits : [] = waits at ran
  induction ran generalizing continuing with
  | refused refusal =>
      exact .inl ⟨(Loop.Ran.refused refusal).run_eq, by simp [Run.requestsMade]⟩
  | exhausted sent =>
      exact .inl ⟨(Loop.Ran.exhausted sent).run_eq, by simp [Run.requestsMade, Step.goesOn]⟩
  | failed sent failure =>
      exact .inl ⟨(Loop.Ran.failed sent failure).run_eq, by simp [Run.requestsMade, Step.goesOn]⟩
  | ended sent answered verdict =>
      exact .inl ⟨(Loop.Ran.ended sent answered verdict).run_eq, by simp [Run.requestsMade]⟩
  | cancelled sent answered undecided stops => simp [← noWaits] at stops
  | @continued state reply replies waits answer run sent answered undecided continues rest ih =>
      subst noWaits
      cases continuing with
      | zero =>
          refine .inr ⟨loop.exchange state answer, run.steps, ?_⟩
          rw [cutWaits_zero, (Loop.Ran.cancelled sent answered undecided rfl).run_eq]
          refine ⟨by simp, rfl, rfl, by simp, by simp [Run.requestsMade, Step.goesOn], ?_⟩
          rw [requestsMade_after, Run.requestsMade]
          omega
      | succ continuing =>
          have goesOn : loop.run service state (reply :: replies) (cutWaits (continuing + 1))
              = (loop.run service (loop.advance state answer) replies (cutWaits continuing)).after
                  (loop.exchange state answer ++ [.wait true]) :=
            (Loop.Ran.continued sent answered undecided rfl (loop.ran _ _ _ _)).run_eq
          rw [goesOn]
          rcases ih continuing rfl with uncut | ⟨before, later, cutAt⟩
          · exact .inl (uncut.after _ _)
          · exact .inr ⟨_, later, cutAt.after _ _⟩

end JobWatch.Poll
