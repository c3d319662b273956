import JobWatch.Poll.Loop

/-! What the steps of a run say about its requests, its events and its waits, and how a run unfolds
one poll at a time.
-/

namespace JobWatch.Poll

variable {State Asked Reply Answer Event : Type}

/-- The events among the steps, in order. -/
def told (steps : List (Step Asked Event)) : List Event :=
  steps.filterMap fun
    | .event event => some event
    | .request _ | .wait _ => none

@[simp]
theorem requests_nil : requests ([] : List (Step Asked Event)) = [] :=
  rfl

@[simp]
theorem requests_append (before after : List (Step Asked Event))
    : requests (before ++ after) = requests before ++ requests after :=
  List.filterMap_append

@[simp]
theorem requests_request (asked : Asked) (steps : List (Step Asked Event))
    : requests (.request asked :: steps) = asked :: requests steps :=
  rfl

@[simp]
theorem requests_event (event : Event) (steps : List (Step Asked Event))
    : requests (.event event :: steps) = requests steps :=
  rfl

@[simp]
theorem requests_wait (continues : Bool) (steps : List (Step Asked Event))
    : requests (.wait continues :: steps) = requests steps :=
  rfl

@[simp]
theorem requests_events (events : List Event)
    : requests (events.map (.event : Event → Step Asked Event)) = [] := by
  induction events with
  | nil => rfl
  | cons event rest ih => simpa using ih

theorem requests_flatMap {α : Type} (items : List α) (stepsOf : α → List (Step Asked Event))
    : requests (items.flatMap stepsOf) = items.flatMap fun item => requests (stepsOf item) :=
  List.filterMap_flatMap

@[simp]
theorem told_nil : told ([] : List (Step Asked Event)) = [] :=
  rfl

@[simp]
theorem told_append (before after : List (Step Asked Event))
    : told (before ++ after) = told before ++ told after :=
  List.filterMap_append

@[simp]
theorem told_request (asked : Asked) (steps : List (Step Asked Event))
    : told (.request asked :: steps) = told steps :=
  rfl

@[simp]
theorem told_event (event : Event) (steps : List (Step Asked Event))
    : told (.event event :: steps) = event :: told steps :=
  rfl

@[simp]
theorem told_wait (continues : Bool) (steps : List (Step Asked Event))
    : told (.wait continues :: steps) = told steps :=
  rfl

@[simp]
theorem told_events (events : List Event)
    : told (events.map (.event : Event → Step Asked Event)) = events := by
  induction events with
  | nil => rfl
  | cons event rest ih => simpa using ih

theorem told_flatMap {α : Type} (items : List α) (stepsOf : α → List (Step Asked Event))
    : told (items.flatMap stepsOf) = items.flatMap fun item => told (stepsOf item) :=
  List.filterMap_flatMap

/-- An event was told if it is one of the steps. -/
theorem mem_told {event : Event} {steps : List (Step Asked Event)}
    : event ∈ told steps ↔ .event event ∈ steps := by
  induction steps with
  | nil => simp
  | cons step rest ih => cases step <;> simp [ih]

@[simp]
theorem Run.after_steps (run : Run Asked Event Reply) (steps : List (Step Asked Event))
    : (run.after steps).steps = steps ++ run.steps :=
  rfl

@[simp]
theorem Run.after_result (run : Run Asked Event Reply) (steps : List (Step Asked Event))
    : (run.after steps).result = run.result :=
  rfl

@[simp]
theorem Run.after_unread (run : Run Asked Event Reply) (steps : List (Step Asked Event))
    : (run.after steps).unread = run.unread :=
  rfl

/-- What a poll that is answered does before anything is decided: its request and its events. -/
def Loop.exchange (loop : Loop State Asked Answer Event) (state : State) (answer : Answer)
    : List (Step Asked Event) :=
  .request (loop.request state) :: (loop.events state answer).map .event

/-- The runs of a loop, told by what becomes of their first poll. -/
inductive Loop.Ran (loop : Loop State Asked Answer Event) (service : Service Asked Reply Answer)
    : State → List Reply → List Bool → Run Asked Event Reply → Prop
  | refused {state replies waits error}
    (refusal : service.refusal? (loop.request state) = some error)
    : loop.Ran service state replies waits ⟨[], .error error, replies⟩
  | exhausted {state waits} (sent : service.refusal? (loop.request state) = none)
    : loop.Ran service state [] waits
        ⟨[.request (loop.request state)], .error service.exhausted, []⟩
  | failed {state reply replies waits error}
    (sent : service.refusal? (loop.request state) = none)
    (failure : service.answer (loop.request state) reply = .error error)
    : loop.Ran service state (reply :: replies) waits
        ⟨[.request (loop.request state)], .error error, replies⟩
  | ended {state reply replies waits answer success}
    (sent : service.refusal? (loop.request state) = none)
    (answered : service.answer (loop.request state) reply = .ok answer)
    (verdict : loop.verdict? state answer = some success)
    : loop.Ran service state (reply :: replies) waits
        ⟨loop.exchange state answer, .ok (.completed success), replies⟩
  | cancelled {state reply replies waits answer}
    (sent : service.refusal? (loop.request state) = none)
    (answered : service.answer (loop.request state) reply = .ok answer)
    (undecided : loop.verdict? state answer = none) (stops : waits.headD true = false)
    : loop.Ran service state (reply :: replies) waits
        ⟨loop.exchange state answer ++ [.wait false], .ok .cancelled, replies⟩
  | continued {state reply replies waits answer run}
    (sent : service.refusal? (loop.request state) = none)
    (answered : service.answer (loop.request state) reply = .ok answer)
    (undecided : loop.verdict? state answer = none) (continues : waits.headD true = true)
    (rest : loop.Ran service (loop.advance state answer) replies waits.tail run)
    : loop.Ran service state (reply :: replies) waits
        (run.after (loop.exchange state answer ++ [.wait true]))

/-- Every run is one of these, by the recursion of `Loop.run`. -/
theorem Loop.ran (loop : Loop State Asked Answer Event) (service : Service Asked Reply Answer)
    (state : State) (replies : List Reply) (waits : List Bool)
    : loop.Ran service state replies waits (loop.run service state replies waits) := by
  fun_induction Loop.run loop service state replies waits with
  | case1 _ _ _ refusal => exact .refused refusal
  | case2 _ _ sent => exact .exhausted sent
  | case3 _ _ _ _ _ refusal => exact .refused refusal
  | case4 _ _ _ _ sent _ failure => exact .failed sent failure
  | case5 => exact .ended ‹_› ‹_› ‹_›
  | case6 _ _ _ _ _ _ _ _ _ _ => exact .continued ‹_› ‹_› ‹_› ‹_› ‹_›
  | case7 => exact .cancelled ‹_› ‹_› ‹_› (eq_false_of_ne_true ‹_›)

/-- A run has no other form: what became of its first poll determines it. -/
theorem Loop.Ran.run_eq {loop : Loop State Asked Answer Event}
    {service : Service Asked Reply Answer} {state : State} {replies : List Reply}
    {waits : List Bool} {run : Run Asked Event Reply}
    (ran : loop.Ran service state replies waits run)
    : loop.run service state replies waits = run := by
  induction ran with
  | @refused state replies waits error refusal =>
      cases replies <;> simp only [Loop.run, refusal]
  | exhausted sent => simp only [Loop.run, sent]
  | failed sent failure => simp only [Loop.run, sent, failure]
  | ended sent answered verdict => simp only [Loop.run, sent, answered, verdict, Loop.exchange]
  | cancelled sent answered undecided stops =>
      simp only [Loop.run, sent, answered, undecided, stops, Loop.exchange, Bool.false_eq_true,
        if_false]
  | continued sent answered undecided continues rest ih =>
      simp only [Loop.run, sent, answered, undecided, continues, Loop.exchange, if_true, ih]

@[simp]
theorem requests_exchange (loop : Loop State Asked Answer Event) (state : State)
    (answer : Answer)
    : requests (loop.exchange state answer) = [loop.request state] := by
  simp [Loop.exchange]

@[simp]
theorem told_exchange (loop : Loop State Asked Answer Event) (state : State) (answer : Answer)
    : told (loop.exchange state answer) = loop.events state answer := by
  simp [Loop.exchange]

/-- The first request of a run is the one its state asks for.
Witness: a run begins with that request, or it is refused and has none.
-/
theorem Loop.Ran.first_request {loop : Loop State Asked Answer Event}
    {service : Service Asked Reply Answer} {state : State} {replies : List Reply}
    {waits : List Bool} {run : Run Asked Event Reply} {asked : Asked}
    (ran : loop.Ran service state replies waits run)
    (first : (requests run.steps)[0]? = some asked)
    : asked = loop.request state := by
  cases ran <;> simp_all

/-- Every later request follows an answer to the request before it that did not end the loop, and
is the one that the state after this answer asks for. Witness: induction on the run; only a poll
that goes on has a request behind it.
-/
theorem Loop.Ran.next_request {loop : Loop State Asked Answer Event}
    {service : Service Asked Reply Answer} {state : State} {replies : List Reply}
    {waits : List Bool} {run : Run Asked Event Reply} {poll : Nat} {asked : Asked}
    (ran : loop.Ran service state replies waits run)
    (next : (requests run.steps)[poll + 1]? = some asked)
    : ∃ before reply answer,
        (requests run.steps)[poll]? = some (loop.request before)
        ∧ replies[poll]? = some reply
        ∧ service.answer (loop.request before) reply = .ok answer
        ∧ loop.verdict? before answer = none
        ∧ asked = loop.request (loop.advance before answer) := by
  induction ran generalizing poll with
  | refused | exhausted | failed | ended | cancelled => simp at next
  | @continued state reply replies waits answer run sent answered undecided continues rest ih =>
      simp only [Run.after_steps, requests_append, requests_exchange, requests_wait, requests_nil,
        List.singleton_append, List.append_nil, List.getElem?_cons_succ] at next ⊢
      cases poll with
      | zero => exact ⟨state, reply, answer, rfl, rfl, answered, undecided, rest.first_request next⟩
      | succ poll =>
          obtain ⟨before, later, found, asks, replied, rest⟩ := ih next
          exact ⟨before, later, found, asks, replied, rest⟩

/-- A run makes no request that the service refuses. -/
theorem Loop.Ran.sent {loop : Loop State Asked Answer Event}
    {service : Service Asked Reply Answer} {state : State} {replies : List Reply}
    {waits : List Bool} {run : Run Asked Event Reply}
    (ran : loop.Ran service state replies waits run)
    : ∀ asked ∈ requests run.steps, service.refusal? asked = none := by
  induction ran with
  | refused => simp
  | exhausted sent => simpa using sent
  | failed sent => simpa using sent
  | ended sent => simpa using sent
  | cancelled sent => simpa using sent
  | continued sent answered undecided continues rest ih => simpa using ⟨sent, ih⟩

/-- A run makes a request if the first one can be sent. -/
theorem Loop.Ran.exists_request {loop : Loop State Asked Answer Event}
    {service : Service Asked Reply Answer} {state : State} {replies : List Reply}
    {waits : List Bool} {run : Run Asked Event Reply}
    (ran : loop.Ran service state replies waits run)
    (sent : service.refusal? (loop.request state) = none)
    : ∃ polls, (requests run.steps).length = polls + 1 := by
  cases ran with
  | refused refusal => cases sent.symm.trans refusal
  | exhausted | failed | ended | cancelled | continued => simp

/-- Only a wait that does not continue cancels a run, by induction on it. -/
theorem Loop.Ran.not_cancelled {loop : Loop State Asked Answer Event}
    {service : Service Asked Reply Answer} {state : State} {replies : List Reply}
    {run : Run Asked Event Reply} (ran : loop.Ran service state replies [] run)
    : run.result ≠ .ok .cancelled := by
  generalize noWaits : [] = waits at ran
  induction ran with
  | refused | exhausted | failed | ended => simp
  | cancelled sent answered undecided stops => simp [← noWaits] at stops
  | continued sent answered undecided continues rest ih => exact ih (by simp [← noWaits])

end JobWatch.Poll
