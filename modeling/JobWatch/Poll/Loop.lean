import JobWatch.Client.Error

/-! A polling loop asks, looks at the answer, and either ends or waits and asks again. What is asked
and looked at differs from loop to loop; when it goes on and how it ends does not.
-/

namespace JobWatch.Poll

-----------------------------------------------------------------------
-- Runs
-----------------------------------------------------------------------

/-- How a loop ends when no request fails. -/
inductive Outcome where
  | completed (success : Bool)
  | cancelled
  deriving DecidableEq, Repr

/-- The loop ended, and with success. -/
def Outcome.isSuccess : Outcome → Bool
  | .completed success => success
  | .cancelled => false

/-- What a loop does: it sends a request, it tells something, it waits. A wait says whether to go
on.
-/
inductive Step (Request Event : Type) where
  | request (request : Request)
  | event (event : Event)
  | wait (continues : Bool)
  deriving DecidableEq, Repr

/-- A run of a loop: its steps in order, how it ended, and the replies that nothing asked for. -/
structure Run (Request Event Reply : Type) where
  steps : List (Step Request Event)
  result : Except Client.Error Outcome
  unread : List Reply

/-- The run with more steps before it. -/
def Run.after (run : Run Request Event Reply) (steps : List (Step Request Event))
    : Run Request Event Reply :=
  { run with steps := steps ++ run.steps }

/-- The requests among the steps, in order. -/
def requests (steps : List (Step Request Event)) : List Request :=
  steps.filterMap fun
    | .request request => some request
    | .event _ | .wait _ => none

-----------------------------------------------------------------------
-- Loops
-----------------------------------------------------------------------

/-- Where answers come from. A refused request is never sent. A reply is what the server does about
a request that was; when there is none left the request fails.
-/
structure Service (Request Reply Answer : Type) where
  refusal? : Request → Option Client.Error
  answer : Request → Reply → Except Client.Error Answer
  exhausted : Client.Error

/-- The service that gives answers in the order of a script, whatever is asked. -/
def Service.scripted : Service Request (Except Client.Error Answer) Answer where
  refusal? _ := none
  answer _ reply := reply
  exhausted := .unreadable "script exhausted"

/-- A loop: the next request, what an answer gives rise to, whether and with what success an answer
ends the loop, and how it changes the state.
-/
structure Loop (State Request Answer Event : Type) where
  request : State → Request
  events : State → Answer → List Event
  verdict? : State → Answer → Option Bool
  advance : State → Answer → State

/-- The run of a loop on a script of replies and the results of its waits. Waits beyond these
continue.
-/
def Loop.run (loop : Loop State Request Answer Event) (service : Service Request Reply Answer)
    (state : State) : List Reply → List Bool → Run Request Event Reply
  | [], _ =>
    match service.refusal? (loop.request state) with
    | some error => ⟨[], .error error, []⟩
    | none => ⟨[.request (loop.request state)], .error service.exhausted, []⟩
  | reply :: replies, waits =>
    match service.refusal? (loop.request state) with
    | some error => ⟨[], .error error, reply :: replies⟩
    | none =>
      match service.answer (loop.request state) reply with
      | .error error => ⟨[.request (loop.request state)], .error error, replies⟩
      | .ok answer =>
        let done := .request (loop.request state) :: (loop.events state answer).map .event
        match loop.verdict? state answer with
        | some success => ⟨done, .ok (.completed success), replies⟩
        | none =>
          if waits.headD true then
            (loop.run service (loop.advance state answer) replies waits.tail).after
              (done ++ [.wait true])
          else ⟨done ++ [.wait false], .ok .cancelled, replies⟩

end JobWatch.Poll
