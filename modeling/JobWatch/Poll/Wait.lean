/-! Waiting between two polls, on a clock that stands still until something waits. A wait ends
early when its cancellation token is cancelled, and the token stays cancelled.
-/

namespace JobWatch.Poll

/-- How long a wait takes when nothing is said, in milliseconds. -/
def defaultInterval : Nat :=
  2000

/-- The clock and the token: the time in milliseconds, whether the token is cancelled, and the
times at which it is going to be.
-/
structure Clock where
  now : Nat
  cancelled : Bool
  deadlines : List Nat
  deriving DecidableEq, Repr

namespace Clock

/-- The clock at the start. -/
def start : Clock :=
  ⟨0, false, []⟩

/-- The clock at a later time. All deadlines up to then have passed. -/
def moveTo (clock : Clock) (time : Nat) : Clock :=
  { now := time
    cancelled := clock.cancelled || clock.deadlines.any (· ≤ time)
    deadlines := clock.deadlines.filter (time < ·) }

/-- The token is cancelled now. -/
def cancel (clock : Clock) : Clock :=
  { clock with cancelled := true }

/-- The time after a delay. -/
def after (clock : Clock) (delay : Nat) : Nat :=
  clock.now + delay

/-- The token will be cancelled after a delay. -/
def cancelIn (clock : Clock) (delay : Nat) : Clock :=
  { clock with deadlines := clock.after delay :: clock.deadlines }

/-- Time passes, whatever becomes of the token. -/
def sleep (clock : Clock) (time : Nat) : Clock :=
  clock.moveTo (clock.after time)

/-- A wait of an interval: whether polling may go on, and the clock when the wait is over. Deadlines
that have come by now count before the wait begins.
-/
def wait (clock : Clock) (interval : Nat) : Bool × Clock :=
  let clock := clock.moveTo clock.now
  if clock.cancelled then (false, clock)
  else
    let finish := clock.after interval
    match clock.deadlines.min? with
    | some deadline =>
      if deadline ≤ finish then (false, clock.moveTo deadline) else (true, clock.moveTo finish)
    | none => (true, clock.moveTo finish)

end Clock

/-- What can happen around a wait. A copy of a wait shares its token. -/
inductive WaitStep where
  | wait (copy : Bool)
  | cancel
  | cancelIn (delay : Nat)
  | sleep (time : Nat)
  deriving DecidableEq, Repr

/-- The result of one step, if it is a wait, and the clock after it. -/
def WaitStep.take (interval : Nat) (clock : Clock) : WaitStep → Option Bool × Clock
  | .wait _ => ((clock.wait interval).1, (clock.wait interval).2)
  | .cancel => (none, clock.cancel)
  | .cancelIn delay => (none, clock.cancelIn delay)
  | .sleep time => (none, clock.sleep time)

/-- The results of steps in order, each with the time after the step. -/
def timeline (interval : Nat) : Clock → List WaitStep → List (Option Bool × Nat)
  | _, [] => []
  | clock, step :: steps =>
    let (result, clock) := step.take interval clock
    (result, clock.now) :: timeline interval clock steps

end JobWatch.Poll
