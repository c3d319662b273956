import JobWatch.Poll.Track
import JobWatch.Proofs.Poll.HonestLog

/-! The control skeleton of a run: when it asks, when it waits, and how it ends. What it asks for
and what it tells is left out. Loops that agree on which answers are the last ones have one
skeleton.
-/

namespace JobWatch.Poll

variable {State Asked Answer Event : Type}

-----------------------------------------------------------------------
-- Skeletons of runs
-----------------------------------------------------------------------

/-- A step of which only its place in the loop is kept. -/
inductive Beat where
  | request
  | wait (continues : Bool)
  deriving DecidableEq, Repr

/-- How a run ends, whether or not its end is a success. -/
inductive Ending where
  | failed (error : Client.Error)
  | completed
  | cancelled
  deriving DecidableEq, Repr

/-- The requests and waits among the steps, in order. -/
def beats (steps : List (Step Asked Event)) : List Beat :=
  steps.filterMap fun
    | .request _ => some .request
    | .wait continues => some (.wait continues)
    | .event _ => none

/-- The ending of a result. -/
def Ending.of : Except Client.Error Outcome → Ending
  | .error error => .failed error
  | .ok (.completed _) => .completed
  | .ok .cancelled => .cancelled

/-- The requests and waits of a run, and its ending. -/
structure Skeleton where
  beats : List Beat
  ending : Ending
  deriving DecidableEq, Repr

/-- The skeleton of a run. -/
def Run.skeleton (run : Run Asked Event Reply) : Skeleton :=
  ⟨Poll.beats run.steps, .of run.result⟩

/-- The skeleton with more beats before it. -/
def Skeleton.after (skeleton : Skeleton) (beats : List Beat) : Skeleton :=
  { skeleton with beats := beats ++ skeleton.beats }

/-- The skeleton that answers and waits determine. Of an answer only counts whether it is an error,
and else whether it is the last one. There is a request for every answer, and a wait behind every
answer that is not the last one. An exhausted script answers an error.
-/
def Skeleton.ofAnswers : List (Except Client.Error Bool) → List Bool → Skeleton
  | [], _ => ⟨[.request], .failed (.unreadable "script exhausted")⟩
  | .error error :: _, _ => ⟨[.request], .failed error⟩
  | .ok true :: _, _ => ⟨[.request], .completed⟩
  | .ok false :: answers, waits =>
    if waits.headD true then (ofAnswers answers waits.tail).after [.request, .wait true]
    else ⟨[.request, .wait false], .cancelled⟩

@[simp]
theorem beats_append (before after : List (Step Asked Event))
    : beats (before ++ after) = beats before ++ beats after :=
  List.filterMap_append

@[simp]
theorem beats_wait (continues : Bool) (steps : List (Step Asked Event))
    : beats (.wait continues :: steps) = .wait continues :: beats steps :=
  rfl

@[simp]
theorem beats_nil : beats ([] : List (Step Asked Event)) = [] :=
  rfl

/-- Of an exchange only its request is kept. -/
@[simp]
theorem beats_exchange (loop : Loop State Asked Answer Event) (state : State) (answer : Answer)
    : beats (loop.exchange state answer) = [.request] := by
  simp [beats, Loop.exchange]

-----------------------------------------------------------------------
-- Skeletons of loops
-----------------------------------------------------------------------

/-- The answers of a script by which of them are the last ones. -/
def flags (isLast : Answer → Bool) (script : List (Except Client.Error Answer))
    : List (Except Client.Error Bool) :=
  script.map (·.map isLast)

/-- A loop that ends with an answer whenever the answer says so has the skeleton that the flags of
its script determine. Witness: induction on the run; one poll is one step of the recursion on the
flags.
-/
theorem Loop.Ran.skeleton {loop : Loop State Asked Answer Event} {isLast : Answer → Bool}
    (decides : ∀ state answer, (loop.verdict? state answer).isSome = isLast answer)
    {state : State} {script : List (Except Client.Error Answer)} {waits : List Bool}
    {run : Run Asked Event (Except Client.Error Answer)}
    (ran : loop.Ran .scripted state script waits run)
    : run.skeleton = .ofAnswers (flags isLast script) waits := by
  induction ran with
  | refused refusal => cases refusal
  | exhausted => rfl
  | failed sent failure =>
      cases failure
      rfl
  | @ended state reply script waits answer success sent answered verdict =>
      cases answered
      have last : isLast answer = true := by rw [← decides state, verdict, Option.isSome_some]
      simp [Run.skeleton, flags, Except.map, last, Skeleton.ofAnswers, Ending.of]
  | @cancelled state reply script waits answer sent answered undecided stops =>
      cases answered
      have notLast : isLast answer = false := by rw [← decides state, undecided, Option.isSome_none]
      simp [-List.headD_eq_head?_getD, Run.skeleton, flags, Except.map, notLast,
        Skeleton.ofAnswers, Ending.of, stops]
  | @continued state reply script waits answer run sent answered undecided continues rest ih =>
      cases answered
      have notLast : isLast answer = false := by rw [← decides state, undecided, Option.isSome_none]
      have flagged : flags isLast (.ok answer :: script) = .ok false :: flags isLast script := by
        rw [flags, List.map_cons, Except.map, notLast]
        rfl
      rw [flagged, Skeleton.ofAnswers, if_pos continues, ← ih]
      simp [Run.skeleton, Skeleton.after]

/-- A batch is the last one if both flags of the end are set. -/
theorem following_decides (maxLines : UInt32) (deliver : List Output.Entry → List Event)
    (query : OutputQuery) (batch : Output.Batch)
    : ((following maxLines deliver).verdict? query batch).isSome
      = (batch.execCompleted && batch.completed) := by
  cases done : batch.isDone <;> simp [following, done] <;> simpa [Output.Batch.isDone] using done

/-- A status is the last one if it is ready. -/
theorem tracking_decides (token : String) (highest : UInt32) (status : Export.Status)
    : ((tracking token).verdict? highest status).isSome = status.ready := by
  cases ready : status.ready <;> simp [tracking, ready]

/-- Following an output and tracking an export ask, wait and end in the same way on answers that
fail alike and complete alike, whatever else their batches and statuses hold and from wherever they
start. Witness: both have the skeleton that the flags of the answers determine.
-/
theorem follow_and_track_share_skeleton {answers : List (Except Client.Error Bool)}
    {batches : List (Except Client.Error Output.Batch)}
    {statuses : List (Except Client.Error Export.Status)}
    (batchFlags : flags (fun batch => batch.execCompleted && batch.completed) batches = answers)
    (statusFlags : flags (·.ready) statuses = answers) (waits : List Bool) (start : Start)
    (maxLines : UInt32) (deliver : List Output.Entry → List Event) (initial : Export.Status)
    : let followed := follow .scripted start maxLines deliver batches waits
      let tracked := track .scripted initial statuses waits
      beats followed.steps = beats tracked.steps
      ∧ Ending.of followed.result = Ending.of tracked.result
      ∧ followed.skeleton = .ofAnswers answers waits
      ∧ tracked.skeleton = .ofAnswers answers waits := by
  intro followed tracked
  have following : followed.skeleton = .ofAnswers answers waits := by
    rw [← batchFlags]
    exact Loop.Ran.skeleton (following_decides maxLines deliver) (Loop.ran _ _ _ _ _)
  have tracking : tracked.skeleton = .ofAnswers answers waits := by
    rw [← statusFlags]
    exact Loop.Ran.skeleton (tracking_decides initial.token) (Loop.ran _ _ _ _ _)
  have same : followed.skeleton = tracked.skeleton := following.trans tracking.symm
  exact ⟨congrArg Skeleton.beats same, congrArg Skeleton.ending same, following, tracking⟩

/-- Two batches that are not done, one of them with more output behind a finished execution, and two
statuses that are not ready make a loop wait twice before both meet the same error.
-/
theorem failing_loops_share_skeleton
    : let log : OutputLog := ⟨[plainEntry "one", plainEntry "two"], true⟩
      let batches := [.ok (OutputLog.batch ⟨[], false⟩ 3 0 0), .ok (log.batch 4 0 1),
        .error (.answered 503 "")]
      let statuses : List (Except Client.Error Export.Status) :=
        [.ok ⟨"t 2", false, 70⟩, .ok ⟨"t 3", false, 20⟩, .error (.answered 503 "")]
      let answers := [.ok false, .ok false, .error (.answered 503 "")]
      let followed := follow .scripted (.tail 5) 1 (fun lines => [lines]) batches []
      let tracked := track .scripted ⟨"t 1", true, 50⟩ statuses []
      flags (fun batch => batch.execCompleted && batch.completed) batches = answers
      ∧ flags (·.ready) statuses = answers
      ∧ beats tracked.steps = [.request, .wait true, .request, .wait true, .request]
      ∧ beats followed.steps = beats tracked.steps
      ∧ Ending.of followed.result = Ending.of tracked.result := by
  intro log batches statuses answers followed tracked
  have batchFlags : flags (fun batch => batch.execCompleted && batch.completed) batches = answers :=
    rfl
  have statusFlags : flags (·.ready) statuses = answers := rfl
  obtain ⟨sameBeats, sameEnding, -⟩ :=
    follow_and_track_share_skeleton batchFlags statusFlags [] (.tail 5) 1 (fun lines => [lines])
      ⟨"t 1", true, 50⟩
  exact ⟨batchFlags, statusFlags, rfl, sameBeats, sameEnding⟩

end JobWatch.Poll
