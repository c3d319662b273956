import JobWatch.Proofs.Output.Routing
import JobWatch.Proofs.Poll.HonestLog
import JobWatch.Proofs.Poll.ReceivedBatches

/-! The same output cut up in different ways: what is told of it does not depend on where one batch
ends and the next one begins, nor on which lines share an entry.
-/

namespace JobWatch.Poll

/-- Following on a script: from where it starts, how many lines it asks for, what it is answered,
and how its waits end.
-/
structure Session where
  start : Start
  maxLines : UInt32
  script : List (Except Client.Error Output.Batch)
  waits : List Bool

namespace Session

/-- The run of a session. -/
def run {Event : Type} (session : Session) (deliver : List Output.Entry → List Event)
    : Run OutputQuery Event (Except Client.Error Output.Batch) :=
  follow .scripted session.start session.maxLines deliver session.script session.waits

/-- The batches that a session receives, whatever becomes of their lines. -/
def batches (session : Session) : List Output.Batch :=
  receivedBatches Except.toOption session.script (session.run fun lines => [lines])

/-- The lines of all the batches that a session receives. -/
def lines (session : Session) : List Output.Entry :=
  session.batches.flatMap fun batch => Output.decompact batch.entries

/-- A session receives the output to its end. -/
def Completes (session : Session) : Prop :=
  ∃ success, (session.run fun lines => [lines]).result = .ok (.completed success)

/-- The state of the execution in the last batch that a session receives. -/
def finalState? (session : Session) : Option String :=
  session.batches.getLast?.map (·.execState)

-----------------------------------------------------------------------
-- Runs of sessions
-----------------------------------------------------------------------

variable {Event : Type} {session : Session}

theorem ran (session : Session) (deliver : List Output.Entry → List Event)
    : (following session.maxLines deliver).Ran .scripted (session.start.query session.maxLines)
        session.script session.waits (session.run deliver) :=
  Loop.ran _ _ _ _ _

/-- What becomes of the lines changes neither the requests of a session nor its end. -/
theorem independent (session : Session) (deliver : List Output.Entry → List Event)
    : requests (session.run deliver).steps
        = requests (session.run fun lines => [lines]).steps
      ∧ (session.run deliver).result = (session.run fun lines => [lines]).result :=
  following_independent deliver (session.ran fun lines => [lines])

theorem receivedBatches_run (session : Session) (deliver : List Output.Entry → List Event)
    : receivedBatches Except.toOption session.script (session.run deliver) = session.batches := by
  rw [batches, receivedBatches, receivedBatches, (session.independent deliver).1]

/-- A script gives its answers as they are. -/
theorem scripted_reads (query : OutputQuery) (reply : Except Client.Error Output.Batch)
    (batch : Output.Batch) (answered : Service.scripted.answer query reply = .ok batch)
    : reply.toOption = some batch := by
  obtain rfl : reply = .ok batch := answered
  rfl

/-- A session that completes is completed by the state of the execution in its last batch. -/
theorem Completes.result_eq (completes : session.Completes)
    (deliver : List Output.Entry → List Event)
    : (session.run deliver).result
      = .ok (.completed (session.finalState? == some "succeeded")) := by
  obtain ⟨success, completed⟩ := completes
  obtain ⟨batch, isLast, -, succeeded⟩ :=
    following_completed (session.ran fun lines => [lines]) scripted_reads completed
  have last : session.batches.getLast? = some batch := isLast
  rw [(session.independent deliver).2, completed, ← succeeded, finalState?, last, Option.map_some]
  rfl

/-- A session that completes tells of the batches it receives, and of nothing else. -/
theorem Completes.told_eq (completes : session.Completes)
    (deliver : List Output.Entry → List Event)
    : told (session.run deliver).steps
      = session.batches.flatMap fun batch => deliver (Output.decompact batch.entries) := by
  have unfailing := completes.result_eq deliver
  rw [told_receivedBatches (session.ran deliver) scripted_reads unfailing,
    receivedBatches_run session deliver]

/-- The marks that a session puts for its batches with entries. -/
def marks (session : Session) : List Output.ChannelEvent :=
  List.replicate (session.batches.countP fun batch => batch.entries ≠ []) .progress

/-- Batch by batch there is a mark exactly if there are entries, since entries have lines. -/
theorem Completes.told_of_progress (completes : session.Completes) {router : Output.Router}
    (progress : router.progress = true)
    : told (session.run router.events).steps = session.marks := by
  rw [completes.told_eq, Output.Router.flatMap_events_of_progress progress, marks]
  congr 2
  funext batch
  rw [Bool.eq_iff_iff]
  simp [Output.decompact_eq_nil_iff]

/-- Line by line the events are those of all lines in order. -/
theorem Completes.told_of_lines (completes : session.Completes) {router : Output.Router}
    (plain : router.progress = false)
    : told (session.run router.events).steps = session.lines.filterMap router.event? := by
  rw [completes.told_eq, Output.Router.flatMap_events_of_lines plain, lines]

-----------------------------------------------------------------------
-- Sessions with the same lines
-----------------------------------------------------------------------

/-- Two sessions that receive the same lines to the end of the same execution tell the same and end
alike, however the lines are cut into batches and merged into entries. Only a router that marks
batches tells them apart, and it tells nothing but one mark for each batch with entries.
-/
theorem told_independent_of_cutting {left right : Session} (leftCompletes : left.Completes)
    (rightCompletes : right.Completes) (sameState : left.finalState? = right.finalState?)
    (sameLines : left.lines = right.lines) (router : Output.Router)
    : (left.run router.events).result = (right.run router.events).result
      ∧ (∃ success, (left.run router.events).result = .ok (.completed success))
      ∧ (router.progress = false
          → told (left.run router.events).steps = told (right.run router.events).steps)
      ∧ (router.progress = true
          → told (left.run router.events).steps = left.marks
            ∧ told (right.run router.events).steps = right.marks) := by
  refine ⟨?_, ⟨_, leftCompletes.result_eq router.events⟩, fun plain => ?_, fun progress => ?_⟩
  · rw [leftCompletes.result_eq, rightCompletes.result_eq, sameState]
  · rw [leftCompletes.told_of_lines plain, rightCompletes.told_of_lines plain, sameLines]
  · exact ⟨leftCompletes.told_of_progress progress, rightCompletes.told_of_progress progress⟩

-----------------------------------------------------------------------
-- Two cuttings of one output
-----------------------------------------------------------------------

/-- A warning with nothing but a text. -/
def plainWarning (log : String) : Output.Entry :=
  ⟨none, .warn, log, none, none, none⟩

/-- Three lines in three answers: two lines in one entry, nothing, and a warning at the end. -/
def merged : Session :=
  let early : OutputLog := ⟨[plainEntry "one\ntwo"], false⟩
  let late : OutputLog := ⟨[plainEntry "one\ntwo", plainWarning "three"], true⟩
  ⟨.restart, 500, [.ok (early.batch 5 0 1), .ok (early.batch 6 1 1), .ok (late.batch 7 1 2)], []⟩

/-- The same three lines in one answer, each in an entry of its own. -/
def separate : Session :=
  let whole : OutputLog := ⟨[plainEntry "one", plainEntry "two\r", plainWarning "three\n"], true⟩
  ⟨.tail 3, 1, [.ok (whole.batch 9 0 3)], [false]⟩

/-- A quiet router tells the warning of both sessions, and a router of marks two and one of them. -/
theorem merged_and_separate_tell_the_same
    : merged.Completes
      ∧ separate.Completes
      ∧ merged.finalState? = separate.finalState?
      ∧ merged.lines = separate.lines
      ∧ told (separate.run (Output.Router.events ⟨false, true, none⟩)).steps = [.warning "three"]
      ∧ told (merged.run (Output.Router.events ⟨false, true, none⟩)).steps = [.warning "three"]
      ∧ told (merged.run (Output.Router.events ⟨true, false, none⟩)).steps
        = [.progress, .progress]
      ∧ told (separate.run (Output.Router.events ⟨true, false, none⟩)).steps = [.progress] := by
  have mergedCompletes : merged.Completes := ⟨true, rfl⟩
  have separateCompletes : separate.Completes := ⟨true, rfl⟩
  have sameState : merged.finalState? = separate.finalState? := rfl
  have sameLines : merged.lines = separate.lines := by decide +kernel
  have told (router : Output.Router) :=
    told_independent_of_cutting mergedCompletes separateCompletes sameState sameLines router
  have warned : Poll.told (separate.run (Output.Router.events ⟨false, true, none⟩)).steps
      = [.warning "three"] := by
    decide +kernel
  obtain ⟨-, -, same, -⟩ := told ⟨false, true, none⟩
  obtain ⟨-, -, -, marked⟩ := told ⟨true, false, none⟩
  obtain ⟨mergedMarks, separateMarks⟩ := marked rfl
  refine ⟨mergedCompletes, separateCompletes, sameState, sameLines, warned, (same rfl).trans warned,
    mergedMarks.trans ?_, separateMarks.trans ?_⟩ <;>
  decide +kernel

end Session

end JobWatch.Poll
