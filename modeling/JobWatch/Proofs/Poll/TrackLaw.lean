import JobWatch.Poll.Track
import JobWatch.Proofs.Poll.ScriptedRuns
import Mathlib.Data.List.Basic
import Mathlib.Data.List.Induction

/-! Tracking an export on a script of statuses: what is asked for, which percentages are told, where
tracking waits, and how it ends. A percentage is told when it is a record: higher than the one at
the start and than all that were polled before it.
-/

namespace JobWatch.Poll

-----------------------------------------------------------------------
-- Records
-----------------------------------------------------------------------

/-- A percentage is a record if it is higher than the one at the start and than all before it. -/
def IsRecord (initial : UInt32) (before : List UInt32) (percentage : UInt32) : Prop :=
  ∀ earlier ∈ initial :: before, earlier < percentage

instance (initial : UInt32) (before : List UInt32)
    : DecidablePred (IsRecord initial before) :=
  fun percentage =>
    inferInstanceAs (Decidable (∀ earlier ∈ initial :: before, earlier < percentage))

/-- The records among some percentages, in order. -/
def records (initial : UInt32) (polled : List UInt32) : List UInt32 :=
  polled.zipIdx.filterMap fun (percentage, poll) =>
    if IsRecord initial (polled.take poll) percentage then some percentage else none

variable {initial percentage : UInt32} {polled : List UInt32}

theorem isRecord_concat (last : UInt32)
    : IsRecord initial (polled ++ [last]) percentage
      ↔ IsRecord initial polled percentage ∧ last < percentage := by
  simp [IsRecord, or_imp, forall_and, and_assoc]

/-- One more percentage is one more record, or none. -/
theorem records_concat (last : UInt32)
    : records initial (polled ++ [last])
      = records initial polled ++ if IsRecord initial polled last then [last] else [] := by
  have earlier : polled.zipIdx.filterMap (fun (percentage, poll) =>
        if IsRecord initial ((polled ++ [last]).take poll) percentage then some percentage
        else none)
      = records initial polled := by
    refine List.filterMap_congr fun (percentage, poll) member => ?_
    have within : poll < polled.length := (List.mem_zipIdx' member).1
    simp only
    rw [List.take_append_of_le_length (Nat.le_of_lt within)]
  rw [records, List.zipIdx_append, List.filterMap_append, earlier]
  by_cases record : IsRecord initial polled last <;> simp [record]

theorem records_subset : records initial polled ⊆ polled := by
  intro record member
  obtain ⟨⟨percentage, poll⟩, isPolled, kept⟩ := List.mem_filterMap.mp member
  have same : percentage = record := by simpa using (Option.ite_none_right_eq_some.mp kept).2
  exact same ▸ List.fst_mem_of_mem_zipIdx isPolled

/-- Records are higher than the percentage at the start, by induction on the percentages. -/
theorem initial_lt_records : ∀ record ∈ records initial polled, initial < record := by
  induction polled using List.reverseRecOn with
  | nil => simp [records]
  | append_singleton polled last ih =>
      intro record member
      rw [records_concat, List.mem_append] at member
      rcases member with earlier | isLast
      · exact ih record earlier
      · obtain ⟨isRecord, rfl⟩ : IsRecord initial polled last ∧ record = last := by
          simpa using isLast
        exact isRecord initial List.mem_cons_self

/-- Records get higher and higher, by induction on the percentages. -/
theorem records_increase : (records initial polled).Pairwise (· < ·) := by
  induction polled using List.reverseRecOn with
  | nil => exact List.Pairwise.nil
  | append_singleton polled last ih =>
      rw [records_concat]
      split
      case isTrue isRecord =>
        refine List.pairwise_append.mpr ⟨ih, List.pairwise_singleton _ _, ?_⟩
        intro earlier member later isLast
        rw [List.mem_singleton.mp isLast]
        exact isRecord earlier (List.mem_cons_of_mem _ (records_subset member))
      case isFalse => rwa [List.append_nil]

/-- The last record is the highest percentage of all, or there is none and nothing is higher than
the percentage at the start. Witness: induction on the percentages; what is no record is not higher
than one of those before it.
-/
theorem le_last_record
    : ∀ polledOne ∈ initial :: polled, polledOne ≤ (records initial polled).getLastD initial := by
  induction polled using List.reverseRecOn with
  | nil => simp [records]
  | append_singleton polled last ih =>
      rw [records_concat]
      split
      case isTrue isRecord =>
        intro polledOne member
        rw [List.getLastD_concat]
        rw [← List.cons_append, List.mem_append] at member
        rcases member with earlier | isLast
        · exact UInt32.le_of_lt (isRecord polledOne earlier)
        · exact UInt32.le_of_eq (List.mem_singleton.mp isLast)
      case isFalse noRecord =>
        intro polledOne member
        rw [List.append_nil]
        rw [← List.cons_append, List.mem_append] at member
        rcases member with earlier | isLast
        · exact ih polledOne earlier
        · rw [List.mem_singleton.mp isLast]
          -- some percentage before it is not exceeded, and that one is below the last record
          simp only [IsRecord, not_forall] at noRecord
          obtain ⟨higher, isEarlier, notBelow⟩ := noRecord
          exact UInt32.le_trans (UInt32.not_lt.mp notBelow) (ih higher isEarlier)

-----------------------------------------------------------------------
-- Tracking a script
-----------------------------------------------------------------------

/-- A script of answers to polls of a status. -/
abbrev StatusScript := List (Except Client.Error Export.Status)

/-- Tracking ends with a poll, counted from zero: the answer is an error, or a status that is ready,
or any other status that a wait with the result false follows.
-/
def TrackEndsAt (script : StatusScript) (waits : List Bool) (poll : Nat) : Prop :=
  match answerAt script poll with
  | .error _ => True
  | .ok status =>
      status.ready = true ∨ status.ready = false ∧ waitAt waits poll = false

/-- The percentages among the first answers of a script. -/
def percentagesBefore (script : StatusScript) (polls : Nat) : List UInt32 :=
  (script.take polls).filterMap fun answer => answer.toOption.map (·.percentage)

/-- What is told at a poll: its percentage, if that is a record. -/
def tickAt (initial : UInt32) (script : StatusScript) (poll : Nat) : List UInt32 :=
  match answerAt script poll with
  | .ok status =>
      if IsRecord initial (percentagesBefore script poll) status.percentage then
        [status.percentage]
      else []
  | .error _ => []

/-- The request of a poll, which asks for the token of the start, and what is told then. -/
def trackExchangeAt (initial : Export.Status) (script : StatusScript) (poll : Nat)
    : List (Step String UInt32) :=
  .request initial.token :: (tickAt initial.percentage script poll).map .event

/-- How tracking ends with a poll: with its error, or by the status being ready or not. -/
def trackResultAt (script : StatusScript) (poll : Nat) : Except Client.Error Outcome :=
  match answerAt script poll with
  | .error error => .error error
  | .ok status => .ok (if status.ready then .completed true else .cancelled)

/-- Tracking ends with the exhausted script at the latest, whose answer is an error. -/
theorem trackEndsAt_length (script : StatusScript) (waits : List Bool)
    : TrackEndsAt script waits script.length := by
  simp [TrackEndsAt, answerAt]

variable {initial : Export.Status} {script : StatusScript} {waits : List Bool} {poll : Nat}
  {status : Export.Status}

/-- An answered poll adds its percentage to those before. -/
theorem percentagesBefore_succ (answered : answerAt script poll = .ok status)
    : percentagesBefore script (poll + 1)
      = percentagesBefore script poll ++ [status.percentage] := by
  have found : script[poll]? = some (.ok status) := by
    rw [answerAt, List.getD_eq_getElem?_getD] at answered
    cases there : script[poll]? with
    | none => simp [there] at answered
    | some answer => simpa [there] using answered
  rw [percentagesBefore, List.take_add_one, found, List.filterMap_append]
  rfl

theorem percentagesBefore_succ_of_error {error : Client.Error}
    (failed : answerAt script poll = .error error)
    : percentagesBefore script (poll + 1) = percentagesBefore script poll := by
  rw [percentagesBefore, List.take_add_one, List.filterMap_append]
  rw [answerAt, List.getD_eq_getElem?_getD] at failed
  cases there : script[poll]? with
  | none => simp [percentagesBefore]
  | some answer =>
      obtain rfl : answer = .error error := by simpa [there] using failed
      simp [percentagesBefore, Except.toOption]

/-- Up to a poll that tracking has not ended before, every poll was answered. -/
theorem answered_of_not_trackEndsAt (going : ¬TrackEndsAt script waits poll)
    : ∃ status, answerAt script poll = .ok status := by
  cases answer : answerAt script poll with
  | error error => simp [TrackEndsAt, answer] at going
  | ok status => exact ⟨status, rfl⟩

/-- The loop ends where its script and its waits say that tracking ends. -/
theorem endsAt_tracking
    : (tracking initial.token).EndsAt initial.percentage script waits poll
      ↔ TrackEndsAt script waits poll := by
  unfold Loop.EndsAt TrackEndsAt
  cases answerAt script poll with
  | error error => rfl
  | ok status => cases ready : status.ready <;> simp [tracking, ready]

/-- The state of the loop is the highest percentage so far: what exceeds it is what would be a
record. Witness: induction on the polls; the state changes exactly if the percentage of a poll
exceeds it.
-/
theorem stateAt_tracking (going : ∀ earlier < poll, ¬TrackEndsAt script waits earlier)
    (percentage : UInt32)
    : (tracking initial.token).stateAt initial.percentage script poll < percentage
      ↔ IsRecord initial.percentage (percentagesBefore script poll) percentage := by
  induction poll generalizing percentage with
  | zero => simp [Loop.stateAt, percentagesBefore, IsRecord]
  | succ poll ih =>
      have before := ih fun earlier lt => going earlier (Nat.lt_succ_of_lt lt)
      obtain ⟨status, answered⟩ := answered_of_not_trackEndsAt (going poll (Nat.lt_succ_self poll))
      rw [percentagesBefore_succ answered, isRecord_concat, ← before, Loop.stateAt, answered]
      simp only [tracking]
      split
      case isTrue higher => exact ⟨fun above => ⟨UInt32.lt_trans higher above, above⟩, And.right⟩
      case isFalse notHigher =>
        refine ⟨fun above => ⟨above, ?_⟩, And.left⟩
        exact UInt32.lt_of_le_of_lt (UInt32.not_lt.mp notHigher) above

/-- Up to its end the loop does at each poll what tracking does. -/
theorem exchangeAt_tracking (going : ∀ earlier < poll, ¬TrackEndsAt script waits earlier)
    : (tracking initial.token).exchangeAt initial.percentage script poll
      = trackExchangeAt initial script poll := by
  unfold Loop.exchangeAt trackExchangeAt tickAt
  cases answerAt script poll with
  | error error => rfl
  | ok status =>
      simp only [Loop.exchange, tracking, ← stateAt_tracking going status.percentage]

theorem resultAt_tracking
    : (tracking initial.token).resultAt initial.percentage script poll
      = trackResultAt script poll := by
  unfold Loop.resultAt trackResultAt
  cases answerAt script poll with
  | error error => rfl
  | ok status => cases ready : status.ready <;> simp [tracking, ready]

/-- What is told at the polls that tracking goes on behind are the records among their percentages,
by induction on the polls.
-/
theorem ticks_before (going : ∀ earlier < poll, ¬TrackEndsAt script waits earlier)
    : (List.range poll).flatMap (tickAt initial.percentage script)
      = records initial.percentage (percentagesBefore script poll) := by
  induction poll with
  | zero => simp [records, percentagesBefore]
  | succ poll ih =>
      obtain ⟨status, answered⟩ := answered_of_not_trackEndsAt (going poll (Nat.lt_succ_self poll))
      rw [List.range_succ, List.flatMap_append, List.flatMap_singleton,
        ih fun earlier lt => going earlier (Nat.lt_succ_of_lt lt), percentagesBefore_succ answered,
        records_concat, tickAt, answered]

/-- The last poll tells a record like those before it, or it fails and tells nothing. -/
theorem ticks_through (going : ∀ earlier < poll, ¬TrackEndsAt script waits earlier)
    : (List.range (poll + 1)).flatMap (tickAt initial.percentage script)
      = records initial.percentage (percentagesBefore script (poll + 1)) := by
  rw [List.range_succ, List.flatMap_append, List.flatMap_singleton, ticks_before going, tickAt]
  cases answer : answerAt script poll with
  | error error => rw [percentagesBefore_succ_of_error answer, List.append_nil]
  | ok status => rw [percentagesBefore_succ answer, records_concat]

@[simp]
theorem requests_trackExchangeAt (initial : Export.Status) (script : StatusScript) (poll : Nat)
    : requests (trackExchangeAt initial script poll) = [initial.token] := by
  simp [trackExchangeAt]

@[simp]
theorem told_trackExchangeAt (initial : Export.Status) (script : StatusScript) (poll : Nat)
    : told (trackExchangeAt initial script poll) = tickAt initial.percentage script poll := by
  simp [trackExchangeAt]

/-- What tracking does at its polls, each of them but the last with a wait behind it. -/
def trackStepsThrough (initial : Export.Status) (script : StatusScript) (last : Nat)
    : List (Step String UInt32) :=
  (List.range last).flatMap (fun poll => trackExchangeAt initial script poll ++ [.wait true])
    ++ trackExchangeAt initial script last
    ++ lastWait (trackResultAt script last)

theorem requests_trackStepsThrough (last : Nat)
    : requests (trackStepsThrough initial script last)
      = List.replicate (last + 1) initial.token := by
  rw [trackStepsThrough, requests_append, requests_append, requests_lastWait,
    requests_trackExchangeAt, requests_flatMap, List.append_nil, List.replicate_succ']
  congr 1
  simp [← List.map_eq_flatMap, List.map_const']

/-- What is told at the polls up to the last one are the records among their percentages. -/
theorem told_trackStepsThrough {last : Nat}
    (going : ∀ earlier < last, ¬TrackEndsAt script waits earlier)
    : told (trackStepsThrough initial script last)
      = records initial.percentage (percentagesBefore script (last + 1)) := by
  rw [← ticks_through going, trackStepsThrough, told_append, told_append, told_lastWait,
    told_trackExchangeAt, told_flatMap, List.append_nil, List.range_succ, List.flatMap_append,
    List.flatMap_singleton]
  simp

/-- Tracking a script polls up to the first poll that ends it. It asks for the token of the start
every time, waits once between two polls, and ends as its last poll says. It tells the records among
the percentages of its polls, so that they get higher and higher, and no percentage is higher than
the last of them. Witness: the law of scripted runs, read for the loop that tracks.
-/
theorem track_steps_through_first_end (initial : Export.Status) (script : StatusScript)
    (waits : List Bool)
    : ∃ last ≤ script.length,
        TrackEndsAt script waits last
        ∧ (∀ earlier < last, ¬TrackEndsAt script waits earlier)
        ∧ (track .scripted initial script waits).steps
          = (List.range last).flatMap (fun poll =>
              trackExchangeAt initial script poll ++ [.wait true])
            ++ trackExchangeAt initial script last
            ++ lastWait (trackResultAt script last)
        ∧ requests (track .scripted initial script waits).steps
          = List.replicate (last + 1) initial.token
        ∧ told (track .scripted initial script waits).steps
          = records initial.percentage (percentagesBefore script (last + 1))
        ∧ (told (track .scripted initial script waits).steps).Pairwise (· < ·)
        ∧ (∀ tick ∈ told (track .scripted initial script waits).steps, initial.percentage < tick)
        ∧ (∀ percentage ∈ percentagesBefore script (last + 1),
            percentage
              ≤ (told (track .scripted initial script waits).steps).getLastD initial.percentage)
        ∧ (track .scripted initial script waits).result = trackResultAt script last := by
  obtain ⟨last, ends, first, steps, result⟩ :=
    ((tracking initial.token).ran .scripted initial.percentage script waits).scripted
  have going : ∀ earlier < last, ¬TrackEndsAt script waits earlier :=
    fun earlier before ends => first earlier before (endsAt_tracking.mpr ends)
  have exchanges
      : (List.range last).flatMap (fun poll =>
          (tracking initial.token).exchangeAt initial.percentage script poll ++ [.wait true])
        = (List.range last).flatMap (fun poll =>
            trackExchangeAt initial script poll ++ [.wait true]) := by
    apply List.flatMap_congr
    intro poll member
    have before := List.mem_range.mp member
    rw [exchangeAt_tracking fun earlier lt => going earlier (Nat.lt_trans lt before)]
  rw [Loop.stepsThrough, exchanges, exchangeAt_tracking going, resultAt_tracking] at steps
  have stepsThrough : (track .scripted initial script waits).steps
      = trackStepsThrough initial script last :=
    steps
  have ticks : told (track .scripted initial script waits).steps
      = records initial.percentage (percentagesBefore script (last + 1)) := by
    rw [stepsThrough, told_trackStepsThrough going]
  refine ⟨last, ?_, endsAt_tracking.mp ends, going, steps, ?_, ticks, ?_, ?_, ?_,
    result.trans resultAt_tracking⟩
  · by_contra beyond
    exact going script.length (by omega) (trackEndsAt_length script waits)
  · rw [stepsThrough, requests_trackStepsThrough]
  · rw [ticks]
    exact records_increase
  · rw [ticks]
    exact initial_lt_records
  · rw [ticks]
    exact fun percentage polled => le_last_record percentage (List.mem_cons_of_mem _ polled)

end JobWatch.Poll
