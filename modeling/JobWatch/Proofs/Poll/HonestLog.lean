import JobWatch.Poll.Follow
import JobWatch.Proofs.Poll.Runs
import Mathlib.Logic.Relation

/-! Following an output whose server keeps an append-only log and answers honestly. However the log
grows between the polls, what is delivered is always one contiguous segment of it, line by line, and
a completed run has delivered the log to its end.
-/

namespace JobWatch.Poll

-----------------------------------------------------------------------
-- Logs that only grow
-----------------------------------------------------------------------

/-- The log of an execution: its entries so far, and whether the execution is finished. -/
structure OutputLog where
  entries : List Output.Entry
  finished : Bool
  deriving DecidableEq

namespace OutputLog

/-- What may happen to a log at a time. Nothing happens to the log of a finished execution. -/
inductive Grows : OutputLog → OutputLog → Prop
  | append (entries : List Output.Entry) (entry : Output.Entry)
    : Grows ⟨entries, false⟩ ⟨entries ++ [entry], false⟩
  | finish (entries : List Output.Entry) : Grows ⟨entries, false⟩ ⟨entries, true⟩

/-- A log may have become another one, by any number of changes. -/
def Becomes : OutputLog → OutputLog → Prop :=
  Relation.ReflTransGen Grows

/-- A log keeps its entries in front of all that it becomes, by induction on the changes. -/
theorem Becomes.entries_prefix {log later : OutputLog} (becomes : log.Becomes later)
    : log.entries <+: later.entries := by
  induction becomes with
  | refl => exact List.prefix_rfl
  | tail _ grows ih =>
      cases grows with
      | append entries entry => exact ih.trans (List.prefix_append _ _)
      | finish entries => exact ih

/-- The log of a finished execution stays as it is. -/
theorem Becomes.eq_of_finished {log later : OutputLog} (becomes : log.Becomes later)
    (finished : log.finished = true)
    : later = log := by
  induction becomes with
  | refl => rfl
  | tail _ grows ih =>
      subst ih
      cases grows <;> simp at finished

/-- The entries between two places of a log. -/
def segment (log : OutputLog) (first past : Nat) : List Output.Entry :=
  (log.entries.take past).drop first

/-- A segment and the one that follows it in a later log make up one segment of the later log.
Witness: what an append-only log holds before a place it has reached never changes.
-/
theorem Becomes.segment_append {log later : OutputLog} (becomes : log.Becomes later)
    {first middle past : Nat} (ordered : first ≤ middle) (reached : middle ≤ log.entries.length)
    (further : middle ≤ past)
    : log.segment first middle ++ later.segment middle past = later.segment first past := by
  obtain ⟨added, extended⟩ := becomes.entries_prefix
  have same : log.entries.take middle = (later.entries.take past).take middle := by
    rw [List.take_take, Nat.min_eq_left further, ← extended,
      List.take_append_of_le_length reached]
  have start : first ≤ (log.entries.take middle).length := by
    rw [List.length_take]
    omega
  calc log.segment first middle ++ later.segment middle past
      = (log.entries.take middle ++ (later.entries.take past).drop middle).drop first := by
        rw [List.drop_append_of_le_length start]
        rfl
    _ = later.segment first past := by
        rw [same, List.take_append_drop]
        rfl

-----------------------------------------------------------------------
-- Honest answers
-----------------------------------------------------------------------

/-- The places of a log that an honest answer to a query lies between: from the cursor on, and no
more entries than it asks for; or the last entries, as many as are asked for.
-/
def Spans (log : OutputLog) (query : OutputQuery) (first past : Nat) : Prop :=
  match query with
  | .after cursor =>
      cursor.offset.toInt = first
      ∧ first ≤ past
      ∧ past ≤ log.entries.length
      ∧ past - first ≤ cursor.maxLines.toNat
  | .tail lines =>
      first = log.entries.length - lines.toNat ∧ past = log.entries.length

/-- A batch is an honest answer to a query: it holds the entries between two places of the log and
the index just past them, tells whether the execution is finished, and calls the output complete if
it is and nothing is left to send. All other fields are free.
-/
structure Answers (log : OutputLog) (query : OutputQuery) (batch : Output.Batch) (first past : Nat)
    : Prop where
  spans : log.Spans query first past
  entries : batch.entries = log.segment first past
  offset : batch.offset.toInt = past
  execCompleted : batch.execCompleted = log.finished
  completed : batch.completed = (log.finished && past == log.entries.length)

theorem Spans.ordered {log : OutputLog} {query : OutputQuery} {first past : Nat}
    (spans : log.Spans query first past)
    : first ≤ past ∧ past ≤ log.entries.length := by
  cases query with
  | after cursor => exact ⟨spans.2.1, spans.2.2.1⟩
  | tail lines =>
      obtain ⟨rfl, rfl⟩ := spans
      exact ⟨Nat.sub_le _ _, Nat.le_refl _⟩

/-- An honest batch that is done has been sent up to the end of the log of a finished execution. -/
theorem Answers.of_isDone {log : OutputLog} {query : OutputQuery} {batch : Output.Batch}
    {first past : Nat} (answers : log.Answers query batch first past) (done : batch.isDone = true)
    : log.finished = true ∧ past = log.entries.length := by
  simp only [Output.Batch.isDone, answers.execCompleted, answers.completed, Bool.and_eq_true,
    beq_iff_eq] at done
  exact ⟨done.1, done.2.2⟩

end OutputLog

/-- The server at the moment of a request: its log, and how it would answer each query. It may fail
to answer.
-/
structure Moment where
  log : OutputLog
  reply : OutputQuery → Except Client.Error Output.Batch

/-- The service of a server that is met at one moment after the other. -/
def momentService : Service OutputQuery Moment Output.Batch where
  refusal? _ := none
  answer query moment := moment.reply query
  exhausted := .requestFailed

/-- The moments of an honest server: its log only grows from each to the later ones, and whatever it
answers at any of them is honest.
-/
structure Honest (moments : List Moment) : Prop where
  grows : moments.Pairwise fun earlier later => earlier.log.Becomes later.log
  answers
    : ∀ moment ∈ moments,
        ∀ query batch,
          moment.reply query = .ok batch
          → ∃ first past, moment.log.Answers query batch first past

theorem Honest.tail {moment : Moment} {moments : List Moment} (honest : Honest (moment :: moments))
    : Honest moments :=
  ⟨honest.grows.of_cons, fun later member => honest.answers later (List.mem_cons_of_mem _ member)⟩

-----------------------------------------------------------------------
-- What following delivers
-----------------------------------------------------------------------

/-- Where following starts in the log that the first request meets. -/
def Start.firstIndex (start : Start) (moments : List Moment) : Nat :=
  match start, moments with
  | .tail lines, moment :: _ => moment.log.entries.length - lines.toNat
  | .tail _, [] | .restart, _ => 0

/-- The deliveries of a run at the moments of a server, in order. -/
def deliveries (start : Start) (maxLines : UInt32) (moments : List Moment) (waits : List Bool)
    : List (List Output.Entry) :=
  told (follow momentService start maxLines (fun lines => [lines]) moments waits).steps

/-- What is delivered up to a poll is the segment of the log from a place on that ends where the
batch of this poll ends.
-/
def DeliveredUpTo (moments : List Moment) (run : Run OutputQuery (List Output.Entry) Moment)
    (first poll : Nat)
    : Prop :=
  ∃ moment asked batch start past,
    moments[poll]? = some moment
    ∧ (requests run.steps)[poll]? = some asked
    ∧ moment.reply asked = .ok batch
    ∧ moment.log.Answers asked batch start past
    ∧ first ≤ past
    ∧ ((told run.steps).take (poll + 1)).flatten
      = Output.decompact (moment.log.segment first past)

section

variable {maxLines : UInt32} {query : OutputQuery} {moments : List Moment} {waits : List Bool}
  {run : Run OutputQuery (List Output.Entry) Moment} {first : Nat}

/-- The first batch is delivered as the segment that it spans. -/
theorem deliveredUpTo_first {moment : Moment} {batch : Output.Batch} {past : Nat}
    (replied : moment.reply query = .ok batch) (answers : moment.log.Answers query batch first past)
    (asks : (requests run.steps)[0]? = some query)
    (tells : (told run.steps).take 1 = [Output.decompact batch.entries])
    : DeliveredUpTo (moment :: moments) run first 0 := by
  refine ⟨moment, query, batch, first, past, rfl, asks, replied, answers,
    answers.spans.ordered.1, ?_⟩
  rw [tells, answers.entries]
  simp

/-- What a run delivers from the end of a batch on extends the segment of that batch. Witness: the
two segments are neighbours in the log that the later poll meets, and lines of entries are
concatenated as the entries are.
-/
theorem deliveredUpTo_later {moment : Moment} {batch : Output.Batch} {past poll : Nat}
    (honest : Honest (moment :: moments)) (answers : moment.log.Answers query batch first past)
    (later : DeliveredUpTo moments run past poll)
    : DeliveredUpTo (moment :: moments)
        (run.after
          ((following maxLines fun lines => [lines]).exchange query batch ++ [.wait true]))
        first (poll + 1) := by
  obtain ⟨next, asked, found, start, finish, met, asks, replied, replies, further, delivered⟩ :=
    later
  have becomes : moment.log.Becomes next.log :=
    (List.pairwise_cons.mp honest.grows).1 next (List.mem_of_getElem? met)
  have joined := becomes.segment_append answers.spans.ordered.1 answers.spans.ordered.2 further
  refine ⟨next, asked, found, start, finish, met, ?_, replied, replies,
    Nat.le_trans answers.spans.ordered.1 further, ?_⟩
  · simpa using asks
  · rw [← joined, Output.decompact_append, ← delivered]
    simp [following, answers.entries]

/-- From a place that the first answer starts at, every delivery extends one segment of the log.
Witness: induction on the run; the cursor in flight holds the place that everything delivered so far
ends at, and the log up to that place stays as it is.
-/
theorem Loop.Ran.deliveredUpTo
    (ran : (following maxLines fun lines => [lines]).Ran momentService query moments waits run)
    (honest : Honest moments)
    (starts
      : ∀ moment ∈ moments.head?,
          ∀ start past, moment.log.Spans query start past → start = first)
    {poll : Nat} (delivered : poll < (told run.steps).length)
    : DeliveredUpTo moments run first poll := by
  induction ran generalizing first poll with
  | refused | exhausted | failed => simp at delivered
  | @ended query moment moments waits batch success sent replied verdict =>
      obtain ⟨start, past, answers⟩ := honest.answers moment (by simp) query batch replied
      obtain rfl := starts moment (by simp) start past answers.spans
      obtain rfl : poll = 0 := by simpa [following] using delivered
      exact deliveredUpTo_first replied answers (by simp [following]) (by simp [following])
  | @cancelled query moment moments waits batch sent replied undecided stops =>
      obtain ⟨start, past, answers⟩ := honest.answers moment (by simp) query batch replied
      obtain rfl := starts moment (by simp) start past answers.spans
      obtain rfl : poll = 0 := by simpa [following] using delivered
      exact deliveredUpTo_first replied answers (by simp [following]) (by simp [following])
  | @continued query moment moments waits batch run sent replied undecided continues rest ih =>
      obtain ⟨start, past, answers⟩ := honest.answers moment (by simp) query batch replied
      obtain rfl := starts moment (by simp) start past answers.spans
      cases poll with
      | zero =>
          exact deliveredUpTo_first replied answers (by simp [following]) (by simp [following])
      | succ poll =>
          refine deliveredUpTo_later honest answers (ih honest.tail ?_ ?_)
          · intro next _ start finish spans
            have offset : batch.offset.toInt = start := spans.1
            have := answers.offset
            omega
          · simpa [following] using delivered

/-- A completed run has delivered as many batches as there were polls, and the last one is done.
Witness: induction on the run.
-/
theorem Loop.Ran.last_batch {success : Bool}
    (ran : (following maxLines fun lines => [lines]).Ran momentService query moments waits run)
    (completed : run.result = .ok (.completed success))
    : ∃ last moment asked batch,
        (told run.steps).length = last + 1
        ∧ moments[last]? = some moment
        ∧ (requests run.steps)[last]? = some asked
        ∧ moment.reply asked = .ok batch
        ∧ batch.isDone = true := by
  induction ran with
  | refused | exhausted | failed | cancelled => simp at completed
  | @ended query moment moments waits batch success sent replied verdict =>
      have done : batch.isDone = true ∧ batch.succeeded = success := by
        simpa [following] using verdict
      refine ⟨0, moment, query, batch, ?_, rfl, ?_, replied, done.1⟩
      · simp [following]
      · simp [following]
  | @continued query moment moments waits batch run sent replied undecided continues rest ih =>
      obtain ⟨last, final, asked, batch, polls, met, asks, answered, done⟩ := ih completed
      refine ⟨last + 1, final, asked, batch, ?_, met, ?_, answered, done⟩
      · simp [following, polls]
      · simpa using asks

end

-----------------------------------------------------------------------
-- No loss and no duplication
-----------------------------------------------------------------------

/-- The first answer to a start spans the log from the index that following starts at. -/
theorem Start.spans_firstIndex {start : Start} {maxLines : UInt32} {moments : List Moment}
    : ∀ moment ∈ moments.head?,
        ∀ first past,
          moment.log.Spans (start.query maxLines) first past
          → first = start.firstIndex moments := by
  intro moment first_moment first past spans
  cases moments with
  | nil => simp at first_moment
  | cons head moments =>
      obtain rfl : head = moment := by simpa using first_moment
      cases start with
      | restart =>
          have offset : (Output.Cursor.start maxLines).offset.toInt = first := spans.1
          have zero : (Output.Cursor.start maxLines).offset.toInt = 0 := rfl
          simp only [firstIndex]
          omega
      | tail lines => exact spans.1

/-- After every delivery, all that was delivered is the decompacted segment of the log from the
index that following starts at to the offset of the last batch, whatever the server's log did
between the polls; and a completed run has delivered all that the log ever holds from that index on.
Witness: every delivery extends one segment, and the last batch of a completed run ends with a
finished log.
-/
theorem deliveries_cover_log_segment (start : Start) (maxLines : UInt32) (moments : List Moment)
    (waits : List Bool) (honest : Honest moments)
    : (∀ poll < (deliveries start maxLines moments waits).length,
        ∃ moment asked batch,
          moments[poll]? = some moment
          ∧ (requests
                (follow momentService start maxLines (fun lines => [lines]) moments
                  waits).steps)[poll]?
            = some asked
          ∧ moment.reply asked = .ok batch
          ∧ ((deliveries start maxLines moments waits).take (poll + 1)).flatten
            = Output.decompact
                (moment.log.segment (start.firstIndex moments) batch.offset.toInt.toNat))
      ∧ ∀ success,
          (follow momentService start maxLines (fun lines => [lines]) moments waits).result
            = .ok (.completed success)
          → ∃ moment,
              moments[(deliveries start maxLines moments waits).length - 1]? = some moment
              ∧ moment.log.finished = true
              ∧ ∀ final,
                  moment.log.Becomes final
                  → (deliveries start maxLines moments waits).flatten
                    = Output.decompact (final.entries.drop (start.firstIndex moments)) := by
  have ran := (following maxLines fun lines => [lines]).ran momentService (start.query maxLines)
    moments waits
  have through {poll : Nat} (delivered : poll < (deliveries start maxLines moments waits).length) :=
    ran.deliveredUpTo honest Start.spans_firstIndex delivered
  constructor
  · intro poll delivered
    obtain ⟨moment, asked, batch, first, past, met, asks, replied, answers, _, segment⟩ :=
      through delivered
    refine ⟨moment, asked, batch, met, asks, replied, ?_⟩
    rw [answers.offset]
    exact segment
  · intro success completed
    obtain ⟨last, moment, asked, batch, polls, met, asks, replied, done⟩ :=
      ran.last_batch completed
    have count : (deliveries start maxLines moments waits).length = last + 1 := polls
    have delivered : last < (deliveries start maxLines moments waits).length := by omega
    obtain ⟨moment', asked', batch', first, past, met', asks', replied', answers, _, segment⟩ :=
      through delivered
    obtain rfl : moment = moment' := Option.some.inj (met.symm.trans met')
    obtain rfl : asked = asked' := Option.some.inj (asks.symm.trans asks')
    obtain rfl : batch = batch' := Except.ok.inj (replied.symm.trans replied')
    obtain ⟨finished, atEnd⟩ := answers.of_isDone done
    refine ⟨moment, by rw [count]; exact met, finished, ?_⟩
    intro final becomes
    rw [becomes.eq_of_finished finished]
    rw [atEnd, OutputLog.segment, List.take_length, List.take_of_length_le (by omega)] at segment
    exact segment

-----------------------------------------------------------------------
-- A server that is honest
-----------------------------------------------------------------------

/-- The batch that sends the entries between two places of a log. -/
def OutputLog.batch (log : OutputLog) (lastModified : Int64) (first past : Nat) : Output.Batch where
  id := none
  message := none
  error := none
  unmodified := false
  empty := false
  offset := Int64.ofNat past
  completed := log.finished && past == log.entries.length
  execCompleted := log.finished
  hasFailedNodes := false
  execState := if log.finished then "succeeded" else "running"
  lastModified := lastModified
  execDuration := 0
  percentLoaded := ⟨false, 0⟩
  totalSize := 0
  entries := log.segment first past

/-- A server that sends all that it is asked for and has, and refuses places beyond its log. -/
def OutputLog.reply (log : OutputLog) (lastModified : Int64)
    : OutputQuery → Except Client.Error Output.Batch
  | .after cursor =>
      let first := cursor.offset.toInt
      if 0 ≤ first ∧ first ≤ log.entries.length then
        .ok
          (log.batch lastModified first.toNat
            (min log.entries.length (first.toNat + cursor.maxLines.toNat)))
      else .error (.answered 400 "")
  | .tail lines =>
      .ok (log.batch lastModified (log.entries.length - lines.toNat) log.entries.length)

/-- A server with such replies is honest, as long as offsets into its log are 64-bit words. -/
theorem OutputLog.reply_answers {log : OutputLog} {lastModified : Int64} {query : OutputQuery}
    {batch : Output.Batch} (short : log.entries.length < 0x8000000000000000)
    (replied : log.reply lastModified query = .ok batch)
    : ∃ first past, log.Answers query batch first past := by
  cases query with
  | after cursor =>
      simp only [OutputLog.reply] at replied
      split at replied
      next within =>
        cases replied
        refine ⟨_, _, ⟨?_, rfl, Int64.toInt_ofNat_of_lt (by omega), rfl, rfl⟩⟩
        refine ⟨?_, ?_, ?_, ?_⟩ <;> omega
      next => cases replied
  | tail lines =>
      cases replied
      exact ⟨_, _, ⟨⟨rfl, rfl⟩, rfl, Int64.toInt_ofNat_of_lt short, rfl, rfl⟩⟩

/-- An entry of normal output with nothing but a text. -/
def plainEntry (log : String) : Output.Entry :=
  ⟨none, .normal, log, none, none, none⟩

/-- A log of two entries, with two more later, and at last finished. -/
def growingLogs : List OutputLog :=
  let early := [plainEntry "one", plainEntry "two\nthree"]
  let late := early ++ [plainEntry "four"] ++ [plainEntry "five\n"]
  [⟨early, false⟩, ⟨late, false⟩, ⟨late, true⟩]

/-- The moments of a server that sends all it has of the growing log. -/
def growingMoments : List Moment :=
  growingLogs.map fun log => ⟨log, log.reply 7⟩

theorem growingMoments_honest : Honest growingMoments := by
  have appended : OutputLog.Becomes growingLogs[0] growingLogs[1] :=
    .tail (.single (.append _ _)) (.append _ _)
  have finished : OutputLog.Becomes growingLogs[1] growingLogs[2] := .single (.finish _)
  constructor
  · refine List.pairwise_map.mpr (.cons ?_ (.cons ?_ (.cons ?_ .nil)))
    · intro later member
      rcases List.mem_cons.mp member with rfl | last
      · exact appended
      · exact List.mem_singleton.mp last ▸ appended.trans finished
    · intro later member
      exact List.mem_singleton.mp member ▸ finished
    · simp
  · intro moment member query batch replied
    obtain ⟨log, listed, rfl⟩ := List.mem_map.mp member
    have small : ∀ log ∈ growingLogs, log.entries.length ≤ 4 := by decide
    have short : log.entries.length < 0x8000000000000000 := by
      have := small log listed
      omega
    exact OutputLog.reply_answers short replied

/-- From the last entry on, the growing log is delivered with all its later entries, in batches of
at most one entry.
-/
theorem deliveries_cover_growing_log
    : Honest growingMoments
      ∧ (deliveries (.tail 1) 1 growingMoments []).flatten
        = Output.decompact
            [plainEntry "two\nthree", plainEntry "four", plainEntry "five\n"] := by
  refine ⟨growingMoments_honest, ?_⟩
  have completed
      : (follow momentService (.tail 1) 1 (fun lines => [lines]) growingMoments []).result
        = .ok (.completed true) :=
    rfl
  obtain ⟨moment, met, finished, all⟩ :=
    (deliveries_cover_log_segment (.tail 1) 1 growingMoments [] growingMoments_honest).2 true
      completed
  obtain rfl : growingMoments[2] = moment := Option.some.inj met
  exact all growingMoments[2].log .refl

end JobWatch.Poll
