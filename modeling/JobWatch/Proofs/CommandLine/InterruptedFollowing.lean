import JobWatch.Proofs.Client.Sending
import JobWatch.Proofs.CommandLine.Following
import JobWatch.Proofs.Poll.Interruption

/-! Following that is interrupted once, beside the same following without the interrupt. The two
differ only if another request was to come behind the interrupted one, be it one that is too long to
be sent.
-/

namespace JobWatch.CommandLine.FollowOptions

/-- What following with an interrupt is, beside following without: the same requests up to the
interrupted one, whose batch is still shown. If there was no request to come, nothing else changes.
If there was, following stops here with a line that says so. The requests to come are those that are
sent without the interrupt, and one that fails because its address is too long.
-/
structure Interrupted (palette : Palette) (connection : Client.Connection)
    (options : FollowOptions) (replies : List Http.Reply) (count : Nat) (full cut : Report)
    : Prop where
  noticed : ∃ plain, NoticedAt palette count plain cut
  requests : Effect.requests cut.effects = (Effect.requests full.effects).take count
  made : (options.run connection replies (Poll.cutWaits (count - 1))).requestsMade = count
  made_le : count ≤ (options.run connection replies []).requestsMade
  made_sent
    : (options.run connection replies []).requestsMade = (Effect.requests full.effects).length
      ∨ (options.run connection replies []).requestsMade
          = (Effect.requests full.effects).length + 1
        ∧ full.status = 1
        ∧ ∃ query, ¬connection.Fits (.output options.id query)
  delivered
    : ∀ batch, (replies[count - 1]?).bind batch? = some batch
      → ∃ before sent after,
          (Effect.requests before).length = count - 1
          ∧ cut.effects
            = before ++ .request sent :: Interrupt.notice palette
                :: (options.shownOf palette [batch] ++ after)
  last
    : (options.run connection replies []).requestsMade = count
      → NoticedAt palette count full cut
  stopped
    : count < (options.run connection replies []).requestsMade
      → ∃ batches : List Output.Batch,
          batches.length = count
          ∧ (replies.take count).map batch? = batches.map some
          ∧ (∃ more,
              Effect.output full.effects = Effect.output (options.shownOf palette batches) ++ more)
          ∧ cut.status = 0
          ∧ Effect.output cut.effects
            = Effect.output (options.shownOf palette batches) ++ options.lineEnd batches
              ++ palette.paint .yellow
                ("Stopped following execution " ++ options.id ++ " (best effort)")
              ++ "\n"

-----------------------------------------------------------------------
-- What is sent
-----------------------------------------------------------------------

/-- All requests among the steps of a run are sent. -/
theorem length_requests_report (palette : Palette) (connection : Client.Connection)
    (options : FollowOptions) (replies : List Http.Reply) (waits : List Bool)
    : (Effect.requests (options.report palette connection replies waits).effects).length
      = (Poll.requests (options.run connection replies waits).steps).length := by
  rw [requests_report]
  exact List.filterMap_length_eq_length.mpr (run_sends connection options replies waits)

/-- Following makes the requests that it sends, and if it fails in front of one whose address is too
long, this one too. Witness: one request was sent, and nothing but the length of its address keeps
another one from being sent.
-/
theorem made_sent (palette : Palette) {connection : Client.Connection} {options : FollowOptions}
    {replies : List Http.Reply}
    (some : 0 < (Effect.requests (options.report palette connection replies []).effects).length)
    : let full := options.report palette connection replies []
      (options.run connection replies []).requestsMade = (Effect.requests full.effects).length
      ∨ (options.run connection replies []).requestsMade
          = (Effect.requests full.effects).length + 1
        ∧ full.status = 1
        ∧ ∃ query, ¬connection.Fits (.output options.id query) := by
  intro full
  rw [length_requests_report]
  refine (run_ran connection options replies []).made_eq_sent_or.imp_right ?_
  rintro ⟨more, query, error, refusal, result⟩
  refine ⟨more, ?_, query, fun fits => ?_⟩
  · rw [report_status, result]
    rfl
  · rw [length_requests_report] at some
    obtain ⟨asked, isAsked⟩ := List.exists_mem_of_length_pos some
    have sent := run_sends connection options replies [] asked isAsked
    have taken : (connection.outputService options.id).refusal? query = none :=
      if_pos ((Client.Connection.sends_iff_of_sent sent).mpr fits)
    rw [taken] at refusal
    cases refusal

-----------------------------------------------------------------------
-- What is shown behind a request
-----------------------------------------------------------------------

/-- What a reply brings is told right behind its request. -/
theorem run_delivers {connection : Client.Connection} {options : FollowOptions}
    {replies : List Http.Reply} {waits : List Bool} {poll : Nat} {batch : Output.Batch}
    (within : poll < (Poll.requests (options.run connection replies waits).steps).length)
    (brings : (replies[poll]?).bind batch? = some batch)
    : ∃ earlier query later,
        (options.run connection replies waits).steps
          = earlier ++ .request query :: ((options.told [batch]).map .event ++ later)
        ∧ (Poll.requests earlier).length = poll := by
  obtain ⟨earlier, query, later, steps, counted, delivers⟩ :=
    (run_ran connection options replies waits).at_request within
  obtain ⟨reply, replied, read⟩ := Option.bind_eq_some_iff.mp brings
  have answered : Client.document Output.Batch.decode reply = .ok batch := by
    rw [batch?] at read
    cases found : Client.document Output.Batch.decode reply with
    | error => simp [found, Except.toOption] at read
    | ok value => simpa [found, Except.toOption] using read
  obtain ⟨more, rfl⟩ := delivers reply batch replied (Client.Connection.service_reads.mpr answered)
  refine ⟨earlier, query, more, ?_, counted⟩
  rw [steps]
  simp [Poll.following, told]

/-- What a reply brings is shown right behind its request. Witness: requests that can be sent are as
many among the steps of a run as among the effects.
-/
theorem report_delivers {palette : Palette} {connection : Client.Connection}
    {options : FollowOptions} {replies : List Http.Reply} {waits : List Bool} {poll : Nat}
    {batch : Output.Batch}
    (within : poll
      < (Effect.requests (options.report palette connection replies waits).effects).length)
    (brings : (replies[poll]?).bind batch? = some batch)
    : ∃ before sent after,
        (Effect.requests before).length = poll
        ∧ (options.report palette connection replies waits).effects
          = before ++ .request sent :: (options.shownOf palette [batch] ++ after) := by
  have sends := run_sends connection options replies waits
  rw [length_requests_report] at within
  obtain ⟨earlier, query, later, steps, counted⟩ := run_delivers within brings
  rw [steps, Poll.requests_append, Poll.requests_request] at sends
  obtain ⟨sent, taken⟩ :=
    Option.isSome_iff_exists.mp (sends query (List.mem_append_right _ List.mem_cons_self))
  have effects := report_effects palette connection options replies waits
  rw [steps, Effect.ofSteps_append, Effect.ofSteps_request, taken, Effect.ofSteps_append,
    Effect.ofSteps_events] at effects
  simp only [Option.toList_some, List.map_cons, List.map_nil, List.cons_append, List.nil_append,
    List.append_assoc] at effects
  refine ⟨_, sent, _, ?_, effects⟩
  rw [Effect.requests_ofSteps (shown_isText palette),
    List.filterMap_length_eq_length.mpr fun asked member =>
      sends asked (List.mem_append_left _ member), counted]

-----------------------------------------------------------------------
-- The command with an interrupt and without
-----------------------------------------------------------------------

/-- An interrupt behind which no request was to come only adds its notice. Witness: the runs are the
same, and the interrupted request is their last one.
-/
theorem interrupted_of_uncut (palette : Palette) {connection : Client.Connection}
    {options : FollowOptions} {replies : List Http.Reply} {continuing : Nat}
    (within : continuing + 1
      ≤ (Effect.requests (options.report palette connection replies []).effects).length)
    (uncut : Poll.Uncut continuing (options.run connection replies [])
      (options.run connection replies (Poll.cutWaits continuing)))
    : options.Interrupted palette connection replies (continuing + 1)
        (options.report palette connection replies [])
        (Interrupt.apply palette ⟨continuing + 1, false⟩
          (options.report palette connection replies (Poll.cutWaits continuing))) := by
  have same : options.report palette connection replies (Poll.cutWaits continuing)
      = options.report palette connection replies [] := by
    have sameRun := uncut.same
    rw [run, run] at sameRun
    simp only [report, sameRun]
  have noticed := Interrupt.apply_noticed palette (by omega) within
  have sentMade : (Poll.requests (options.run connection replies []).steps).length
      ≤ (options.run connection replies []).requestsMade :=
    (run_ran connection options replies []).sent_le_made
  have sentLength := length_requests_report palette connection options replies []
  have madeLe := uncut.made_le
  rw [same]
  refine ⟨⟨_, noticed⟩, ?_, ?_, by omega, made_sent palette (by omega), ?_, fun _ => noticed,
    by omega⟩
  · rw [noticed.requests_eq, List.take_of_length_le (by omega)]
  · rw [Nat.add_sub_cancel, uncut.same]
    omega
  · intro batch brings
    obtain ⟨before, sent, after, counted, effects⟩ := report_delivers within brings
    exact ⟨before, sent, after, counted, Interrupt.apply_effects palette effects (by omega)⟩

/-- Following that is cut has sent the first requests of following without a cut, up to the cut. -/
theorem requests_of_cutAt (palette : Palette) {connection : Client.Connection}
    {options : FollowOptions} {replies : List Http.Reply} {continuing : Nat}
    {before rest : List (Poll.Step Poll.OutputQuery Output.ChannelEvent)}
    (cutAt : Poll.CutAt continuing (options.run connection replies [])
      (options.run connection replies (Poll.cutWaits continuing)) before rest)
    : let cut := options.report palette connection replies (Poll.cutWaits continuing)
      let full := options.report palette connection replies []
      (Effect.requests cut.effects).length = continuing + 1
      ∧ Effect.requests cut.effects = (Effect.requests full.effects).take (continuing + 1) := by
  have sends := run_sends connection options replies (Poll.cutWaits continuing)
  rw [cutAt.requests_cut] at sends
  have sentLength := List.filterMap_length_eq_length.mpr sends
  rw [cutAt.requests_before] at sentLength
  intro cut full
  rw [requests_report, requests_report, cutAt.requests_cut, cutAt.full_steps,
    Poll.requests_append, List.filterMap_append, List.take_left' sentLength]
  exact ⟨sentLength, rfl⟩

/-- Following that is cut has shown the batches up to the cut, as following without a cut has, and
then says that it stopped.
-/
theorem output_of_cutAt (palette : Palette) {connection : Client.Connection}
    {options : FollowOptions} {replies : List Http.Reply} {continuing : Nat}
    {before rest : List (Poll.Step Poll.OutputQuery Output.ChannelEvent)}
    (cutAt : Poll.CutAt continuing (options.run connection replies [])
      (options.run connection replies (Poll.cutWaits continuing)) before rest)
    : let cut := options.report palette connection replies (Poll.cutWaits continuing)
      let full := options.report palette connection replies []
      ∃ batches : List Output.Batch,
        batches.length = continuing + 1
        ∧ (replies.take (continuing + 1)).map batch? = batches.map some
        ∧ (∃ more,
            Effect.output full.effects = Effect.output (options.shownOf palette batches) ++ more)
        ∧ Effect.output cut.effects
          = Effect.output (options.shownOf palette batches) ++ options.lineEnd batches
            ++ palette.paint .yellow
              ("Stopped following execution " ++ options.id ++ " (best effort)")
            ++ "\n" := by
  intro cut full
  have reads (query : Poll.OutputQuery) (reply : Http.Reply) (batch : Output.Batch) :=
    (outputService_reads connection options.id query reply batch).mp
  obtain ⟨batches, batchCount, read, heard⟩ :=
    Poll.following_batches batch?
      (run_ran connection options replies (Poll.cutWaits continuing)) reads cutAt.cut_result
  rw [cutAt.requests_cut, cutAt.requests_before] at batchCount
  rw [batchCount] at read
  have heardBefore : Poll.told before = options.told batches := by
    rw [cutAt.cut_steps] at heard
    simpa [told] using heard
  refine ⟨batches, batchCount, read, ?_, ?_⟩
  · have shows := congrArg Effect.output (report_effects palette connection options replies [])
    rw [Effect.output_append, Effect.output_append, Effect.output_ofSteps, cutAt.full_steps,
      Poll.told_append, List.map_append, Effect.output_append, heardBefore] at shows
    simp only [String.append_assoc] at shows
    exact ⟨_, shows⟩
  · rw [output_report palette connection options replies _ heard, cutAt.cut_result]
    simp [ending, Report.success, Effect.output, Effect.line, String.append_assoc]

/-- An interrupt behind which a request was to come stops following. Witness: all batches up to it
were shown, and the run without the interrupt has shown the same so far.
-/
theorem interrupted_of_cutAt (palette : Palette) {connection : Client.Connection}
    {options : FollowOptions} {replies : List Http.Reply} {continuing : Nat}
    {before rest : List (Poll.Step Poll.OutputQuery Output.ChannelEvent)}
    (cutAt : Poll.CutAt continuing (options.run connection replies [])
      (options.run connection replies (Poll.cutWaits continuing)) before rest)
    : options.Interrupted palette connection replies (continuing + 1)
        (options.report palette connection replies [])
        (Interrupt.apply palette ⟨continuing + 1, false⟩
          (options.report palette connection replies (Poll.cutWaits continuing))) := by
  obtain ⟨sentLength, sent⟩ := requests_of_cutAt palette cutAt
  obtain ⟨batches, batchCount, read, shows, shown⟩ := output_of_cutAt palette cutAt
  have within : continuing + 1
      ≤ (Effect.requests
          (options.report palette connection replies (Poll.cutWaits continuing)).effects).length :=
    Nat.le_of_eq sentLength.symm
  have noticed := Interrupt.apply_noticed palette (Nat.succ_pos continuing) within
  have some
      : 0 < (Effect.requests (options.report palette connection replies []).effects).length := by
    have taken := congrArg List.length sent
    rw [sentLength, List.length_take] at taken
    omega
  refine ⟨⟨_, noticed⟩, ?_, ?_, Nat.le_of_lt cutAt.made_before, made_sent palette some, ?_,
    fun made => ?_, fun _ => ⟨batches, batchCount, read, shows, ?_, ?_⟩⟩
  · rw [noticed.requests_eq, sent]
  · rw [Nat.add_sub_cancel, cutAt.made]
  · intro batch brings
    obtain ⟨before, sent, after, counted, effects⟩ := report_delivers within brings
    exact ⟨before, sent, after, counted, Interrupt.apply_effects palette effects (by omega)⟩
  · have := cutAt.made_before
    omega
  · rw [noticed.status_eq, report_status, cutAt.cut_result]
    rfl
  · rw [noticed.output_eq, shown]

/-- Following with an interrupt relates to following without as `Interrupted` tells. Witness: the
wait behind the interrupted request is cut, which comes too late for the run or stops it there.
-/
theorem report_interrupted (palette : Palette) (connection : Client.Connection)
    (options : FollowOptions) (replies : List Http.Reply) {count : Nat} (positive : 1 ≤ count)
    (within : count
      ≤ (Effect.requests (options.report palette connection replies []).effects).length)
    : options.Interrupted palette connection replies count
        (options.report palette connection replies [])
        (Interrupt.apply palette ⟨count, false⟩
          (options.report palette connection replies (Poll.cutWaits (count - 1)))) := by
  obtain ⟨continuing, rfl⟩ : ∃ continuing, count = continuing + 1 := ⟨count - 1, by omega⟩
  rw [Nat.add_sub_cancel]
  rcases (run_ran connection options replies []).cut_or_uncut continuing with
    uncut | ⟨before, rest, cutAt⟩
  · exact interrupted_of_uncut palette within uncut
  · exact interrupted_of_cutAt palette cutAt

end JobWatch.CommandLine.FollowOptions
