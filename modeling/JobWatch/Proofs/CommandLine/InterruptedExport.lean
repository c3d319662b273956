import JobWatch.Proofs.Client.Sending
import JobWatch.Proofs.CommandLine.Exporting
import JobWatch.Proofs.Poll.Interruption

/-! An export that is interrupted once, beside the same export without the interrupt. What becomes
of it is decided by the last status that was polled.
-/

namespace JobWatch.CommandLine.ExportOptions

/-- What a started export with an interrupt is, beside the same export without: it polls for no
status behind the interrupted request but the first one, and asks for the archive if the last status
that it polled is ready and the address of the archive is not too long. If that status is not ready,
the export is waited for no longer, and a line says so. In all other cases it has the archive or a
request has failed, and only the notice is new.
-/
structure Interrupted (palette : Palette) (connection : Client.Connection)
    (options : ExportOptions) (initial : Export.Status) (replies : List Http.Reply)
    (count polls : Nat) (full cut : Report)
    : Prop where
  noticed : ∃ plain, NoticedAt palette count plain cut
  requests
    : ∃ asked : List Http.Request,
        asked.length = polls
        ∧ (∀ request ∈ asked,
            connection.request? (.exportStatus options.project initial.token) = some request)
        ∧ Effect.requests cut.effects
          = (connection.request? (.exportStart options.project)).toList ++ asked
            ++ if (Poll.lastStatus? status? replies.tail polls).any (·.ready) then
                (connection.request? (.exportDownload options.project initial.token)).toList
              else []
  archive
    : (connection.request? (.exportDownload options.project initial.token)).isSome
      ↔ connection.Fits (.exportDownload options.project initial.token)
  polls_le : polls ≤ max (count - 1) 1
  requests_prefix : Effect.requests cut.effects <+: Effect.requests full.effects
  finished
    : (∀ status, Poll.lastStatus? status? replies.tail polls = some status → status.ready)
      → NoticedAt palette count full cut
  stopped
    : ∀ status, Poll.lastStatus? status? replies.tail polls = some status → status.ready = false
      → cut.status = 0
        ∧ Effect.files cut.effects = []
        ∧ ∃ shown more,
            Effect.output full.effects = shown ++ more
            ∧ Effect.output cut.effects
              = shown ++ "\n"
                ++ palette.paint .yellow
                  ("Stopped waiting for export of " ++ options.project ++ " (best effort)")
                ++ "\n"

-----------------------------------------------------------------------
-- The export with an interrupt and without
-----------------------------------------------------------------------

variable {palette : Palette} {connection : Client.Connection} {options : ExportOptions}
  {storage : Storage} {replies : List Http.Reply} {initial : Export.Status} {count : Nat}

/-- Once an export could be started, only the length of its address keeps the archive from being
asked for.
-/
theorem archive_sends_iff
    (started : (connection.startExport options.project replies).result = .ok initial)
    : (connection.request? (.exportDownload options.project initial.token)).isSome
      ↔ connection.Fits (.exportDownload options.project initial.token) := by
  obtain ⟨request, sends, -, -⟩ := start_sends started
  exact Client.Connection.sends_iff_of_sent (Option.isSome_iff_exists.mpr ⟨request, sends⟩)

/-- The requests of an export with an interrupt in it, in the form of `Interrupted`. -/
theorem requests_interrupted {waits : List Bool} {noticed : Report}
    (started : (connection.startExport options.project replies).result = .ok initial)
    (same : Effect.requests noticed.effects
      = Effect.requests (options.report palette connection storage replies waits).effects)
    : ∃ asked : List Http.Request,
        asked.length
          = (Poll.requests (options.run connection initial replies.tail waits).steps).length
        ∧ (∀ request ∈ asked,
            connection.request? (.exportStatus options.project initial.token) = some request)
        ∧ Effect.requests noticed.effects
          = (connection.request? (.exportStart options.project)).toList ++ asked
            ++ if (Poll.lastStatus? status? replies.tail
                (Poll.requests
                  (options.run connection initial replies.tail waits).steps).length).any
                (·.ready) then
                (connection.request? (.exportDownload options.project initial.token)).toList
              else [] := by
  refine ⟨_, List.filterMap_length_eq_length.mpr
    (run_sends connection options initial replies.tail waits), ?_, ?_⟩
  · intro request member
    obtain ⟨token, polled, sent⟩ := List.mem_filterMap.mp member
    rw [(run_ends connection options initial replies.tail waits).1] at polled
    rwa [List.eq_of_mem_replicate polled] at sent
  · rw [same, requests_report palette storage waits started, List.append_assoc]

/-- An interrupt behind which no status was to be polled only adds its notice. Witness: the runs are
the same, and a run that nothing cuts does not end with a status that is not ready.
-/
theorem interrupted_of_uncut {continuing : Nat}
    (started : (connection.startExport options.project replies).result = .ok initial)
    (positive : 1 ≤ count) (early : continuing + 1 ≤ max (count - 1) 1)
    (within : count
      ≤ (Effect.requests (options.report palette connection storage replies []).effects).length)
    (uncut : Poll.Uncut continuing (options.run connection initial replies.tail [])
      (options.run connection initial replies.tail (Poll.cutWaits continuing)))
    : ∃ polls,
        options.Interrupted palette connection initial replies count polls
          (options.report palette connection storage replies [])
          (Interrupt.apply palette ⟨count, false⟩
            (options.report palette connection storage replies (Poll.cutWaits continuing))) := by
  have same : options.report palette connection storage replies (Poll.cutWaits continuing)
      = options.report palette connection storage replies [] := by
    rw [report_of_started palette storage _ started, report_of_started palette storage _ started,
      uncut.same]
  have noticed := Interrupt.apply_noticed palette positive within
  have polled := (run_ran connection options initial replies.tail []).sent_le_made
  have made := uncut.made_le
  rw [same]
  refine ⟨_, ⟨_, noticed⟩, requests_interrupted started noticed.requests_eq,
    archive_sends_iff started, by omega, ?_, fun _ => noticed, ?_⟩
  · exact noticed.requests_eq ▸ List.prefix_rfl
  · intro status last unready
    have ends := (run_ends connection options initial replies.tail []).2.2
    rw [last] at ends
    refine absurd ?_ (run_ran connection options initial replies.tail []).not_cancelled
    simpa [Poll.EndsWith, unready] using ends

/-- The last status of an export that is cut is not ready, or else it would not have been cut. -/
theorem unready_of_cutAt {continuing : Nat} {before rest : List (Poll.Step String UInt32)}
    (cutAt : Poll.CutAt continuing (options.run connection initial replies.tail [])
      (options.run connection initial replies.tail (Poll.cutWaits continuing)) before rest)
    : ∃ last,
        Poll.lastStatus? status? replies.tail (continuing + 1) = some last
        ∧ last.ready = false := by
  have ends := (run_ends connection options initial replies.tail (Poll.cutWaits continuing)).2.2
  rw [cutAt.cut_result, cutAt.requests_cut, cutAt.requests_before] at ends
  cases read : Poll.lastStatus? status? replies.tail (continuing + 1) with
  | none => simp [read, Poll.EndsWith] at ends
  | some last =>
      cases ready : last.ready with
      | false => exact ⟨last, rfl, ready⟩
      | true => simp [read, ready, Poll.EndsWith] at ends

/-- An export that is cut has sent its start and the polls up to the cut, as the export without a
cut has.
-/
theorem requests_of_cutAt (palette : Palette) (storage : Storage) {continuing : Nat}
    {before rest : List (Poll.Step String UInt32)}
    (started : (connection.startExport options.project replies).result = .ok initial)
    (cutAt : Poll.CutAt continuing (options.run connection initial replies.tail [])
      (options.run connection initial replies.tail (Poll.cutWaits continuing)) before rest)
    : let cut := options.report palette connection storage replies (Poll.cutWaits continuing)
      let full := options.report palette connection storage replies []
      (Effect.requests cut.effects).length = continuing + 2
      ∧ Effect.requests cut.effects <+: Effect.requests full.effects := by
  intro cut full
  obtain ⟨last, read, unready⟩ := unready_of_cutAt cutAt
  obtain ⟨request, startSends, -, -⟩ := start_sends started
  have sends := run_sends connection options initial replies.tail (Poll.cutWaits continuing)
  rw [cutAt.requests_cut] at sends
  have sentLength := List.filterMap_length_eq_length.mpr sends
  have cutRequests := requests_report palette storage (Poll.cutWaits continuing) started
  rw [cutAt.requests_cut, cutAt.requests_before, read, startSends, Option.any_some, unready,
    if_neg Bool.false_ne_true, List.append_nil] at cutRequests
  rw [cutRequests, requests_report palette storage [] started, cutAt.full_steps, startSends,
    Poll.requests_append, List.filterMap_append, List.append_assoc]
  refine ⟨?_, (List.prefix_append_right_inj _).mpr (List.prefix_append _ _)⟩
  rw [List.length_append, sentLength, cutAt.requests_before, Option.toList_some,
    List.length_singleton, Nat.add_comm]

/-- An export that is cut has shown the percentages up to the cut, as the export without a cut has,
and then says that it stopped.
-/
theorem output_of_cutAt (palette : Palette) (storage : Storage) {continuing : Nat}
    {before rest : List (Poll.Step String UInt32)}
    (started : (connection.startExport options.project replies).result = .ok initial)
    (cutAt : Poll.CutAt continuing (options.run connection initial replies.tail [])
      (options.run connection initial replies.tail (Poll.cutWaits continuing)) before rest)
    : let cut := options.report palette connection storage replies (Poll.cutWaits continuing)
      let full := options.report palette connection storage replies []
      ∃ shown more,
        Effect.output full.effects = shown ++ more
        ∧ Effect.output cut.effects
          = shown ++ "\n"
            ++ palette.paint .yellow
              ("Stopped waiting for export of " ++ options.project ++ " (best effort)")
            ++ "\n" := by
  intro cut full
  have shownFull := output_report palette storage [] started
  have shownCut := output_report palette storage (Poll.cutWaits continuing) started
  rw [cutAt.full_steps, Poll.told_append, List.map_append, Effect.output_append,
    ← String.append_assoc, String.append_assoc, String.append_assoc] at shownFull
  rw [cutAt.cut_steps, cutAt.cut_result, Poll.told_append, Poll.told_wait, Poll.told_nil,
    List.append_nil] at shownCut
  refine ⟨_, _, shownFull, ?_⟩
  rw [shownCut]
  simp [closing, stopped?, Report.success, Effect.output, Effect.line, String.append_assoc]

/-- An interrupt behind which a status was to be polled stops an export. Witness: the run was
cancelled, so that the status before is not ready, and the other run did the same so far.
-/
theorem interrupted_of_cutAt {continuing : Nat} {before rest : List (Poll.Step String UInt32)}
    (started : (connection.startExport options.project replies).result = .ok initial)
    (positive : 1 ≤ count) (late : count ≤ continuing + 2)
    (early : continuing + 1 ≤ max (count - 1) 1)
    (cutAt : Poll.CutAt continuing (options.run connection initial replies.tail [])
      (options.run connection initial replies.tail (Poll.cutWaits continuing)) before rest)
    : ∃ polls,
        options.Interrupted palette connection initial replies count polls
          (options.report palette connection storage replies [])
          (Interrupt.apply palette ⟨count, false⟩
            (options.report palette connection storage replies (Poll.cutWaits continuing))) := by
  have polled : (Poll.requests (options.run connection initial replies.tail
      (Poll.cutWaits continuing)).steps).length = continuing + 1 := by
    rw [cutAt.requests_cut, cutAt.requests_before]
  obtain ⟨last, read, unready⟩ := unready_of_cutAt cutAt
  obtain ⟨sentLength, isPrefix⟩ := requests_of_cutAt palette storage started cutAt
  have noticed := Interrupt.apply_noticed palette positive (Nat.le_trans late sentLength.ge)
  refine ⟨_, ⟨_, noticed⟩, requests_interrupted started noticed.requests_eq,
    archive_sends_iff started, by omega, ?_, ?_, ?_⟩
  · exact noticed.requests_eq ▸ isPrefix
  · intro ready
    rw [polled] at ready
    exact absurd (ready last read) (by simp [unready])
  · intro status _ _
    obtain ⟨shown, more, shownFull, shownCut⟩ := output_of_cutAt palette storage started cutAt
    refine ⟨?_, ?_, shown, more, shownFull, ?_⟩
    · rw [noticed.status_eq, report_of_started palette storage _ started, cutAt.cut_result]
      rfl
    · rw [noticed.files_eq, files_report palette storage _ started, cutAt.cut_result]
      rfl
    · rw [noticed.output_eq, shownCut]

/-- A started export with an interrupt relates to the same export without as `Interrupted` tells.
Witness: the wait behind the interrupted request is cut, or the first wait if there is none before;
this comes too late for the run or stops it there.
-/
theorem report_interrupted (palette : Palette) (storage : Storage)
    (started : (connection.startExport options.project replies).result = .ok initial)
    (positive : 1 ≤ count)
    (within : count
      ≤ (Effect.requests (options.report palette connection storage replies []).effects).length)
    : ∃ polls,
        options.Interrupted palette connection initial replies count polls
          (options.report palette connection storage replies [])
          (Interrupt.apply palette ⟨count, false⟩
            (options.report palette connection storage replies
              (Poll.cutWaits (count - 1 - 1)))) := by
  rcases (run_ran connection options initial replies.tail []).cut_or_uncut (count - 1 - 1) with
    uncut | ⟨before, rest, cutAt⟩
  · exact interrupted_of_uncut started positive (by omega) within uncut
  · exact interrupted_of_cutAt started positive (by omega) (by omega) cutAt

end JobWatch.CommandLine.ExportOptions
