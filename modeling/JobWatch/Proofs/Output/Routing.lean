import JobWatch.Output.Decompaction
import JobWatch.Output.Router

/-! What a router tells of many batches: line by line it does not matter how the lines are cut into
batches, and mark by mark nothing else does.
-/

namespace JobWatch.Output

-----------------------------------------------------------------------
-- Decompacted entries
-----------------------------------------------------------------------

/-- A text has at least one line. -/
theorem Lines.ofText_ne_nil (text : List Char) : Lines.ofText text ≠ [] := by
  simp only [Lines.ofText]
  split
  · exact List.cons_ne_nil _ _
  · assumption

/-- No lines come of no entries only. -/
theorem decompact_eq_nil_iff {entries : List Entry} : decompact entries = [] ↔ entries = [] := by
  rw [decompact, List.flatMap_eq_nil_iff, List.eq_nil_iff_forall_not_mem]
  have some (entry : Entry) : entry.lines ≠ [] := by
    simpa [Entry.lines] using Lines.ofText_ne_nil entry.log.toList
  simp only [some, imp_false]

namespace Router

variable {router : Router}

-----------------------------------------------------------------------
-- Single events
-----------------------------------------------------------------------

/-- A router that marks batches tells nothing else. -/
theorem events_of_progress (marks : router.progress = true) {entries : List Entry}
    {event : ChannelEvent} (told : event ∈ router.events entries)
    : event = .progress := by
  rw [events, if_pos marks] at told
  split at told
  · cases told
  · exact List.mem_singleton.mp told

/-- A router that shows lines marks no batch. Witness: by the level of the entry, its event is a
line on one of the channels.
-/
theorem events_of_lines (lines : router.progress = false) {entries : List Entry}
    {event : ChannelEvent} (told : event ∈ router.events entries)
    : event ≠ .progress := by
  rw [events, if_neg (Bool.eq_false_iff.mp lines)] at told
  obtain ⟨entry, _, shown⟩ := List.mem_filterMap.mp told
  rintro rfl
  rw [event?] at shown
  cases level : entry.level <;> simp [level] at shown

-----------------------------------------------------------------------
-- Events of many batches
-----------------------------------------------------------------------

/-- A router that shows lines tells the events of all entries in order, wherever one batch ends and
the next one begins.
-/
theorem flatMap_events_of_lines {α : Type} (lines : router.progress = false)
    (entriesOf : α → List Entry) (batches : List α)
    : (batches.flatMap fun batch => router.events (entriesOf batch))
      = (batches.flatMap entriesOf).filterMap router.event? := by
  simp only [events, lines, Bool.false_eq_true, if_false, List.filterMap_flatMap]

/-- A router that marks batches tells one mark for each batch with entries. Witness: induction on
the batches.
-/
theorem flatMap_events_of_progress {α : Type} (marks : router.progress = true)
    (entriesOf : α → List Entry) (batches : List α)
    : (batches.flatMap fun batch => router.events (entriesOf batch))
      = List.replicate (batches.countP fun batch => !(entriesOf batch).isEmpty) .progress := by
  induction batches with
  | nil => rfl
  | cons batch rest ih =>
      rw [List.flatMap_cons, ih, events, if_pos marks]
      cases empty : (entriesOf batch).isEmpty with
      | true => simp [empty]
      | false => simp [empty, List.replicate_succ]

end Router

end JobWatch.Output
