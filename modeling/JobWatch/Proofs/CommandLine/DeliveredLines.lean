import JobWatch.Proofs.CommandLine.Following
import JobWatch.Proofs.Output.LineFeeds

/-! How many lines the command that follows an output ends on the two streams for what is delivered
to it: one for each event, and one more for each line feed in what is shown of an entry.
-/

namespace JobWatch.CommandLine

-----------------------------------------------------------------------
-- Styled text
-----------------------------------------------------------------------

/-- Turning styles on again adds no line feeds, by induction on the text. -/
theorem count_turnOnAgain (style : Style) (text : List Char)
    : (turnOnAgain style.on text).count '\n' = text.count '\n' := by
  have noFeed : style.on.count '\n' = 0 := by cases style <;> decide
  induction text using turnOnAgain.induct with
  | case1 rest ih => simp [turnOnAgain, noFeed, ih, stylesOff]
  | case2 c rest other ih => rw [turnOnAgain, List.count_cons, List.count_cons, ih]; exact other
  | case3 => rfl

/-- A styled text has the line feeds of the text. -/
theorem Palette.count_paint (palette : Palette) (style : Style) (text : String)
    : (palette.paint style text).toList.count '\n' = text.toList.count '\n' := by
  have noFeed : style.on.count '\n' = 0 := by cases style <;> decide
  have noFeedOff : stylesOff.count '\n' = 0 := by decide
  rw [paint]
  split
  · rw [String.toList_ofList, List.count_append, List.count_append, count_turnOnAgain, noFeed,
      noFeedOff, Nat.zero_add, Nat.add_zero]
  · rfl

-----------------------------------------------------------------------
-- Line ends among effects
-----------------------------------------------------------------------

namespace Effect

/-- How many lines end on the output and on the diagnostics together. -/
def lineEnds (effects : List Effect) : Nat :=
  (output effects).toList.count '\n' + (diagnostics effects).toList.count '\n'

theorem lineEnds_cons (effect : Effect) (effects : List Effect)
    : lineEnds (effect :: effects) = lineEnds [effect] + lineEnds effects := by
  rw [← List.singleton_append, lineEnds, output_append, diagnostics_append, String.toList_append,
    String.toList_append, List.count_append, List.count_append, lineEnds, lineEnds]
  omega

end Effect

namespace FollowOptions

variable {palette : Palette} {connection : Client.Connection} {options : FollowOptions}
  {replies : List Http.Reply} {waits : List Bool}

/-- The event of an entry ends a line behind what is shown of it, by cases of the channel. -/
theorem lineEnds_event {line : Output.Entry} {event : Output.ChannelEvent}
    (told : options.router.event? line = some event)
    : Effect.lineEnds [shown palette event]
      = 1 + (options.router.line line).toList.count '\n' := by
  rcases Output.Router.event?_cases told with rfl | rfl | rfl <;>
    simp [shown, Effect.line, Effect.note, Effect.lineEnds, Effect.output, Effect.diagnostics,
      Palette.count_paint, Nat.add_comm]

/-- The lines that are delivered to a run, one for each line of each entry of its batches. -/
def deliveredLines (connection : Client.Connection) (options : FollowOptions)
    (replies : List Http.Reply) (waits : List Bool) : List Output.Entry :=
  (Poll.receivedBatches batch? replies (options.run connection replies waits)).flatMap
    fun batch => Output.decompact batch.entries

/-- Those of some lines that are shown. -/
def shownLines (options : FollowOptions) (lines : List Output.Entry) : List Output.Entry :=
  lines.filter fun line => (options.router.event? line).isSome

/-- What is put on the streams for the deliveries to a run. -/
def deliveryEffects (palette : Palette) (connection : Client.Connection) (options : FollowOptions)
    (replies : List Http.Reply) (waits : List Bool) : List Effect :=
  Effect.ofSteps (fun query => connection.request? (.output options.id query)) (shown palette)
    (options.run connection replies waits).steps

/-- How many line feeds there are in what is shown of some lines. -/
def feeds (options : FollowOptions) (lines : List Output.Entry) : Nat :=
  (lines.flatMap fun line => (options.router.line line).toList).count '\n'

/-- Each event ends a line, and each line feed in what is shown ends one more, by induction on the
lines.
-/
theorem lineEnds_lines (palette : Palette) (options : FollowOptions) (lines : List Output.Entry)
    : Effect.lineEnds ((lines.filterMap options.router.event?).map (shown palette))
      = (lines.filterMap options.router.event?).length
        + options.feeds (options.shownLines lines) := by
  induction lines with
  | nil => rfl
  | cons line rest ih =>
      unfold shownLines at ih ⊢
      cases told : options.router.event? line with
      | none =>
          rw [List.filterMap_cons_none told, ih, List.filter_cons, told]
          rfl
      | some event =>
          rw [List.filterMap_cons_some told, List.map_cons, Effect.lineEnds_cons, ih,
            lineEnds_event told, List.filter_cons, told, Option.isSome_some, if_pos rfl,
            List.length_cons, feeds, feeds, List.flatMap_cons, List.count_append]
          omega

/-- A run tells the events of the lines that are delivered to it. -/
theorem told_lines (lines : options.router.progress = false)
    : Poll.told (options.run connection replies waits).steps
      = (options.deliveredLines connection replies waits).filterMap options.router.event? := by
  rw [deliveredLines, ← Output.Router.flatMap_events_of_lines lines]
  exact Poll.told_of_replies (run_ran connection options replies waits)
    (outputService_reads connection options.id)

/-- No marks are told of lines, so that no line is left open behind them. -/
theorem report_effects_of_lines (lines : options.router.progress = false)
    : (options.report palette connection replies waits).effects
      = options.deliveryEffects palette connection replies waits
        ++ (ending palette options (options.run connection replies waits).result).effects := by
  have closed : leavesLineOpen (options.run connection replies waits).steps = false := by
    rw [leavesLineOpen_eq, List.contains_eq_mem, decide_eq_false_iff_not]
    intro isTold
    obtain ⟨_, delivered⟩ := Poll.following_told (run_ran connection options replies waits) isTold
    exact Output.Router.events_of_lines lines delivered rfl
  rw [report_effects, closed, deliveryEffects]
  simp

theorem lineEnds_deliveryEffects (lines : options.router.progress = false)
    : Effect.lineEnds (options.deliveryEffects palette connection replies waits)
      = (Poll.told (options.run connection replies waits).steps).length
        + options.feeds (options.shownLines (options.deliveredLines connection replies waits)) := by
  rw [deliveryEffects, Effect.lineEnds, Effect.output_ofSteps, Effect.diagnostics_ofSteps,
    ← Effect.lineEnds, told_lines lines, lineEnds_lines]

/-- The command shows lines, by a template without line feeds of its own or without a template. Then
a line of a decompacted entry is shown with a line feed in it exactly if the template names a part
of its context that has one. The lines that end on the two streams for the deliveries to a run are
one for each event and one for each such line feed, so there are as many lines as events exactly if
there is none in what is shown.
-/
theorem deliveries_end_lines (lines : options.router.progress = false)
    (single : options.router.IsSingle)
    : let told := Poll.told (options.run connection replies waits).steps
      let effects := options.deliveryEffects palette connection replies waits
      let shown := options.shownLines (options.deliveredLines connection replies waits)
      (∀ batch : Output.Batch, ∀ line ∈ Output.decompact batch.entries,
        '\n' ∈ (options.router.line line).toList ↔ options.router.Breaks line)
      ∧ (options.report palette connection replies waits).effects
        = effects ++ (ending palette options (options.run connection replies waits).result).effects
      ∧ Effect.lineEnds effects = told.length + options.feeds shown
      ∧ (Effect.lineEnds effects = told.length ↔ ∀ line ∈ shown, ¬options.router.Breaks line) := by
  intro told effects shown
  have counted : Effect.lineEnds effects = told.length + options.feeds shown :=
    lineEnds_deliveryEffects lines
  refine ⟨fun batch line member => Output.Router.feed_mem_line single member,
    report_effects_of_lines lines, counted, ?_⟩
  have breaks : ∀ line ∈ shown,
      '\n' ∈ (options.router.line line).toList ↔ options.router.Breaks line := by
    intro line isShown
    obtain ⟨batch, -, member⟩ := List.mem_flatMap.mp (List.mem_filter.mp isShown).1
    exact Output.Router.feed_mem_line single member
  rw [counted, Nat.add_eq_left, feeds, List.count_eq_zero, List.mem_flatMap]
  constructor
  · intro none line isShown breaking
    exact none ⟨line, isShown, (breaks line isShown).mpr breaking⟩
  · rintro none ⟨line, isShown, feed⟩
    exact none line isShown ((breaks line isShown).mp feed)

-----------------------------------------------------------------------
-- A node with a line feed
-----------------------------------------------------------------------

/-- A command that shows the node of each entry in front of its text. -/
def nodesFirst : FollowOptions :=
  ⟨"7", .restart, 500, ⟨false, false, some ⟨"[%node] %log"⟩⟩⟩

/-- An output of two entries. There is a line feed in the node of the second one. -/
def brokenNode : List Http.Reply :=
  [.answered 200
    ("\x7b\"completed\":true,\"execCompleted\":true,\"execState\":\"succeeded\",\"entries\":["
      ++ "\x7b\"log\":\"up\",\"node\":\"web-1\"\x7d,"
      ++ "\x7b\"log\":\"failed\",\"node\":\"web-1] done\\n[db-2\"\x7d]\x7d").toUTF8.toList true]

theorem nodesFirst_isSingle : nodesFirst.router.IsSingle := by
  rintro template isTemplate
  obtain rfl := Option.some.inj isTemplate
  unfold Output.Template.IsSingle
  decide

/-- The line feed ends one more line than there are events. -/
theorem line_feed_of_node_is_counted
    : let connection : Client.Connection := ⟨"http://[::1]", none, .none, .offline⟩
      nodesFirst.router.progress = false
      ∧ nodesFirst.router.IsSingle
      ∧ (Poll.told (nodesFirst.run connection brokenNode []).steps).length = 2
      ∧ Effect.lineEnds (nodesFirst.deliveryEffects ⟨true⟩ connection brokenNode []) = 2 + 1 := by
  intro connection
  have ⟨told, feeds⟩ : (Poll.told (nodesFirst.run connection brokenNode []).steps).length = 2
      ∧ nodesFirst.feeds (nodesFirst.shownLines
          (nodesFirst.deliveredLines connection brokenNode [])) = 1 := by
    decide +kernel
  obtain ⟨-, -, counted, -⟩ :=
    @deliveries_end_lines ⟨true⟩ connection nodesFirst brokenNode [] rfl nodesFirst_isSingle
  rw [told, feeds] at counted
  exact ⟨rfl, nodesFirst_isSingle, told, counted⟩

/-- The second entry of the output is one line, but what is shown of it has a line feed in it. Its
end looks like what would be shown of a third entry.
-/
theorem node_forges_line
    : let connection : Client.Connection := ⟨"http://[::1]", none, .none, .offline⟩
      let effects := nodesFirst.deliveryEffects ⟨false⟩ connection brokenNode []
      nodesFirst.router.progress = false
      ∧ nodesFirst.router.IsSingle
      ∧ (∃ line ∈ nodesFirst.deliveredLines connection brokenNode [],
          '\n' ∈ (nodesFirst.router.line line).toList)
      ∧ (Poll.told (nodesFirst.run connection brokenNode []).steps).length = 2
      ∧ Effect.output effects = "[web-1] up\n[web-1] done\n[db-2] failed\n"
      ∧ Effect.diagnostics effects = "" := by
  refine ⟨rfl, nodesFirst_isSingle, ?_⟩
  decide +kernel

end FollowOptions

end JobWatch.CommandLine
