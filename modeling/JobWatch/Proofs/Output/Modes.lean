import JobWatch.Proofs.Output.Routing
import Mathlib.Data.List.Forall2

/-! The modes of a router side by side, over the same lists of entries. Marks do not hang on any
other option, quiet takes the normal output away and nothing else, and a template changes the lines
and nothing else.
-/

namespace JobWatch.Output

-----------------------------------------------------------------------
-- Channels
-----------------------------------------------------------------------

/-- Where a router may send something. -/
inductive Channel where
  | output
  | warning
  | error
  | progress
  deriving DecidableEq, Repr

/-- The channel for entries by the name of their level. All names but two stand for normal output.
-/
def Channel.ofLabel (label : String) : Channel :=
  if label = "WARN" then .warning else if label = "ERROR" then .error else .output

/-- The channel of an event. -/
def ChannelEvent.channel : ChannelEvent → Channel
  | .output _ => .output
  | .warning _ => .warning
  | .error _ => .error
  | .progress => .progress

/-- The line of an event. A mark has none. -/
def ChannelEvent.line? : ChannelEvent → Option String
  | .output line | .warning line | .error line => some line
  | .progress => none

/-- What a template makes of an entry. Without a template that is its text. -/
def Entry.rendered (template : Option Template) (entry : Entry) : String :=
  (template.map fun template => template.render entry).getD entry.log

namespace Router

/-- All that a router tells that is fed some lists of entries one after the other. -/
def told (router : Router) (batches : List (List Entry)) : List ChannelEvent :=
  batches.flatMap router.events

variable {router : Router}

-----------------------------------------------------------------------
-- Single entries
-----------------------------------------------------------------------

/-- The line of an entry is what the template makes of it, by cases of there being one. -/
theorem line_eq (entry : Entry) : router.line entry = entry.rendered router.template := by
  rw [line, Entry.rendered]
  cases router.template <;> rfl

/-- A router that is not quiet has an event for every entry: what the template makes of it, on the
channel of its level. Witness: cases of the level.
-/
theorem event?_loud (loud : router.quiet = false) (entry : Entry)
    : ∃ event, router.event? entry = some event
        ∧ event.channel = .ofLabel entry.level.label
        ∧ event.line? = some (entry.rendered router.template) := by
  rw [← line_eq]
  cases level : entry.level with
  | warn =>
      have channel : Channel.warning = .ofLabel Level.warn.label := by decide
      exact ⟨.warning (router.line entry), by rw [event?, level], channel, rfl⟩
  | error =>
      have channel : Channel.error = .ofLabel Level.error.label := by decide
      exact ⟨.error (router.line entry), by rw [event?, level], channel, rfl⟩
  | normal | verbose | debug | other =>
      have channel : Channel.output = .ofLabel entry.level.label := by
        rw [level]
        decide
      refine ⟨.output (router.line entry), ?_, level ▸ channel, rfl⟩
      rw [event?, level]
      exact if_neg (Bool.eq_false_iff.mp loud)

/-- Quiet drops the event of an entry if it is normal output, by cases of the level. -/
theorem event?_quiet (progress : Bool) (template : Option Template) (entry : Entry)
    : event? ⟨progress, true, template⟩ entry
      = (event? ⟨progress, false, template⟩ entry).filter (·.channel ≠ .output) := by
  cases level : entry.level <;> simp only [event?, level] <;> rfl

/-- The channel for an entry does not hang on the template, by cases of the level. -/
theorem channel_event? (progress quiet : Bool) (left right : Option Template) (entry : Entry)
    : (event? ⟨progress, quiet, left⟩ entry).map (·.channel)
      = (event? ⟨progress, quiet, right⟩ entry).map (·.channel) := by
  cases level : entry.level <;> cases quiet <;> simp only [event?, level] <;> rfl

-----------------------------------------------------------------------
-- All entries
-----------------------------------------------------------------------

/-- A router that shows lines tells the events of all entries in order. -/
theorem told_of_lines (lines : router.progress = false) (batches : List (List Entry))
    : router.told batches = batches.flatten.filterMap router.event? := by
  rw [told, ← List.flatMap_id']
  exact flatMap_events_of_lines lines (fun batch => batch) batches

/-- A router that marks batches tells one mark for each list with entries. -/
theorem told_of_progress (marks : router.progress = true) (batches : List (List Entry))
    : router.told batches = List.replicate (batches.countP (!·.isEmpty)) .progress :=
  flatMap_events_of_progress marks (fun batch => batch) batches

/-- A router that is not quiet has one event for each entry, in order, by induction on the entries.
-/
theorem filterMap_event?_loud (loud : router.quiet = false) (entries : List Entry)
    : List.Forall₂
        (fun entry event =>
          event.channel = .ofLabel entry.level.label
          ∧ event.line? = some (entry.rendered router.template))
        entries (entries.filterMap router.event?) := by
  induction entries with
  | nil => exact .nil
  | cons entry rest ih =>
      obtain ⟨event, isEvent, told⟩ := event?_loud loud entry
      rw [List.filterMap_cons_some isEvent]
      exact .cons told ih

/-- What the options of a router make of the same lists of entries: one mark for each list with
entries if it marks batches; else one event for each entry, or as many as are no normal output if it
is quiet; and the same channels with any template.
-/
structure ModeLaw (batches : List (List Entry)) : Prop where
  marks : ∀ quiet template,
    told ⟨true, quiet, template⟩ batches
      = List.replicate (batches.countP (!·.isEmpty)) .progress
  lines : ∀ template,
    List.Forall₂
      (fun entry event =>
        event.channel = .ofLabel entry.level.label
        ∧ event.line? = some (entry.rendered template))
      batches.flatten (told ⟨false, false, template⟩ batches)
  quiet : ∀ template,
    told ⟨false, true, template⟩ batches
      = (told ⟨false, false, template⟩ batches).filter (·.channel ≠ .output)
  channels : ∀ progress quiet left right,
    (told ⟨progress, quiet, left⟩ batches).map (·.channel)
      = (told ⟨progress, quiet, right⟩ batches).map (·.channel)

/-- The modes of a router are related in this way over all lists of entries. -/
theorem modes_related (batches : List (List Entry)) : ModeLaw batches where
  marks _ _ := told_of_progress rfl batches
  lines template := by
    have loud : (mk false false template).quiet = false := rfl
    rw [told_of_lines rfl]
    exact filterMap_event?_loud loud batches.flatten
  quiet template := by
    rw [told_of_lines rfl, told_of_lines rfl, List.filter_filterMap]
    exact congrArg (List.filterMap · batches.flatten) (funext (event?_quiet false template))
  channels progress quiet left right := by
    cases progress with
    | true => rw [told_of_progress rfl, told_of_progress rfl]
    | false =>
        rw [told_of_lines rfl, told_of_lines rfl, List.map_filterMap, List.map_filterMap]
        exact congrArg (List.filterMap · batches.flatten)
          (funext (channel_event? false quiet left right))

end Router

end JobWatch.Output
