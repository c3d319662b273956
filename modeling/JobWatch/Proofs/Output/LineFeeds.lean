import JobWatch.Proofs.Output.Lines
import JobWatch.Proofs.Output.Templates

/-! Line feeds in what a router shows of an entry. The text of a decompacted entry has none, but a
template may name parts of its context as well, and these are shown as they were sent.
-/

namespace JobWatch.Output

/-- The parts of an entry that are not cut into lines. -/
def Placeholder.context : List Placeholder :=
  [.time, .user, .node, .command]

namespace Template

/-- A placeholder stands somewhere in a template. -/
def Names (template : Template) (placeholder : Placeholder) : Prop :=
  placeholder.mark <:+: template.source.toList

/-- A template without line feeds of its own. -/
def IsSingle (template : Template) : Prop :=
  '\n' ∉ template.source.toList

/-- The placeholders that a template names are those among its pieces. -/
theorem value_mem_pieces {text : List Char} {placeholder : Placeholder}
    : .value placeholder ∈ pieces text ↔ placeholder.mark <:+: text := by
  constructor
  · intro member
    obtain ⟨front, back, parts⟩ := List.mem_iff_append.mp member
    refine ⟨front.flatMap Piece.source, back.flatMap Piece.source, ?_⟩
    have whole := pieces_source text
    rw [parts, List.flatMap_append, List.flatMap_cons, ← List.append_assoc] at whole
    exact whole
  · rintro ⟨front, back, rfl⟩
    have cut : pieces (front ++ (placeholder.mark ++ back))
        = pieces front ++ pieces (placeholder.mark ++ back) :=
      pieces_append (not_straddles_percent _ _)
    rw [List.append_assoc, cut, pieces_mark]
    exact List.mem_append_right _ List.mem_cons_self

/-- The plain pieces of a text are among its characters. -/
theorem mem_of_literal {text : List Char} {c : Char} (member : .literal c ∈ pieces text)
    : c ∈ text := by
  rw [← pieces_source text]
  exact List.mem_flatMap.mpr ⟨_, member, List.mem_singleton.mpr rfl⟩

/-- A template without line feeds shows one exactly where it names a part that has one. -/
theorem feed_mem_render {template : Template} (single : template.IsSingle) (entry : Entry)
    : '\n' ∈ (template.render entry).toList
      ↔ ∃ placeholder, template.Names placeholder ∧ '\n' ∈ (placeholder.value entry).toList := by
  rw [render_toList, rendered, List.mem_flatMap]
  constructor
  · rintro ⟨piece, member, feed⟩
    cases piece with
    | literal c =>
        obtain rfl := List.mem_singleton.mp feed
        exact absurd (mem_of_literal member) single
    | value placeholder => exact ⟨placeholder, value_mem_pieces.mp member, feed⟩
  · rintro ⟨placeholder, names, feed⟩
    exact ⟨.value placeholder, value_mem_pieces.mpr names, feed⟩

end Template

theorem Level.no_feed_in_label (level : Level) : '\n' ∉ level.label.toList := by
  cases level <;> decide

/-- A decompacted entry has line feeds in its context only. -/
theorem Placeholder.mem_context {entries : List Entry} {line : Entry}
    (member : line ∈ decompact entries) {placeholder : Placeholder}
    (feed : '\n' ∈ (placeholder.value line).toList)
    : placeholder ∈ context := by
  cases placeholder with
  | time | user | node | command => decide
  | level => exact absurd feed line.level.no_feed_in_label
  | log =>
      obtain ⟨entry, -, isLine⟩ := List.mem_flatMap.mp member
      exact absurd feed (entry.lines_isBlock.single line isLine)

namespace Router

/-- The event of an entry has its line, by cases of its level. -/
theorem event?_cases {router : Router} {line : Entry} {event : ChannelEvent}
    (told : router.event? line = some event)
    : event = .output (router.line line)
      ∨ event = .warning (router.line line)
      ∨ event = .error (router.line line) := by
  rw [event?] at told
  split at told
  case h_1 => exact .inr (.inl (Option.some.inj told).symm)
  case h_2 => exact .inr (.inr (Option.some.inj told).symm)
  all_goals
    split at told
    · cases told
    · exact .inl (Option.some.inj told).symm

/-- A router without a template, or with one that has no line feeds of its own. -/
def IsSingle (router : Router) : Prop :=
  ∀ template ∈ router.template, template.IsSingle

/-- The template of a router names a part of the context of an entry that has a line feed. -/
def Breaks (router : Router) (line : Entry) : Prop :=
  ∃ template ∈ router.template, ∃ placeholder ∈ Placeholder.context,
    template.Names placeholder ∧ '\n' ∈ (placeholder.value line).toList

/-- A line that is shown of a decompacted entry has a line feed in it exactly if the template breaks
it, by cases of the template.
-/
theorem feed_mem_line {router : Router} (single : router.IsSingle) {entries : List Entry}
    {line : Entry} (member : line ∈ decompact entries)
    : '\n' ∈ (router.line line).toList ↔ router.Breaks line := by
  rw [Router.line, Breaks]
  cases isTemplate : router.template with
  | none =>
      obtain ⟨entry, -, isLine⟩ := List.mem_flatMap.mp member
      exact iff_of_false (entry.lines_isBlock.single line isLine) nofun
  | some template =>
      have shown := Template.feed_mem_render (single template isTemplate) line
      constructor
      · intro feed
        obtain ⟨placeholder, names, feed⟩ := shown.mp feed
        exact ⟨template, rfl, placeholder, Placeholder.mem_context member feed, names, feed⟩
      · rintro ⟨named, isNamed, placeholder, -, names, feed⟩
        obtain rfl := Option.some.inj isNamed
        exact shown.mpr ⟨placeholder, names, feed⟩

end Router

end JobWatch.Output
