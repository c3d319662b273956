import JobWatch.Proofs.Output.Lines

/-! A server merges consecutive lines of one context into an entry. It may end the lines with or
without carriage returns, and may put more line ends behind the last one: decompaction gives back
the lines that were merged, and every entry is merged of the lines it is decompacted to.
-/

namespace JobWatch.Output

namespace Lines

-----------------------------------------------------------------------
-- Lines in a text
-----------------------------------------------------------------------

/-- A text with lines in it: any number of carriage returns and a line feed end each line but the
last one, and behind that one carriage returns and line feeds may stand in any order.
-/
inductive Written : List (List Char) → List Char → Prop
  | last (line ending : List Char) (ends : ∀ c ∈ ending, c = '\r' ∨ c = '\n')
    : Written [line] (line ++ ending)
  | next (line : List Char) (returns : Nat) {lines : List (List Char)} {text : List Char}
    (written : Written lines text)
    : Written (line :: lines) (line ++ (List.replicate returns '\r' ++ '\n' :: text))

/-- Lines that can be told apart when they are merged: none has a line feed in it or a carriage
return at its end, and if there are several the last one is not empty.
-/
structure AreMergeable (lines : List (List Char)) : Prop where
  single : AreSingle lines
  settled : ∀ line ∈ lines, line.getLast? ≠ some '\r'
  last : 1 < lines.length → lines.getLast? ≠ some []

/-- Carriage returns behind a line are dropped. -/
theorem dropReturns_append {line returns : List Char} (settled : line.getLast? ≠ some '\r')
    (all : ∀ c ∈ returns, c = '\r')
    : dropReturns (line ++ returns) = line := by
  refine Text.dropTrailing_append (fun c member => beq_iff_eq.mpr (all c member)) ?_
  intro c isLast
  refine beq_eq_false_iff_ne.mpr ?_
  rintro rfl
  exact settled isLast

/-- There is no line feed in a line and the carriage returns behind it. -/
theorem no_feed_in_line {line returns : List Char} (single : '\n' ∉ line)
    (all : ∀ c ∈ returns, c = '\r')
    : ∀ c ∈ line ++ returns, (c == '\n') = false := by
  intro c member
  refine beq_eq_false_iff_ne.mpr ?_
  rintro rfl
  rcases List.mem_append.mp member with inLine | isReturn
  · exact single inLine
  · exact absurd (all _ isReturn) (by decide)

/-- A line and its end are taken off the front of a text. -/
theorem settledLines_append {line returns : List Char} (single : '\n' ∉ line)
    (settled : line.getLast? ≠ some '\r') (all : ∀ c ∈ returns, c = '\r') (text : List Char)
    : settledLines (line ++ (returns ++ '\n' :: text)) = line :: settledLines text := by
  rw [settledLines, ← List.append_assoc, Text.split_append (no_feed_in_line single all) rfl,
    List.map_cons, dropReturns_append settled all, settledLines]

/-- There are only empty lines in line ends. -/
theorem settledLines_ending {ending : List Char} (ends : ∀ c ∈ ending, c = '\r' ∨ c = '\n')
    : ∀ line ∈ settledLines ending, line = [] := by
  intro line member
  obtain ⟨part, isPart, rfl⟩ := List.mem_map.mp member
  have returns : ∀ c ∈ part, c = '\r' := by
    intro c inside
    have noFeed := Text.split_whole isPart c inside
    have inEnding : c ∈ ending := by
      have inParts := List.mem_flatten.mpr ⟨part, isPart, inside⟩
      rw [Text.flatten_split] at inParts
      exact (List.mem_filter.mp inParts).1
    exact (ends c inEnding).resolve_right (beq_eq_false_iff_ne.mp noFeed)
  have settled : ([] : List Char).getLast? ≠ some '\r' := nofun
  exact dropReturns_append settled returns

/-- Behind the last line a text has only empty lines, by cases of a line feed in what ends it. -/
theorem settledLines_last {line ending : List Char} (single : '\n' ∉ line)
    (settled : line.getLast? ≠ some '\r') (ends : ∀ c ∈ ending, c = '\r' ∨ c = '\n')
    : ∃ dropped, settledLines (line ++ ending) = line :: dropped ∧ ∀ more ∈ dropped, more = [] := by
  by_cases feed : ∃ c ∈ ending, (c != '\n') = false
  · obtain ⟨front, first, rest, rfl, noFeeds, isFeed⟩ := Text.exists_stop feed
    obtain rfl : first = '\n' := by simpa using isFeed
    have returns : ∀ c ∈ front, c = '\r' := fun c member =>
      (ends c (List.mem_append_left _ member)).resolve_right (bne_iff_ne.mp (noFeeds c member))
    have behind : ∀ c ∈ rest, c = '\r' ∨ c = '\n' := fun c member =>
      ends c (List.mem_append_right _ (List.mem_cons_of_mem _ member))
    exact ⟨settledLines rest, settledLines_append single settled returns rest,
      settledLines_ending behind⟩
  · have returns : ∀ c ∈ ending, c = '\r' := by
      intro c member
      refine (ends c member).resolve_right ?_
      rintro rfl
      exact feed ⟨'\n', member, rfl⟩
    refine ⟨[], ?_, List.forall_mem_nil _⟩
    rw [settledLines, Text.split_of_none (no_feed_in_line single returns), List.map_singleton,
      dropReturns_append settled returns]

/-- The lines of a text are those that it was written with, and empty ones behind them, by induction
on the lines.
-/
theorem Written.settledLines_eq {lines : List (List Char)} {text : List Char}
    (written : Written lines text) (single : AreSingle lines)
    (settled : ∀ line ∈ lines, line.getLast? ≠ some '\r')
    : ∃ dropped, settledLines text = lines ++ dropped ∧ ∀ line ∈ dropped, line = [] := by
  induction written with
  | last line ending ends =>
      obtain ⟨lineSingle, -⟩ := List.forall_mem_cons.mp single
      obtain ⟨lineSettled, -⟩ := List.forall_mem_cons.mp settled
      exact settledLines_last lineSingle lineSettled ends
  | next line returns written ih =>
      obtain ⟨firstSingle, restSingle⟩ := List.forall_mem_cons.mp single
      obtain ⟨firstSettled, restSettled⟩ := List.forall_mem_cons.mp settled
      obtain ⟨dropped, others, empty⟩ := ih restSingle restSettled
      refine ⟨dropped, ?_, empty⟩
      rw [settledLines_append firstSingle firstSettled (fun c => List.eq_of_mem_replicate), others,
        List.cons_append]

theorem Written.ne_nil {lines : List (List Char)} {text : List Char} (written : Written lines text)
    : lines ≠ [] := by
  cases written <;> exact List.cons_ne_nil _ _

/-- A text with mergeable lines in it is cut into these lines. -/
theorem Written.ofText_eq {lines : List (List Char)} {text : List Char}
    (written : Written lines text) (mergeable : AreMergeable lines)
    : ofText text = lines := by
  obtain ⟨dropped, cut, empty⟩ := written.settledLines_eq mergeable.single mergeable.settled
  have drops : ∀ line ∈ dropped, line.isEmpty := fun line member =>
    List.isEmpty_iff.mpr (empty line member)
  rw [ofText, ← settledLines, cut]
  by_cases visible : lines.getLast? = some []
  · -- the only line is empty, and nothing is left of the text
    obtain rfl : lines = [[]] := by
      have one : lines.length ≤ 1 := Nat.not_lt.mp fun more => mergeable.last more visible
      obtain ⟨line, rfl⟩ := List.length_eq_one_iff.mp
        (Nat.le_antisymm one (List.length_pos_iff.mpr written.ne_nil))
      rwa [List.getLast?_singleton, Option.some_inj, ← List.singleton_inj] at visible
    have nothing : Text.dropTrailing List.isEmpty ([[]] ++ dropped) = [] := by
      have all : ∀ line ∈ [] :: dropped, line.isEmpty := List.forall_mem_cons.mpr ⟨rfl, drops⟩
      have keeps : ∀ line ∈ ([] : List (List Char)).getLast?, line.isEmpty = false := by simp
      exact Text.dropTrailing_append all keeps
    rw [nothing]
  · have keeps : ∀ line ∈ lines.getLast?, line.isEmpty = false := by
      intro line isLast
      refine Bool.eq_false_iff.mpr fun isEmpty => visible ?_
      rw [← List.isEmpty_iff.mp isEmpty]
      exact isLast
    rw [Text.dropTrailing_append drops keeps]
    split
    · exact absurd rfl written.ne_nil
    · rfl

-----------------------------------------------------------------------
-- The lines that every text is written with
-----------------------------------------------------------------------

/-- Joined lines are written with line feeds alone, by induction on the lines behind the first. -/
theorem written_join {lines : List (List Char)} (some : lines ≠ [])
    : Written lines (join lines) := by
  cases lines with
  | nil => exact absurd rfl some
  | cons line rest =>
      clear some
      rw [join_cons]
      induction rest generalizing line with
      | nil => exact .last line [] (List.forall_mem_nil _)
      | cons next rest ih => exact .next line 0 (ih next)

/-- A text is its parts between the line feeds, joined. -/
theorem join_split (text : List Char) : join (Text.split (· == '\n') text) = text := by
  induction text with
  | nil => rfl
  | cons c rest ih =>
      rw [Text.split]
      cases parts : Text.split (· == '\n') rest with
      | nil => exact absurd parts (Text.split_ne_nil _ _)
      | cons first others =>
          rw [parts, join_cons] at ih
          by_cases feed : c = '\n'
          · simp [feed, join_cons, ih]
          · simp [feed, join_cons, ih]

/-- Carriage returns at the ends of lines may be seen as part of what ends them, by induction on the
lines.
-/
theorem Written.settle {lines : List (List Char)} {text : List Char} (written : Written lines text)
    : Written (lines.map dropReturns) text := by
  have parts (line : List Char)
      : ∃ returns, line = dropReturns line ++ List.replicate returns '\r' := by
    obtain ⟨dropped, whole, all⟩ := Text.dropTrailing_dropped (· == '\r') line
    have same : dropped = List.replicate dropped.length '\r' :=
      List.eq_replicate_length.mpr fun c member => beq_iff_eq.mp (all c member)
    exact ⟨dropped.length, same ▸ whole⟩
  induction written with
  | last line ending ends =>
      obtain ⟨returns, whole⟩ := parts line
      have settled : ∀ c ∈ List.replicate returns '\r' ++ ending, c = '\r' ∨ c = '\n' :=
        List.forall_mem_append.mpr ⟨fun c member => .inl (List.eq_of_mem_replicate member), ends⟩
      have last := Written.last (dropReturns line) _ settled
      rwa [← List.append_assoc, ← whole] at last
  | @next line more lines text _ ih =>
      obtain ⟨returns, whole⟩ := parts line
      have next := Written.next (dropReturns line) (returns + more) ih
      rwa [List.replicate_add, List.append_assoc, ← List.append_assoc, ← whole] at next

/-- An empty line at the end may be seen as part of what ends the one before it, by induction on the
lines in front of it.
-/
theorem Written.drop_last {lines : List (List Char)} {text : List Char} (some : lines ≠ [])
    (written : Written (lines ++ [[]]) text)
    : Written lines text := by
  induction lines generalizing text with
  | nil => exact absurd rfl some
  | cons line rest ih =>
      cases rest with
      | nil =>
          obtain _ | ⟨-, returns, written⟩ := written
          obtain ⟨-, ending, ends⟩ | ⟨-, -, nothing⟩ := written
          · have isReturn : ∀ c ∈ List.replicate returns '\r', c = '\r' ∨ c = '\n' :=
              fun c member => .inl (List.eq_of_mem_replicate member)
            have feedAndMore := List.forall_mem_cons.mpr ⟨.inr rfl, ends⟩
            exact .last line _ (List.forall_mem_append.mpr ⟨isReturn, feedAndMore⟩)
          · exact absurd rfl nothing.ne_nil
      | cons next rest =>
          obtain _ | ⟨-, returns, written⟩ := written
          exact .next line returns (ih (List.cons_ne_nil _ _) written)

/-- All empty lines at the end may be seen as part of what ends the one before them, by induction on
the lines from the last one.
-/
theorem Written.dropTrailing {lines : List (List Char)} {text : List Char}
    (written : Written lines text)
    : Text.dropTrailing List.isEmpty lines = [] ∧ Written [[]] text
      ∨ Written (Text.dropTrailing List.isEmpty lines) text := by
  induction lines using List.reverseRecOn with
  | nil => exact absurd rfl written.ne_nil
  | append_singleton front last ih =>
      cases last with
      | cons c others =>
          have kept : Text.dropTrailing List.isEmpty (front ++ [c :: others])
              = front ++ [c :: others] :=
            List.rdropWhile_concat_neg _ _ _ Bool.false_ne_true
          rw [kept]
          exact .inr written
      | nil =>
          have dropped : Text.dropTrailing List.isEmpty (front ++ [[]])
              = Text.dropTrailing List.isEmpty front :=
            List.rdropWhile_concat_pos _ _ _ rfl
          rw [dropped]
          cases front with
          | nil => exact .inl ⟨rfl, written⟩
          | cons line rest => exact ih (written.drop_last (List.cons_ne_nil _ _))

/-- Every text is written with the lines that it is cut into. -/
theorem written_ofText (text : List Char) : Written (ofText text) text := by
  have parts : Written (settledLines text) text := by
    have joined := (written_join (Text.split_ne_nil (· == '\n') text)).settle
    rwa [join_split] at joined
  rcases parts.dropTrailing with ⟨nothing, empty⟩ | some
  · rcases ofText_eq text with ⟨-, one⟩ | rest
    · rwa [one]
    · exact absurd (rest.trans nothing) (ofText_ne_nil text)
  · rcases ofText_eq text with ⟨nothing, -⟩ | rest
    · exact absurd nothing some.ne_nil
    · rwa [rest]

end Lines

-----------------------------------------------------------------------
-- Merged entries
-----------------------------------------------------------------------

/-- An entry of a single line. -/
structure Entry.IsLine (entry : Entry) : Prop where
  single : '\n' ∉ entry.log.toList
  settled : entry.log.toList.getLast? ≠ some '\r'

/-- Lines that may be merged into an entry: there are some, they have the same time, level, user,
command and node, and if there are several the last one is not empty.
-/
structure IsGroup (group : List Entry) : Prop where
  nonempty : group ≠ []
  context : ∀ line ∈ group, ∀ other ∈ group, line = other.withLog line.log
  last : 1 < group.length → ∀ line ∈ group.getLast?, line.log ≠ ""

/-- An entry that a group of lines is merged into: it has their context, and a text with the lines
in it.
-/
structure Merges (group : List Entry) (entry : Entry) : Prop where
  context : ∀ line ∈ group, line = entry.withLog line.log
  written : Lines.Written (group.map (·.log.toList)) entry.log.toList

/-- The entry that a group of lines is merged into with line feeds alone. -/
def joinedEntry? : List Entry → Option Entry
  | [] => none
  | first :: rest =>
    some (first.withLog (String.ofList (Lines.join ((first :: rest).map (·.log.toList)))))

theorem IsGroup.mergeable {group : List Entry} (isGroup : IsGroup group)
    (areLines : ∀ line ∈ group, line.IsLine)
    : Lines.AreMergeable (group.map (·.log.toList)) where
  single := List.forall_mem_map.mpr fun line member => (areLines line member).single
  settled := List.forall_mem_map.mpr fun line member => (areLines line member).settled
  last := by
    intro more isLast
    rw [List.length_map] at more
    rw [List.getLast?_map, Option.map_eq_some_iff] at isLast
    obtain ⟨line, isLast, empty⟩ := isLast
    exact isGroup.last more line isLast (String.toList_inj.mp empty)

/-- A group of lines is the block of an entry that it is merged into. -/
theorem Merges.isBlock {group : List Entry} {entry : Entry} (merges : Merges group entry)
    (isGroup : IsGroup group) (areLines : ∀ line ∈ group, line.IsLine)
    : IsBlockOf entry group := by
  have cut := merges.written.ofText_eq (isGroup.mergeable areLines)
  have kept {α : Type} {field : Entry → α}
      (keeps : ∀ text, field (entry.withLog text) = field entry)
      : ∀ line ∈ group, field line = field entry := by
    intro line member
    rw [merges.context line member]
    exact keeps _
  constructor
  case nonempty => exact isGroup.nonempty
  case time => exact kept fun _ => rfl
  case level => exact kept fun _ => rfl
  case user => exact kept fun _ => rfl
  case command => exact kept fun _ => rfl
  case node => exact kept fun _ => rfl
  case single => exact fun line member => (areLines line member).single
  case settled => exact fun line member => (areLines line member).settled
  case joined => rw [← cut, Lines.join_ofText]
  case last => exact isGroup.last
  case length =>
    have counted := Lines.count_join (Lines.ofText_ne_nil _) (Lines.ofText_single entry.log.toList)
    rwa [Lines.join_ofText, cut, List.length_map] at counted

/-- An entry is merged of its lines. -/
theorem Entry.merges_lines (entry : Entry) : Merges entry.lines entry where
  context := by
    intro line member
    obtain ⟨text, -, rfl⟩ := List.mem_map.mp member
    rfl
  written := by
    rw [entry.logs_lines]
    exact Lines.written_ofText _

theorem Entry.isGroup_lines (entry : Entry) : IsGroup entry.lines where
  nonempty := entry.lines_isBlock.nonempty
  context := by
    intro line member other isOther
    obtain ⟨text, -, rfl⟩ := List.mem_map.mp member
    obtain ⟨otherText, -, rfl⟩ := List.mem_map.mp isOther
    rfl
  last := entry.lines_isBlock.last

/-- A group can be merged with line feeds alone, into an entry with the context of its first line.
-/
theorem IsGroup.merges_joined {group : List Entry} (isGroup : IsGroup group)
    : ∃ entry, joinedEntry? group = some entry ∧ Merges group entry := by
  cases group with
  | nil => exact absurd rfl isGroup.nonempty
  | cons first rest =>
      refine ⟨_, rfl, fun line member => isGroup.context line member first List.mem_cons_self, ?_⟩
      change Lines.Written _ (String.ofList _).toList
      rw [String.toList_ofList]
      exact Lines.written_join (List.cons_ne_nil _ _)

/-- All groups can be merged so, by induction on them. -/
theorem merges_joinedEntries {groups : List (List Entry)}
    (areGroups : ∀ group ∈ groups, IsGroup group)
    : List.Forall₂ Merges groups (groups.filterMap joinedEntry?) := by
  induction groups with
  | nil => exact .nil
  | cons group rest ih =>
      obtain ⟨isGroup, others⟩ := List.forall_mem_cons.mp areGroups
      obtain ⟨entry, joined, merges⟩ := isGroup.merges_joined
      rw [List.filterMap_cons_some joined]
      exact .cons merges (ih others)

/-- Decompaction gives back the lines of all groups, by induction on the entries for them. -/
theorem decompact_merged {groups : List (List Entry)} {merged : List Entry}
    (merges : List.Forall₂ Merges groups merged) (areGroups : ∀ group ∈ groups, IsGroup group)
    (areLines : ∀ line ∈ groups.flatten, line.IsLine)
    : decompact merged = groups.flatten := by
  induction merges with
  | nil => rfl
  | @cons group entry groups merged merges _ ih =>
      rw [List.flatten_cons] at areLines ⊢
      obtain ⟨firstLines, restLines⟩ := List.forall_mem_append.mp areLines
      obtain ⟨isGroup, others⟩ := List.forall_mem_cons.mp areGroups
      rw [decompact, List.flatMap_cons, ← (merges.isBlock isGroup firstLines).eq_lines]
      exact congrArg (group ++ ·) (ih others restLines)

/-- The entries that are decompacted to given lines are those that the lines may be merged into: the
lines are cut into groups, and one entry stands for each group in its place, whatever line ends its
text has. However they are cut, the lines of the groups may be joined with line feeds alone.
-/
theorem decompaction_undoes_merging {lines : List Entry} (areLines : ∀ line ∈ lines, line.IsLine)
    : (∀ merged, decompact merged = lines
        ↔ ∃ groups : List (List Entry), groups.flatten = lines
            ∧ (∀ group ∈ groups, IsGroup group)
            ∧ List.Forall₂ Merges groups merged)
      ∧ ∀ groups : List (List Entry), groups.flatten = lines → (∀ group ∈ groups, IsGroup group)
        → decompact (groups.filterMap joinedEntry?) = lines := by
  refine ⟨fun merged => ⟨?_, ?_⟩, ?_⟩
  · rintro rfl
    refine ⟨merged.map Entry.lines, List.flatMap_def.symm, ?_, ?_⟩
    · exact List.forall_mem_map.mpr fun entry _ => entry.isGroup_lines
    · exact List.forall₂_map_left_iff.mpr (List.forall₂_same.mpr fun entry _ => entry.merges_lines)
  · rintro ⟨groups, rfl, areGroups, merges⟩
    exact decompact_merged merges areGroups areLines
  · rintro groups rfl areGroups
    exact decompact_merged (merges_joinedEntries areGroups) areGroups areLines

/-- A line of a web server's output. -/
def webLine (log : String) : Entry :=
  ⟨some "12:00:00", .normal, log, none, some "1-step", some "web-1"⟩

/-- Three lines, an empty one among them, are merged with line ends of several kinds, and a line of
its own stands behind them.
-/
theorem mixed_line_ends_are_undone
    : (∀ line ∈ [webLine "a", webLine "", webLine "b", webLine "c"], line.IsLine)
      ∧ decompact [webLine "a\r\r\n\nb\r\n\n\r", webLine "c\r"]
        = [webLine "a", webLine "", webLine "b", webLine "c"] := by
  have areLines : ∀ line ∈ [webLine "a", webLine "", webLine "b", webLine "c"], line.IsLine := by
    simp only [List.forall_mem_cons, List.not_mem_nil, false_implies, implies_true, and_true]
    refine ⟨⟨?_, ?_⟩, ⟨?_, ?_⟩, ⟨?_, ?_⟩, ⟨?_, ?_⟩⟩ <;> decide
  have first : Merges [webLine "a", webLine "", webLine "b"] (webLine "a\r\r\n\nb\r\n\n\r") := by
    refine ⟨by decide, .next ['a'] 2 (.next [] 0 (.last ['b'] ['\r', '\n', '\n', '\r'] ?_))⟩
    simp
  have second : Merges [webLine "c"] (webLine "c\r") :=
    ⟨by decide, .last ['c'] ['\r'] (by simp)⟩
  refine ⟨areLines, ((decompaction_undoes_merging areLines).1 _).mpr ?_⟩
  refine ⟨[[webLine "a", webLine "", webLine "b"], [webLine "c"]], rfl, ?_, ?_⟩
  · simp only [List.forall_mem_cons, List.not_mem_nil, false_implies, implies_true, and_true]
    refine ⟨⟨by decide, by decide, by decide⟩, ⟨by decide, by decide, by decide⟩⟩
  · exact .cons first (.cons second .nil)

end JobWatch.Output
