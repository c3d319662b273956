import JobWatch.Proofs.Output.Routing
import JobWatch.Proofs.Text.Cutting
import Mathlib.Data.List.Forall2

/-! The lines of an entry, told by its text: joined again they are the text without the carriage
returns at the ends of its lines and without the line feeds at its own end, and nothing else is
lost, added or put elsewhere.
-/

namespace JobWatch.Output

namespace Lines

-----------------------------------------------------------------------
-- Settled texts
-----------------------------------------------------------------------

/-- Nothing but carriage returns stands in front of the next line feed, or of the end. -/
def endsLine (text : List Char) : Bool :=
  match text.dropWhile (· == '\r') with
  | [] => true
  | c :: _ => c == '\n'

/-- A text without its runs of carriage returns in front of a line feed or of the end. -/
def settle : List Char → List Char
  | [] => []
  | c :: rest => if c = '\r' ∧ endsLine rest then settle rest else c :: settle rest

/-- A settled text without the line feeds at its end. -/
def normalize (text : List Char) : List Char :=
  Text.dropTrailing (· == '\n') (settle text)

/-- Lines with a line feed between any two of them. -/
def join (lines : List (List Char)) : List Char :=
  ['\n'].intercalate lines

/-- Lines without line feeds in them. -/
def AreSingle (lines : List (List Char)) : Prop :=
  ∀ line ∈ lines, '\n' ∉ line

/-- Behind the first line every other one stands behind a line feed. -/
theorem join_cons (line : List Char) (rest : List (List Char))
    : join (line :: rest) = line ++ rest.flatMap ('\n' :: ·) := by
  induction rest generalizing line with
  | nil => rw [join, List.intercalate_singleton, List.flatMap_nil, List.append_nil]
  | cons next rest ih =>
      have behind := ih next
      rw [join] at behind ⊢
      rw [List.intercalate_cons_cons, behind, List.flatMap_cons, List.append_assoc]
      rfl

theorem join_concat {lines : List (List Char)} (some : lines ≠ []) (last : List Char)
    : join (lines ++ [last]) = join lines ++ '\n' :: last := by
  cases lines with
  | nil => exact absurd rfl some
  | cons line rest => simp [join_cons]

/-- Joined lines are cut into these lines again. -/
theorem split_join {lines : List (List Char)} (some : lines ≠ []) (single : AreSingle lines)
    : Text.split (· == '\n') (join lines) = lines := by
  cases lines with
  | nil => exact absurd rfl some
  | cons line rest =>
      rw [join_cons]
      refine Text.split_joined '\n' rfl fun part member c inside => beq_eq_false_iff_ne.mpr ?_
      rintro rfl
      exact single part member inside

/-- There is one more line than there are line feeds between lines. -/
theorem count_join {lines : List (List Char)} (some : lines ≠ []) (single : AreSingle lines)
    : lines.length = (join lines).count '\n' + 1 := by
  cases lines with
  | nil => exact absurd rfl some
  | cons line rest =>
      obtain ⟨first, others⟩ := List.forall_mem_cons.mp single
      have between : (rest.flatMap ('\n' :: ·)).count '\n' = rest.length := by
        clear some single
        induction rest with
        | nil => rfl
        | cons next rest ih =>
            obtain ⟨nextSingle, others⟩ := List.forall_mem_cons.mp others
            rw [List.flatMap_cons, List.count_append, List.count_cons_self, ih others,
              List.count_eq_zero.mpr nextSingle, List.length_cons]
            omega
      rw [join_cons, List.count_append, List.count_eq_zero.mpr first, between, List.length_cons]
      omega

/-- Without the line feeds at their end joined lines lack their empty last lines, by induction on
the lines from the last one.
-/
theorem dropTrailing_join {lines : List (List Char)} (single : AreSingle lines)
    : Text.dropTrailing (· == '\n') (join lines)
      = join (Text.dropTrailing List.isEmpty lines) := by
  induction lines using List.reverseRecOn with
  | nil => rfl
  | append_singleton front last ih =>
      obtain ⟨frontSingle, lastSingle⟩ := List.forall_mem_append.mp single
      have noFeed := List.forall_mem_singleton.mp lastSingle
      cases last with
      | nil =>
          have dropped : Text.dropTrailing List.isEmpty (front ++ [[]])
              = Text.dropTrailing List.isEmpty front :=
            List.rdropWhile_concat_pos _ _ _ rfl
          rw [dropped, ← ih frontSingle]
          cases front with
          | nil => rfl
          | cons line rest =>
              rw [join_concat (List.cons_ne_nil line rest)]
              exact List.rdropWhile_concat_pos _ _ _ rfl
      | cons c others =>
          have kept : Text.dropTrailing List.isEmpty (front ++ [c :: others])
              = front ++ [c :: others] :=
            List.rdropWhile_concat_neg _ _ _ Bool.false_ne_true
          rw [kept]
          refine Text.dropTrailing_eq_self fun last isLast => ?_
          have inLast : last ∈ c :: others := by
            cases front with
            | nil =>
                rw [List.nil_append, join, List.intercalate_singleton] at isLast
                exact List.mem_of_mem_getLast? isLast
            | cons line rest =>
                rw [join_concat (List.cons_ne_nil line rest), List.append_cons] at isLast
                exact Text.mem_getLast?_append (List.cons_ne_nil c others) isLast
          refine beq_eq_false_iff_ne.mpr ?_
          rintro rfl
          exact noFeed inLast

-----------------------------------------------------------------------
-- The lines of a text
-----------------------------------------------------------------------

/-- All lines of a text, without the carriage returns at their ends. -/
def settledLines (text : List Char) : List (List Char) :=
  (Text.split (· == '\n') text).map dropReturns

theorem settledLines_ne_nil (text : List Char) : settledLines text ≠ [] := by
  simpa [settledLines] using Text.split_ne_nil (· == '\n') text

theorem settledLines_single (text : List Char) : AreSingle (settledLines text) := by
  intro line member feed
  obtain ⟨part, isPart, rfl⟩ := List.mem_map.mp member
  have inPart : '\n' ∈ part := (List.rdropWhile_prefix _ _).sublist.mem feed
  exact absurd (Text.split_whole isPart '\n' inPart) (by decide)

theorem dropReturns_cons (c : Char) (line : List Char)
    : dropReturns (c :: line)
      = if c = '\r' ∧ dropReturns line = [] then [] else c :: dropReturns line := by
  rw [dropReturns, dropReturns, Text.dropTrailing, Text.dropTrailing, List.reverse_cons,
    List.dropWhile_append]
  cases ended : line.reverse.dropWhile (· == '\r') with
  | nil => by_cases isReturn : c = '\r' <;> simp [isReturn]
  | cons last others => simp

/-- A line has ended where only carriage returns are left of it. -/
theorem endsLine_iff {text part : List Char} {parts : List (List Char)}
    (cut : Text.split (· == '\n') text = part :: parts)
    : endsLine text ↔ dropReturns part = [] := by
  induction text generalizing part parts with
  | nil =>
      obtain ⟨rfl, -⟩ := List.cons.inj cut
      exact iff_of_true rfl rfl
  | cons c rest ih =>
      rw [Text.split] at cut
      split at cut
      case isTrue feed =>
        obtain ⟨rfl, -⟩ := List.cons.inj cut
        obtain rfl := eq_of_beq feed
        exact iff_of_true rfl rfl
      case isFalse noFeed =>
        cases behind : Text.split (· == '\n') rest with
        | nil => exact absurd behind (Text.split_ne_nil _ _)
        | cons first others =>
            rw [behind] at cut
            obtain ⟨rfl, -⟩ := List.cons.inj cut
            rw [dropReturns_cons]
            by_cases isReturn : c = '\r'
            · subst isReturn
              have same : endsLine ('\r' :: rest) = endsLine rest := rfl
              rw [same, ih behind]
              simp
            · simp_all [endsLine]

/-- A settled text is its lines, joined again. -/
theorem settle_eq (text : List Char) : settle text = join (settledLines text) := by
  induction text with
  | nil => rfl
  | cons c rest ih =>
      rw [settledLines] at ih ⊢
      rw [settle, Text.split]
      cases behind : Text.split (· == '\n') rest with
      | nil => exact absurd behind (Text.split_ne_nil _ _)
      | cons first others =>
          rw [behind, List.map_cons, join_cons] at ih
          simp only [endsLine_iff behind, ih]
          by_cases feed : c = '\n'
          · subst feed
            simp [join_cons, dropReturns, Text.dropTrailing]
          · by_cases ended : c = '\r' ∧ dropReturns first = []
            · obtain ⟨rfl, empty⟩ := ended
              simp [join_cons, dropReturns_cons, empty]
            · have stays : dropReturns (c :: first) = c :: dropReturns first := by
                rw [dropReturns_cons, if_neg ended]
              simp [join_cons, feed, ended, stays]

/-- The lines of a text are all its lines but for the empty ones at its end, or an empty line. -/
theorem ofText_eq (text : List Char)
    : Text.dropTrailing List.isEmpty (settledLines text) = [] ∧ ofText text = [[]]
      ∨ ofText text = Text.dropTrailing List.isEmpty (settledLines text) := by
  rw [ofText, ← settledLines]
  split
  case h_1 none => exact .inl ⟨none, rfl⟩
  case h_2 => exact .inr rfl

theorem ofText_single (text : List Char) : AreSingle (ofText text) := by
  intro line member
  rcases ofText_eq text with ⟨-, one⟩ | some
  · rw [one, List.mem_singleton] at member
    rw [member]
    exact List.not_mem_nil
  · rw [some] at member
    exact settledLines_single text line ((List.rdropWhile_prefix _ _).sublist.mem member)

/-- No line ends with a carriage return. -/
theorem ofText_settled (text : List Char) {line : List Char} (member : line ∈ ofText text)
    : line.getLast? ≠ some '\r' := by
  rcases ofText_eq text with ⟨-, one⟩ | some
  · rw [one, List.mem_singleton] at member
    rw [member]
    exact nofun
  · rw [some] at member
    have isLine := (List.rdropWhile_prefix _ _).sublist.mem member
    obtain ⟨part, -, rfl⟩ := List.mem_map.mp isLine
    intro isLast
    have fails := Text.fails_at_end (List.rdropWhile_idempotent _ part) isLast
    exact absurd fails (by decide)

/-- The lines of a text are what it is when it is normalized, line feeds aside. -/
theorem join_ofText (text : List Char) : join (ofText text) = normalize text := by
  rw [normalize, settle_eq, dropTrailing_join (settledLines_single text)]
  rcases ofText_eq text with ⟨none, one⟩ | some
  · rw [none, one]
    rfl
  · rw [some]

/-- Only a single line may be empty at the end. -/
theorem ofText_last {text line : List Char} (more : 1 < (ofText text).length)
    (isLast : line ∈ (ofText text).getLast?)
    : line ≠ [] := by
  rcases ofText_eq text with ⟨-, one⟩ | some
  · rw [one] at more
    exact absurd more (by decide)
  · rw [some] at isLast
    have fails := Text.fails_at_end (List.rdropWhile_idempotent _ (settledLines text)) isLast
    rintro rfl
    exact absurd fails (by decide)

/-- The lines that are not empty are those of the settled text, in their order. -/
theorem filter_ofText (text : List Char)
    : (ofText text).filter (!·.isEmpty)
      = (Text.split (· == '\n') (settle text)).filter (!·.isEmpty) := by
  rw [settle_eq, split_join (settledLines_ne_nil text) (settledLines_single text)]
  obtain ⟨dropped, all, empty⟩ := Text.dropTrailing_dropped List.isEmpty (settledLines text)
  have none : dropped.filter (!·.isEmpty) = [] := by
    rw [List.filter_eq_nil_iff]
    intro line member
    rw [empty line member]
    exact Bool.false_ne_true
  rw [all, List.filter_append, none, List.append_nil]
  rcases ofText_eq text with ⟨nothing, one⟩ | some
  · rw [one, nothing]
    rfl
  · rw [some]

/-- A settled line is its only line. -/
theorem ofText_line {line : List Char} (single : '\n' ∉ line)
    (settled : line.getLast? ≠ some '\r')
    : ofText line = [line] := by
  have whole : ∀ c ∈ line, (c == '\n') = false := by
    intro c member
    refine beq_eq_false_iff_ne.mpr ?_
    rintro rfl
    exact single member
  have stays : dropReturns line = line := by
    refine Text.dropTrailing_eq_self fun c isLast => beq_eq_false_iff_ne.mpr ?_
    rintro rfl
    exact settled isLast
  rw [ofText, Text.split_of_none whole, List.map_singleton, stays]
  cases line <;> rfl

end Lines

-----------------------------------------------------------------------
-- The lines of entries
-----------------------------------------------------------------------

/-- The entries that an entry of several lines stands for: each of them has the time, the level, the
user, the command and the node of the entry and a single line as its text, and together these lines
are the normalized text of the entry.
-/
structure IsBlockOf (entry : Entry) (block : List Entry) : Prop where
  nonempty : block ≠ []
  time : ∀ line ∈ block, line.time = entry.time
  level : ∀ line ∈ block, line.level = entry.level
  user : ∀ line ∈ block, line.user = entry.user
  command : ∀ line ∈ block, line.command = entry.command
  node : ∀ line ∈ block, line.node = entry.node
  single : ∀ line ∈ block, '\n' ∉ line.log.toList
  settled : ∀ line ∈ block, line.log.toList.getLast? ≠ some '\r'
  joined : Lines.join (block.map (·.log.toList)) = Lines.normalize entry.log.toList
  last : 1 < block.length → ∀ line ∈ block.getLast?, line.log ≠ ""
  length : block.length = (Lines.normalize entry.log.toList).count '\n' + 1

theorem Entry.logs_lines (entry : Entry)
    : entry.lines.map (·.log.toList) = Lines.ofText entry.log.toList := by
  rw [lines, List.map_map]
  exact (List.map_congr_left fun line _ => String.toList_ofList).trans (List.map_id _)

/-- An entry has the lines that its text stands for. -/
theorem Entry.lines_isBlock (entry : Entry) : IsBlockOf entry entry.lines := by
  have isLine {line : Entry} (member : line ∈ entry.lines)
      : ∃ text ∈ Lines.ofText entry.log.toList, line = entry.withLog (String.ofList text) := by
    obtain ⟨text, isText, rfl⟩ := List.mem_map.mp member
    exact ⟨text, isText, rfl⟩
  have isText {line : Entry} (member : line ∈ entry.lines)
      : line.log.toList ∈ Lines.ofText entry.log.toList := by
    rw [← entry.logs_lines]
    exact List.mem_map_of_mem member
  have size : entry.lines.length = (Lines.ofText entry.log.toList).length := by
    rw [← entry.logs_lines, List.length_map]
  have context {α : Type} {field : Entry → α}
      (kept : ∀ text, field (entry.withLog text) = field entry)
      : ∀ line ∈ entry.lines, field line = field entry := by
    intro line member
    obtain ⟨text, -, rfl⟩ := isLine member
    exact kept _
  constructor
  case nonempty => simpa [lines] using Lines.ofText_ne_nil entry.log.toList
  case time => exact context fun _ => rfl
  case level => exact context fun _ => rfl
  case user => exact context fun _ => rfl
  case command => exact context fun _ => rfl
  case node => exact context fun _ => rfl
  case single => exact fun line member => Lines.ofText_single _ _ (isText member)
  case settled => exact fun line member => Lines.ofText_settled _ (isText member)
  case joined => rw [logs_lines, Lines.join_ofText]
  case last =>
    intro more line isLast empty
    rw [size] at more
    have none : line.log.toList = [] := by rw [empty]; rfl
    refine Lines.ofText_last more ?_ none
    rw [← entry.logs_lines, List.getLast?_map, Option.mem_def.mp isLast]
    rfl
  case length =>
    rw [size, ← Lines.join_ofText]
    exact Lines.count_join (Lines.ofText_ne_nil _) (Lines.ofText_single _)

/-- Nothing else is a block of an entry. Witness: its texts are cut out of the normalized text of
the entry, and all else in it is the entry's.
-/
theorem IsBlockOf.eq_lines {entry : Entry} {block : List Entry} (isBlock : IsBlockOf entry block)
    : block = entry.lines := by
  have texts : block.map (·.log.toList) = Lines.ofText entry.log.toList := by
    have single : Lines.AreSingle (block.map (·.log.toList)) := by
      intro text member
      obtain ⟨line, isLine, rfl⟩ := List.mem_map.mp member
      exact isBlock.single line isLine
    have some : block.map (·.log.toList) ≠ [] := by
      simpa using isBlock.nonempty
    have cut := Lines.split_join some single
    rw [isBlock.joined, ← Lines.join_ofText,
      Lines.split_join (Lines.ofText_ne_nil _) (Lines.ofText_single _)] at cut
    exact cut.symm
  have same : ∀ line ∈ block, entry.withLog line.log = line := by
    intro line member
    have time := isBlock.time line member
    have level := isBlock.level line member
    have user := isBlock.user line member
    have command := isBlock.command line member
    have node := isBlock.node line member
    cases line
    simp_all [Entry.withLog]
  rw [Entry.lines, ← texts, List.map_map]
  refine ((List.map_congr_left fun line member => ?_).trans (List.map_id _)).symm
  rw [Function.comp_apply, String.ofList_toList]
  exact same line member

/-- The lines of an entry have no further lines. -/
theorem Entry.lines_of_line {entry line : Entry} (member : line ∈ entry.lines)
    : line.lines = [line] := by
  have isBlock := entry.lines_isBlock
  rw [lines, Lines.ofText_line (isBlock.single line member) (isBlock.settled line member),
    List.map_singleton, String.ofList_toList]
  rfl

theorem decompact_idempotent (entries : List Entry)
    : decompact (decompact entries) = decompact entries := by
  have alone : ∀ line ∈ decompact entries, line.lines = [line] := by
    intro line member
    obtain ⟨entry, -, isLine⟩ := List.mem_flatMap.mp member
    exact Entry.lines_of_line isLine
  rw [decompact, List.flatMap_congr alone, List.flatMap_singleton']

/-- The lines of an entry that are not empty, of all those in its settled text. -/
def Entry.visibleLines (entry : Entry) : List Entry :=
  ((Text.split (· == '\n') (Lines.settle entry.log.toList)).filter (!·.isEmpty)).map
    fun line => entry.withLog (String.ofList line)

theorem Entry.filter_lines (entry : Entry)
    : entry.lines.filter (·.log ≠ "") = entry.visibleLines := by
  rw [lines, visibleLines, ← Lines.filter_ofText, List.filter_map]
  congr 2
  funext line
  cases line <;> simp [withLog]

/-- Decompaction gives each entry a block of its own, in their order: the entries of the single
lines of its text, and no others. So it works on one part of a list after the other, changes nothing
of what is already decompacted, keeps every line that is not empty in its place, and leaves nothing
only of nothing.
-/
theorem decompaction_by_blocks (entries : List Entry)
    : (∃ blocks, decompact entries = blocks.flatten ∧ List.Forall₂ IsBlockOf entries blocks)
      ∧ (∀ entry block, IsBlockOf entry block ↔ block = decompact [entry])
      ∧ (∀ more, decompact (entries ++ more) = decompact entries ++ decompact more)
      ∧ decompact (decompact entries) = decompact entries
      ∧ (decompact entries).filter (·.log ≠ "") = entries.flatMap Entry.visibleLines
      ∧ (decompact entries = [] ↔ entries = []) := by
  refine ⟨⟨entries.map Entry.lines, List.flatMap_def, ?_⟩, fun entry block => ?_,
    decompact_append entries, decompact_idempotent entries, ?_, decompact_eq_nil_iff⟩
  · exact List.forall₂_map_right_iff.mpr (List.forall₂_same.mpr fun entry _ => entry.lines_isBlock)
  · rw [decompact, List.flatMap_singleton]
    refine ⟨IsBlockOf.eq_lines, ?_⟩
    rintro rfl
    exact entry.lines_isBlock
  · rw [decompact, List.filter_flatMap]
    exact List.flatMap_congr fun entry _ => entry.filter_lines

end JobWatch.Output
