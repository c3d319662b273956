import JobWatch.Output.Template
import Mathlib.Data.List.Infix

/-! A template has one reading as texts with placeholders between them, and rendering puts all its
values into their places at once. Nothing depends on the order in which the names are tried, and
cutting the template at positions in octets never meets the inside of a character.
-/

namespace JobWatch.Output

-----------------------------------------------------------------------
-- Names
-----------------------------------------------------------------------

namespace Placeholder

/-- A placeholder as it stands in a template. -/
def mark (placeholder : Placeholder) : List Char :=
  '%' :: placeholder.name

theorem percent_not_mem (placeholder : Placeholder) : '%' ∉ placeholder.name := by
  cases placeholder <;> decide

/-- No name is the beginning of another. -/
theorem eq_of_name_begins {placeholder other : Placeholder}
    (begins : placeholder.name <+: other.name)
    : placeholder = other := by
  revert begins
  cases placeholder <;> cases other <;> decide

/-- A text begins with at most one name. -/
theorem eq_of_begins {placeholder other : Placeholder} {text : List Char}
    (begins : placeholder.name <+: text) (otherBegins : other.name <+: text)
    : placeholder = other := by
  rcases List.prefix_or_prefix_of_prefix begins otherBegins with first | second
  · exact eq_of_name_begins first
  · exact (eq_of_name_begins second).symm

/-- The name that a text begins with is found, in whatever order all names are tried. -/
theorem find?_eq_some_iff {order : List Placeholder}
    (complete : ∀ placeholder, placeholder ∈ order) {text : List Char} {placeholder : Placeholder}
    : order.find? (fun tried => tried.name.isPrefixOf text) = some placeholder
      ↔ placeholder.name <+: text := by
  constructor
  · intro found
    have begins := List.find?_some found
    exact List.isPrefixOf_iff_prefix.mp begins
  · intro begins
    cases found : order.find? fun tried => tried.name.isPrefixOf text with
    | none =>
        have fails := List.find?_eq_none.mp found placeholder (complete placeholder)
        exact absurd (List.isPrefixOf_iff_prefix.mpr begins) fails
    | some other =>
        have otherBegins := List.find?_some found
        rw [eq_of_begins begins (List.isPrefixOf_iff_prefix.mp otherBegins)]

theorem find?_eq_none_iff {order : List Placeholder}
    (complete : ∀ placeholder, placeholder ∈ order) {text : List Char}
    : order.find? (fun tried => tried.name.isPrefixOf text) = none
      ↔ ∀ placeholder : Placeholder, ¬placeholder.name <+: text := by
  simp [complete]

theorem all_complete (placeholder : Placeholder) : placeholder ∈ all := by
  cases placeholder <;> decide

end Placeholder

-----------------------------------------------------------------------
-- Pieces
-----------------------------------------------------------------------

/-- A piece as it stands in a template. -/
def Piece.source : Piece → List Char
  | .literal c => [c]
  | .value placeholder => placeholder.mark

namespace Template

/-- A character that stands for itself in front of a text. -/
def IsPlain (c : Char) (rest : List Char) : Prop :=
  c = '%' → ∀ placeholder : Placeholder, ¬placeholder.name <+: rest

theorem pieces_mark (placeholder : Placeholder) (rest : List Char)
    : pieces (placeholder.mark ++ rest) = .value placeholder :: pieces rest := by
  have found : Placeholder.atStart? (placeholder.name ++ rest) = some placeholder :=
    (Placeholder.find?_eq_some_iff Placeholder.all_complete).mpr (List.prefix_append _ _)
  rw [Placeholder.mark, List.cons_append, pieces, if_pos rfl, found]
  simp only [List.drop_left]

theorem pieces_plain {c : Char} {rest : List Char} (plain : IsPlain c rest)
    : pieces (c :: rest) = .literal c :: pieces rest := by
  rw [pieces]
  split
  case isTrue sign =>
    have none : Placeholder.atStart? rest = none :=
      (Placeholder.find?_eq_none_iff Placeholder.all_complete).mpr (plain sign)
    rw [none]
  case isFalse => rfl

/-- A template is read piece by piece, each of which is a placeholder or a plain character. -/
theorem piecewise {motive : List Char → Prop} (nil : motive [])
    (mark : ∀ (placeholder : Placeholder) rest, motive rest → motive (placeholder.mark ++ rest))
    (plain : ∀ c rest, IsPlain c rest → motive rest → motive (c :: rest)) (text : List Char)
    : motive text := by
  induction text using pieces.induct with
  | case1 => exact nil
  | case2 rest placeholder found ih =>
      have begins := (Placeholder.find?_eq_some_iff Placeholder.all_complete).mp found
      obtain ⟨behind, rfl⟩ := begins
      rw [List.drop_left] at ih
      exact mark placeholder behind ih
  | case3 rest none ih =>
      have free := (Placeholder.find?_eq_none_iff Placeholder.all_complete).mp none
      exact plain '%' rest (fun _ => free) ih
  | case4 c rest noSign ih => exact plain c rest (fun sign => absurd sign noSign) ih

/-- The pieces of a template are all of it. -/
theorem pieces_source (text : List Char) : (pieces text).flatMap Piece.source = text := by
  induction text using piecewise with
  | nil => rw [pieces, List.flatMap_nil]
  | mark placeholder rest ih => rw [pieces_mark, List.flatMap_cons, ih, Piece.source]
  | plain c rest plain ih => rw [pieces_plain plain, List.flatMap_cons, ih, Piece.source,
      List.singleton_append]

-----------------------------------------------------------------------
-- Templates in a row
-----------------------------------------------------------------------

/-- A placeholder begins in one text and ends in the other one, which is behind it. -/
def Straddles (front back : List Char) : Prop :=
  ∃ (placeholder : Placeholder) (begin rest : List Char),
    placeholder.mark = begin ++ rest ∧ begin ≠ [] ∧ rest ≠ [] ∧ begin <:+ front ∧ rest <+: back

theorem Straddles.mono {front back : List Char} (straddles : Straddles front back)
    (before : List Char)
    : Straddles (before ++ front) back := by
  obtain ⟨placeholder, begin, rest, cut, some, more, ends, begins⟩ := straddles
  exact ⟨placeholder, begin, rest, cut, some, more, ends.trans (List.suffix_append _ _), begins⟩

/-- No placeholder goes on with a percent sign. -/
theorem not_straddles_percent (front back : List Char) : ¬Straddles front ('%' :: back) := by
  rintro ⟨placeholder, begin, rest, cut, some, more, -, begins⟩
  cases begin with
  | nil => exact some rfl
  | cons c begin =>
      cases rest with
      | nil => exact more rfl
      | cons d rest =>
          obtain ⟨rfl, -⟩ := List.cons_prefix_cons.mp begins
          refine absurd ?_ placeholder.percent_not_mem
          rw [(List.cons.inj cut).2]
          exact List.mem_append_right _ List.mem_cons_self

/-- Two texts have the pieces of the one and those of the other, unless a placeholder straddles
them.
-/
theorem pieces_append {front back : List Char} (free : ¬Straddles front back)
    : pieces (front ++ back) = pieces front ++ pieces back := by
  induction front using piecewise with
  | nil => rw [pieces, List.nil_append, List.nil_append]
  | mark placeholder rest ih =>
      have others : ¬Straddles rest back := fun straddles => free (straddles.mono _)
      rw [List.append_assoc, pieces_mark, pieces_mark, ih others, List.cons_append]
  | plain c rest plain ih =>
      have others : ¬Straddles rest back := fun straddles => free (straddles.mono [c])
      have stillPlain : IsPlain c (rest ++ back) := by
        rintro rfl placeholder ⟨behind, whole⟩
        obtain ⟨more, short, -⟩ | ⟨more, name, begins⟩ := List.append_eq_append_iff.mp whole
        · exact plain rfl placeholder ⟨more, short.symm⟩
        · refine absurd ⟨placeholder, '%' :: rest, more, ?_, List.cons_ne_nil _ _, ?_,
            List.suffix_rfl, behind, begins.symm⟩ free
          · rw [Placeholder.mark, name, List.cons_append]
          · rintro rfl
            exact plain rfl placeholder ⟨[], by simpa using name⟩
      rw [List.cons_append, pieces_plain stillPlain, pieces_plain plain, ih others,
        List.cons_append]

end Template

-----------------------------------------------------------------------
-- Readings
-----------------------------------------------------------------------

/-- Texts with placeholders between them: there is one more text than placeholders. -/
inductive Segments where
  | last (text : List Char)
  | next (text : List Char) (placeholder : Placeholder) (behind : Segments)

namespace Segments

/-- The template with these segments. -/
def source : Segments → List Char
  | last text => text
  | next text placeholder behind => text ++ (placeholder.mark ++ behind.source)

/-- The segments with values in the places of the placeholders, all at once. -/
def filled (value : Placeholder → List Char) : Segments → List Char
  | last text => text
  | next text placeholder behind => text ++ (value placeholder ++ behind.filled value)

/-- A placeholder stands between the segments, with some of the template in front of it. -/
inductive Marks : Segments → List Char → Placeholder → Prop
  | here (text : List Char) (placeholder : Placeholder) (behind : Segments)
    : Marks (.next text placeholder behind) text placeholder
  | behind (text : List Char) (first : Placeholder) {behind : Segments} {front : List Char}
    {placeholder : Placeholder} (marks : Marks behind front placeholder)
    : Marks (.next text first behind) (text ++ (first.mark ++ front)) placeholder

/-- Segments read a template if they make it up, and wherever a placeholder stands in it, it stands
between the segments.
-/
structure Reads (segments : Segments) (template : List Char) : Prop where
  whole : segments.source = template
  marked
    : ∀ front (placeholder : Placeholder) back,
        template = front ++ (placeholder.mark ++ back) → segments.Marks front placeholder

/-- The segments with one more character in front. -/
def push (c : Char) : Segments → Segments
  | last text => last (c :: text)
  | next text placeholder behind => next (c :: text) placeholder behind

theorem source_push (c : Char) (segments : Segments)
    : (segments.push c).source = c :: segments.source := by
  cases segments <;> rfl

theorem filled_push (value : Placeholder → List Char) (c : Char) (segments : Segments)
    : (segments.push c).filled value = c :: segments.filled value := by
  cases segments <;> rfl

theorem Marks.push {segments : Segments} {front : List Char} {placeholder : Placeholder}
    (marks : segments.Marks front placeholder) (c : Char)
    : (segments.push c).Marks (c :: front) placeholder := by
  cases marks with
  | here => exact .here _ _ _
  | behind _ _ marks => exact .behind _ _ marks

/-- The segments that pieces form. -/
def ofPieces : List Piece → Segments
  | [] => last []
  | .literal c :: rest => (ofPieces rest).push c
  | .value placeholder :: rest => next [] placeholder (ofPieces rest)

theorem source_ofPieces (pieces : List Piece)
    : (ofPieces pieces).source = pieces.flatMap Piece.source := by
  induction pieces with
  | nil => rfl
  | cons piece rest ih =>
      cases piece with
      | literal c => rw [ofPieces, source_push, ih]; rfl
      | value placeholder => rw [ofPieces, source, ih]; rfl

theorem filled_ofPieces (entry : Entry) (pieces : List Piece)
    : (ofPieces pieces).filled (fun placeholder => (placeholder.value entry).toList)
      = pieces.flatMap (Piece.text entry) := by
  induction pieces with
  | nil => rfl
  | cons piece rest ih =>
      cases piece with
      | literal c => rw [ofPieces, filled_push, ih]; rfl
      | value placeholder => rw [ofPieces, filled, ih]; rfl

/-- A placeholder among pieces stands between the segments, by induction on the pieces before it. -/
theorem marks_ofPieces (front : List Piece) (placeholder : Placeholder) (back : List Piece)
    : (ofPieces (front ++ .value placeholder :: back)).Marks (front.flatMap Piece.source)
        placeholder := by
  induction front with
  | nil => exact .here [] placeholder _
  | cons piece front ih =>
      cases piece with
      | literal c => exact ih.push c
      | value first => exact .behind [] first ih

/-- The pieces of a template form a reading of it: they are cut in front of every placeholder. -/
theorem reads_ofPieces (template : List Char)
    : (ofPieces (Template.pieces template)).Reads template := by
  refine ⟨by rw [source_ofPieces, Template.pieces_source], ?_⟩
  rintro front placeholder back rfl
  have marks := marks_ofPieces (Template.pieces front) placeholder (Template.pieces back)
  rwa [Template.pieces_source, ← Template.pieces_mark, ← Template.pieces_append] at marks
  exact Template.not_straddles_percent _ _

/-- The first placeholder of a reading is the first one in the template. -/
theorem Marks.length_le {text front : List Char} {first placeholder : Placeholder}
    {behind : Segments} (marks : Marks (.next text first behind) front placeholder)
    : text = front ∧ first = placeholder ∨ text.length < front.length := by
  cases marks with
  | here => exact .inl ⟨rfl, rfl⟩
  | behind => exact .inr (by simp [Placeholder.mark])

/-- What is behind the first placeholder is read by the segments there. -/
theorem Reads.behind {text template : List Char} {first : Placeholder} {behind : Segments}
    (read : (Segments.next text first behind).Reads (text ++ (first.mark ++ template)))
    : behind.Reads template := by
  refine ⟨?_, ?_⟩
  · exact List.append_cancel_left (List.append_cancel_left read.whole)
  · rintro front placeholder back rfl
    have occurs : text ++ (first.mark ++ (front ++ (placeholder.mark ++ back)))
        = (text ++ (first.mark ++ front)) ++ (placeholder.mark ++ back) := by
      simp only [List.append_assoc]
    have marks := read.marked _ placeholder back occurs
    generalize whole : text ++ (first.mark ++ front) = place at marks
    cases marks with
    | here =>
        have size := congrArg List.length whole
        simp [Placeholder.mark] at size
    | behind _ _ marks =>
        rwa [List.append_cancel_left (List.append_cancel_left whole)]

/-- A template has one reading, by induction on the segments. -/
theorem Reads.unique {segments other : Segments} {template : List Char}
    (read : segments.Reads template) (otherRead : other.Reads template)
    : segments = other := by
  induction segments generalizing other template with
  | last text =>
      obtain rfl := read.whole
      cases other with
      | last otherText => exact congrArg last otherRead.whole.symm
      | next otherText placeholder behind =>
          cases read.marked otherText placeholder behind.source otherRead.whole.symm
  | next text placeholder behind ih =>
      cases other with
      | last otherText => cases otherRead.marked text placeholder behind.source read.whole.symm
      | next otherText otherPlaceholder otherBehind =>
          have marks := read.marked otherText otherPlaceholder _ otherRead.whole.symm
          have otherMarks := otherRead.marked text placeholder _ read.whole.symm
          obtain ⟨rfl, rfl⟩ : text = otherText ∧ placeholder = otherPlaceholder := by
            rcases marks.length_le with same | short
            · exact same
            · rcases otherMarks.length_le with ⟨rfl, rfl⟩ | shorter
              · exact ⟨rfl, rfl⟩
              · omega
          obtain rfl := read.whole
          have sameBehind := ih read.behind otherRead.behind
          rw [sameBehind]

end Segments

-----------------------------------------------------------------------
-- Positions in octets
-----------------------------------------------------------------------

/-- How many octets a text has in UTF-8. -/
@[simp]
def size : List Char → Nat
  | [] => 0
  | c :: rest => c.utf8Size + size rest

/-- A text, cut at a position in octets. It is not cut inside a character or behind its end. -/
def cutAt? : List Char → Nat → Option (List Char × List Char)
  | text, 0 => some ([], text)
  | [], _ + 1 => none
  | c :: rest, position + 1 =>
    if c.utf8Size ≤ position + 1 then
      (cutAt? rest (position + 1 - c.utf8Size)).map fun (front, back) => (c :: front, back)
    else none

/-- The position of the first percent sign. -/
def percentAt? : List Char → Option Nat
  | [] => none
  | c :: rest => if c = '%' then some 0 else (percentAt? rest).map (c.utf8Size + ·)

@[simp]
theorem size_append (front back : List Char) : size (front ++ back) = size front + size back := by
  induction front with
  | nil => rw [List.nil_append, size, Nat.zero_add]
  | cons c front ih => rw [List.cons_append, size, ih, size, Nat.add_assoc]

/-- A text is cut at a position exactly if a part of it ends there, by induction on the text. -/
theorem cutAt?_eq_some_iff {text front back : List Char} {position : Nat}
    : cutAt? text position = some (front, back)
      ↔ text = front ++ back ∧ size front = position := by
  induction text generalizing front back position with
  | nil =>
      cases position with
      | zero => cases front <;> simp [cutAt?, eq_comm]
      | succ position => cases front <;> simp [cutAt?]
  | cons c rest ih =>
      have positive := c.utf8Size_pos
      cases position with
      | zero =>
          cases front with
          | nil => simp [cutAt?]
          | cons d front => have := d.utf8Size_pos; simp [cutAt?]; omega
      | succ position =>
          rw [cutAt?]
          cases front with
          | nil => split <;> simp
          | cons d front =>
              split
              case isTrue fits =>
                simp only [Option.map_eq_some_iff, Prod.exists, ih, Prod.mk.injEq, List.cons.injEq,
                  List.cons_append, size]
                constructor
                · rintro ⟨_, _, ⟨rfl, sized⟩, ⟨rfl, rfl⟩, rfl⟩
                  exact ⟨⟨rfl, rfl⟩, by omega⟩
                · rintro ⟨⟨rfl, rfl⟩, sized⟩
                  exact ⟨front, back, ⟨rfl, by omega⟩, ⟨rfl, rfl⟩, rfl⟩
              case isFalse wide =>
                refine iff_of_false nofun ?_
                rintro ⟨same, sized⟩
                obtain ⟨rfl, -⟩ := List.cons.inj same
                rw [size] at sized
                omega

/-- The text up to a position. -/
def upTo? (text : List Char) (position : Nat) : Option (List Char) :=
  (cutAt? text position).map Prod.fst

/-- The text from a position on. -/
def from? (text : List Char) (position : Nat) : Option (List Char) :=
  (cutAt? text position).map Prod.snd

theorem upTo?_size (front back : List Char) : upTo? (front ++ back) (size front) = some front := by
  rw [upTo?, cutAt?_eq_some_iff.mpr ⟨rfl, rfl⟩, Option.map_some]

theorem from?_size (front back : List Char) : from? (front ++ back) (size front) = some back := by
  rw [from?, cutAt?_eq_some_iff.mpr ⟨rfl, rfl⟩, Option.map_some]

theorem percentAt?_of_not_mem {text : List Char} (free : '%' ∉ text) : percentAt? text = none := by
  induction text with
  | nil => rfl
  | cons c rest ih =>
      rw [List.mem_cons, not_or] at free
      rw [percentAt?, if_neg fun sign => free.1 sign.symm, ih free.2, Option.map_none]

theorem percentAt?_append {front : List Char} (free : '%' ∉ front) (back : List Char)
    : percentAt? (front ++ '%' :: back) = some (size front) := by
  induction front with
  | nil => rfl
  | cons c front ih =>
      rw [List.mem_cons, not_or] at free
      rw [List.cons_append, percentAt?, if_neg fun sign => free.1 sign.symm, ih free.2,
        Option.map_some, size]

/-- Behind a percent sign a text goes on one octet after it. -/
theorem from?_percent (front back : List Char)
    : from? (front ++ '%' :: back) (size front + 1) = some back := by
  have whole := from?_size (front ++ ['%']) back
  rwa [size_append, List.append_assoc] at whole

/-- A text is cut in front of and behind its first percent sign. -/
theorem cut_at_sign {text front tail : List Char} {position : Nat}
    (sign : percentAt? text = some position) (isFront : upTo? text position = some front)
    (isTail : from? text (position + 1) = some tail)
    : text = front ++ '%' :: tail ∧ '%' ∉ front := by
  by_cases member : '%' ∈ text
  · obtain ⟨before, back, rfl, free⟩ := List.eq_append_cons_of_mem member
    rw [percentAt?_append free] at sign
    obtain rfl := Option.some.inj sign
    rw [upTo?_size] at isFront
    rw [from?_percent] at isTail
    obtain rfl := Option.some.inj isFront
    obtain rfl := Option.some.inj isTail
    exact ⟨rfl, free⟩
  · rw [percentAt?_of_not_mem member] at sign
    cases sign

-----------------------------------------------------------------------
-- Scanning
-----------------------------------------------------------------------

/-- A scan of a text, with what it puts out for an entry. The text is cut at the first percent sign,
behind it, and behind the name that is the first in an order to stand there. Where it cannot be cut,
the scan does not go on.
-/
inductive Scans (order : List Placeholder) (entry : Entry) : List Char → List Char → Prop
  | plain {text : List Char} (none : percentAt? text = none) : Scans order entry text text
  | value {text front tail behind result : List Char} {position : Nat} {placeholder : Placeholder}
    (sign : percentAt? text = some position)
    (isFront : upTo? text position = some front)
    (isTail : from? text (position + 1) = some tail)
    (named : order.find? (fun tried => tried.name.isPrefixOf tail) = some placeholder)
    (isBehind : from? tail (size placeholder.name) = some behind)
    (scans : Scans order entry behind result)
    : Scans order entry text (front ++ ((placeholder.value entry).toList ++ result))
  | stray {text front tail result : List Char} {position : Nat}
    (sign : percentAt? text = some position)
    (isFront : upTo? text position = some front)
    (isTail : from? text (position + 1) = some tail)
    (named : order.find? (fun tried => tried.name.isPrefixOf tail) = none)
    (scans : Scans order entry tail result)
    : Scans order entry text (front ++ '%' :: result)

namespace Template

/-- What a text comes to for an entry. -/
def rendered (entry : Entry) (text : List Char) : List Char :=
  (pieces text).flatMap (Piece.text entry)

theorem render_toList (template : Template) (entry : Entry)
    : (template.render entry).toList = rendered entry template.source.toList :=
  String.toList_ofList

theorem rendered_append {front back : List Char} (free : ¬Straddles front back) (entry : Entry)
    : rendered entry (front ++ back) = rendered entry front ++ rendered entry back := by
  rw [rendered, pieces_append free, List.flatMap_append, rendered, rendered]

theorem rendered_mark (entry : Entry) (placeholder : Placeholder) (rest : List Char)
    : rendered entry (placeholder.mark ++ rest)
      = (placeholder.value entry).toList ++ rendered entry rest := by
  rw [rendered, pieces_mark, List.flatMap_cons, rendered, Piece.text]

theorem rendered_plain {c : Char} {rest : List Char} (plain : IsPlain c rest) (entry : Entry)
    : rendered entry (c :: rest) = c :: rendered entry rest := by
  rw [rendered, pieces_plain plain, List.flatMap_cons, rendered, Piece.text, List.singleton_append]

theorem rendered_nil (entry : Entry) : rendered entry [] = [] := by
  rw [rendered, pieces, List.flatMap_nil]

/-- What stands in front of all percent signs is copied. -/
theorem rendered_front {front : List Char} (free : '%' ∉ front) (back : List Char) (entry : Entry)
    : rendered entry (front ++ back) = front ++ rendered entry back := by
  induction front with
  | nil => rfl
  | cons c front ih =>
      rw [List.mem_cons, not_or] at free
      rw [List.cons_append, rendered_plain fun sign => absurd sign.symm free.1, ih free.2,
        List.cons_append]

theorem rendered_of_not_mem {text : List Char} (free : '%' ∉ text) (entry : Entry)
    : rendered entry text = text := by
  have copied := rendered_front free [] entry
  rwa [rendered_nil, List.append_nil] at copied

variable {order : List Placeholder} {entry : Entry} {text : List Char}

/-- A scan puts out what the text comes to, by induction on its steps. -/
theorem eq_rendered (complete : ∀ placeholder, placeholder ∈ order) {result : List Char}
    (scans : Scans order entry text result)
    : result = rendered entry text := by
  induction scans with
  | @plain text none =>
      refine (rendered_of_not_mem (fun member => ?_) entry).symm
      obtain ⟨before, back, rfl, free⟩ := List.eq_append_cons_of_mem member
      rw [percentAt?_append free] at none
      cases none
  | value sign isFront isTail named isBehind scans ih =>
      obtain ⟨rfl, free⟩ := cut_at_sign sign isFront isTail
      obtain ⟨rest, rfl⟩ := (Placeholder.find?_eq_some_iff complete).mp named
      rw [from?_size] at isBehind
      obtain rfl := Option.some.inj isBehind
      rw [rendered_front free, ih, ← rendered_mark]
      rfl
  | stray sign isFront isTail named scans ih =>
      obtain ⟨rfl, free⟩ := cut_at_sign sign isFront isTail
      have none := (Placeholder.find?_eq_none_iff complete).mp named
      rw [rendered_front free, rendered_plain (fun _ => none), ih]

/-- A scan comes to an end, by induction on the length of the text. -/
theorem exists_scan (complete : ∀ placeholder, placeholder ∈ order) (entry : Entry)
    (text : List Char)
    : ∃ result, Scans order entry text result := by
  induction size : text.length using Nat.strong_induction_on generalizing text with
  | h length ih =>
      by_cases member : '%' ∈ text
      · obtain ⟨front, tail, rfl, free⟩ := List.eq_append_cons_of_mem member
        have sign := percentAt?_append free tail
        have isFront := upTo?_size front ('%' :: tail)
        have isTail := from?_percent front tail
        rw [List.length_append, List.length_cons] at size
        cases named : order.find? fun tried => tried.name.isPrefixOf tail with
        | none =>
            obtain ⟨result, scans⟩ := ih tail.length (by omega) tail rfl
            exact ⟨_, .stray sign isFront isTail named scans⟩
        | some placeholder =>
            obtain ⟨behind, rfl⟩ := (Placeholder.find?_eq_some_iff complete).mp named
            rw [List.length_append] at size
            obtain ⟨result, scans⟩ := ih behind.length (by omega) behind rfl
            exact ⟨_, .value sign isFront isTail named (from?_size _ _) scans⟩
      · exact ⟨text, .plain (percentAt?_of_not_mem member)⟩

/-- A template has exactly one reading as texts with placeholders between them, such that there are
no other placeholders in it. Rendering copies the texts and puts values into the places between
them. Scanning for the names in any order ends, cuts no character, and comes to the same. A percent
sign in front of no name is copied, and templates in a row are rendered one after the other, unless
a placeholder straddles them.
-/
theorem rendering_substitutes_at_once (template : Template)
    : (∃ segments : Segments, segments.Reads template.source.toList
        ∧ (∀ other : Segments, other.Reads template.source.toList → other = segments)
        ∧ ∀ entry, (template.render entry).toList
          = segments.filled fun placeholder => (placeholder.value entry).toList)
      ∧ (∀ order : List Placeholder, (∀ placeholder, placeholder ∈ order) → ∀ entry result,
          Scans order entry template.source.toList result
            ↔ result = (template.render entry).toList)
      ∧ (∀ front back : String, template.source = front ++ "%" ++ back
          → (∀ placeholder : Placeholder, ¬placeholder.name <+: back.toList)
          → ∀ entry, template.render entry
            = (Template.mk front).render entry ++ "%" ++ (Template.mk back).render entry)
      ∧ ∀ behind : Template, ¬Straddles template.source.toList behind.source.toList
          → ∀ entry, (Template.mk (template.source ++ behind.source)).render entry
            = template.render entry ++ behind.render entry := by
  refine ⟨?_, ?_, ?_, ?_⟩
  · refine ⟨_, Segments.reads_ofPieces template.source.toList, ?_, fun entry => ?_⟩
    · exact fun other read => read.unique (Segments.reads_ofPieces _)
    · rw [render_toList, Segments.filled_ofPieces, rendered]
  · intro order complete entry result
    rw [render_toList]
    refine ⟨eq_rendered complete, ?_⟩
    rintro rfl
    obtain ⟨result, scans⟩ := exists_scan complete entry template.source.toList
    rwa [← eq_rendered complete scans]
  · intro front back source stray entry
    refine String.toList_inj.mp ?_
    have plain : IsPlain '%' back.toList := fun _ => stray
    have parts : template.source.toList = front.toList ++ '%' :: back.toList := by
      rw [source, String.toList_append, String.toList_append, List.append_assoc]
      rfl
    rw [render_toList, parts, rendered_append (not_straddles_percent _ _), rendered_plain plain,
      String.toList_append, String.toList_append, render_toList, render_toList, List.append_assoc]
    rfl
  · intro behind free entry
    refine String.toList_inj.mp ?_
    rw [String.toList_append, render_toList, render_toList, render_toList, ← rendered_append free,
      String.toList_append]

end Template

end JobWatch.Output
