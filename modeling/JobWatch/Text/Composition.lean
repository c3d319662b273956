import JobWatch.Text.CodeTable
import JobWatch.Text.CompositionTable

/-! The composed form of a text: marks stand in the order of their classes, and whatever has a
character of its own is written as that character.
-/

namespace JobWatch.Text.Composition

-----------------------------------------------------------------------
-- Tables
-----------------------------------------------------------------------

/-- A character, and the two that it is composed of. -/
structure Composite where
  whole : Char
  base : Char
  mark : Char
  deriving DecidableEq, Repr

/-- The composites of a row, from the pairs that it lists. -/
def composites (row : CodeRow) : List Composite :=
  (noteLists (row.note.drop 1)).zipIdx.filterMap fun
    | ([base, mark], place) => some ⟨Char.ofNat (row.first + place), base, mark⟩
    | _ => none

/-- All composites other than Hangul syllables. -/
def allComposites : List Composite :=
  (CodeTable.ofLines compositionTable).flatMap composites

/-- All characters with a combining class. -/
def combiningClasses : CodeTable :=
  CodeTable.ofLines combiningClassTable

/-- All marks. -/
def marks : CodeTable :=
  CodeTable.ofLines markTable

/-- The combining class of a character, zero for one that starts anew. -/
def combiningClass (c : Char) : Nat :=
  match combiningClasses.note? c with
  | some note => (takeCode (note.drop 1)).1
  | none => 0

/-- The character is a mark. -/
def isMark (c : Char) : Bool :=
  (marks.row? c).isSome

-----------------------------------------------------------------------
-- Hangul
-----------------------------------------------------------------------

/-- The place of a character behind another one, if there are less than so many between. -/
def placeBehind? (first size : Nat) (c : Char) : Option Nat :=
  if first ≤ c.toNat ∧ c.toNat < first + size then some (c.toNat - first) else none

/-- The letters of a Hangul syllable: a leading consonant, a vowel, and perhaps a trailing
consonant.
-/
def letters? (c : Char) : Option (List Char) :=
  (placeBehind? 0xAC00 11172 c).map fun place =>
    let lead := Char.ofNat (0x1100 + place / 588)
    let vowel := Char.ofNat (0x1161 + place % 588 / 28)
    if place % 28 = 0 then [lead, vowel] else [lead, vowel, Char.ofNat (0x11A7 + place % 28)]

/-- The Hangul syllable of a leading consonant and a vowel, or of a syllable and a trailing
consonant.
-/
def syllable? (first second : Char) : Option Char :=
  match placeBehind? 0x1100 19 first, placeBehind? 0x1161 21 second with
  | some lead, some vowel => some (Char.ofNat (0xAC00 + 588 * lead + 28 * vowel))
  | _, _ =>
    match placeBehind? 0xAC00 11172 first, placeBehind? 0x11A8 27 second with
    | some place, some trail =>
      if place % 28 = 0 then some (Char.ofNat (first.toNat + trail + 1)) else none
    | _, _ => none

-----------------------------------------------------------------------
-- Taking apart, ordering, putting together
-----------------------------------------------------------------------

/-- How often the first part of a composite can be a composite again. -/
def depth : Nat :=
  4

/-- The parts of a character that is composed over at most so many levels. -/
def parts : Nat → Char → List Char
  | 0, c => [c]
  | levels + 1, c =>
    match letters? c with
    | some letters => letters
    | none =>
      match allComposites.find? (·.whole == c) with
      | some composite => parts levels composite.base ++ [composite.mark]
      | none => [c]

/-- A character put before a text in order: behind the marks of lower classes that the text starts
with.
-/
def insert (c : Char) (text : List Char) : List Char :=
  let precedes (d : Char) := 0 < combiningClass d && combiningClass d < combiningClass c
  text.takeWhile precedes ++ c :: text.dropWhile precedes

/-- The text with every run of marks in the order of their classes. -/
def order (text : List Char) : List Char :=
  text.foldr insert []

/-- The composite of two characters. -/
def composite? (base mark : Char) : Option Char :=
  match syllable? base mark with
  | some syllable => some syllable
  | none =>
    (allComposites.find? fun composite => composite.base == base && composite.mark == mark).map
      (·.whole)

/-- The characters behind a base put together with it where they can be. The marks that cannot are
waiting in reverse, and hide the base from those that are not of a higher class.
-/
def join (base : Char) (waiting : List Char) : List Char → List Char
  | [] => base :: waiting.reverse
  | c :: rest =>
    let hidden :=
      match waiting with
      | [] => false
      | last :: _ => combiningClass c ≤ combiningClass last
    match if hidden then none else composite? base c with
    | some whole => join whole waiting rest
    | none =>
      if combiningClass c = 0 then base :: waiting.reverse ++ join c [] rest
      else join base (c :: waiting) rest

/-- The text with everything put together that can be. Marks that nothing precedes stay. -/
def compose : List Char → List Char
  | [] => []
  | c :: rest => if combiningClass c = 0 then join c [] rest else c :: compose rest

/-- The composed form of a text. -/
def normalize (text : List Char) : List Char :=
  compose (order (text.flatMap (parts depth)))

end JobWatch.Text.Composition
