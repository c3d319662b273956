import JobWatch.Domain.JoiningTable
import JobWatch.Text.Composition

/-! Two invisible characters keep their neighbours apart or together. They are only allowed where
that can be seen: behind a mark that drops a vowel, or in the case of the one that keeps apart,
between two letters that would join.
-/

namespace JobWatch.Domain

/-- All characters that join. -/
def joining : Text.CodeTable :=
  Text.CodeTable.ofLines joiningTable

/-- The character joins in one of these ways. -/
def joins (ways : List Char) (c : Char) : Bool :=
  match joining.note? c with
  | some ['=', way] => ways.contains way
  | _ => false

/-- The first character that is not passed over joins in one of these ways. -/
def firstJoins (ways text : List Char) : Bool :=
  ((text.dropWhile (joins ['t'])).head?).any (joins ways)

/-- The combining class of the marks that drop a vowel. -/
def vowelDropper : Nat :=
  9

/-- Both characters only stand where they are allowed, behind some text in reverse. -/
def joinersFit (before : List Char) : List Char → Bool
  | [] => true
  | c :: rest =>
    let behindDropper :=
      (before.head?).any fun last => Text.Composition.combiningClass last == vowelDropper
    let fits :=
      if c = '\u200c' then
        behindDropper || firstJoins ['l', 'd'] before && firstJoins ['r', 'd'] rest
      else if c = '\u200d' then behindDropper
      else true
    fits && joinersFit (c :: before) rest

end JobWatch.Domain
