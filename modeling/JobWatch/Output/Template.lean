import JobWatch.Output.Entry

/-! A template is a text with placeholders for the parts of an entry. All placeholders are found
before any value is put in, so that a value is never searched for placeholders.
-/

namespace JobWatch.Output

/-- A part of an entry that a template can name. -/
inductive Placeholder where
  | time
  | level
  | log
  | user
  | node
  | command
  deriving DecidableEq, Repr

namespace Placeholder

/-- All placeholders. No name is the beginning of another. -/
def all : List Placeholder :=
  [.time, .level, .log, .user, .node, .command]

/-- The name of a placeholder, as it stands behind the percent sign. -/
def name : Placeholder → List Char
  | .time => "time".toList
  | .level => "level".toList
  | .log => "log".toList
  | .user => "user".toList
  | .node => "node".toList
  | .command => "command".toList

/-- What a placeholder stands for in an entry. A part that is absent is empty. -/
def value (entry : Entry) : Placeholder → String
  | .time => entry.time.getD ""
  | .level => entry.level.label
  | .log => entry.log
  | .user => entry.user.getD ""
  | .node => entry.node.getD ""
  | .command => entry.command.getD ""

/-- The placeholder whose name a text begins with. -/
def atStart? (text : List Char) : Option Placeholder :=
  all.find? fun placeholder => placeholder.name.isPrefixOf text

end Placeholder

/-- A piece of a template. -/
inductive Piece where
  | literal (c : Char)
  | value (placeholder : Placeholder)
  deriving DecidableEq, Repr

/-- The text of a piece for an entry. -/
def Piece.text (entry : Entry) : Piece → List Char
  | .literal c => [c]
  | .value placeholder => (placeholder.value entry).toList

/-- A text with placeholders. -/
structure Template where
  source : String
  deriving DecidableEq, Repr

namespace Template

/-- The pieces of a text. A percent sign before any other text stands for itself. -/
def pieces : List Char → List Piece
  | [] => []
  | c :: rest =>
    if c = '%' then
      match Placeholder.atStart? rest with
      | some placeholder => .value placeholder :: pieces (rest.drop placeholder.name.length)
      | none => .literal c :: pieces rest
    else .literal c :: pieces rest
termination_by text => text.length
decreasing_by
  all_goals simp only [List.length_cons, List.length_drop]; omega

/-- The text of an entry. -/
def render (template : Template) (entry : Entry) : String :=
  String.ofList ((pieces template.source.toList).flatMap (Piece.text entry))

end Template

end JobWatch.Output
