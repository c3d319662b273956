import JobWatch.Output.Template

/-! A router sends every entry of a batch to the channel of its level, or marks batches instead.
-/

namespace JobWatch.Output

/-- What goes to a channel. -/
inductive ChannelEvent where
  | output (line : String)
  | warning (line : String)
  | error (line : String)
  | progress
  deriving DecidableEq, Repr

/-- What a router shows: marks instead of lines, warnings and errors only, lines by a template. -/
structure Router where
  progress : Bool
  quiet : Bool
  template : Option Template
  deriving DecidableEq, Repr

namespace Router

/-- The line of an entry. -/
def line (router : Router) (entry : Entry) : String :=
  match router.template with
  | some template => template.render entry
  | none => entry.log

/-- The event of an entry, unless it is normal output that is not to be shown. -/
def event? (router : Router) (entry : Entry) : Option ChannelEvent :=
  match entry.level with
  | .warn => some (.warning (router.line entry))
  | .error => some (.error (router.line entry))
  | .normal | .verbose | .debug | .other =>
    if router.quiet then none else some (.output (router.line entry))

/-- The events of a batch. A batch with no entries has no mark. -/
def events (router : Router) (entries : List Entry) : List ChannelEvent :=
  if router.progress then
    if entries.isEmpty then [] else [.progress]
  else entries.filterMap router.event?

end Router

end JobWatch.Output
