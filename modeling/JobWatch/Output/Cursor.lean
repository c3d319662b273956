import JobWatch.Output.Batch

/-! A cursor is a place in an execution's output. Its two tokens come from the server and go back
to it unchanged.
-/

namespace JobWatch.Output

/-- How many lines a query asks for when nothing is said. -/
def defaultMaxLines : UInt32 :=
  500

/-- A place in an execution's output, and how many lines to send from there. -/
structure Cursor where
  offset : Int64
  lastModified : Int64
  maxLines : UInt32
  deriving DecidableEq, Repr

namespace Cursor

/-- The place before all output. -/
def start (maxLines : UInt32) : Cursor :=
  ⟨0, 0, maxLines⟩

/-- The place right behind a batch. -/
def after (batch : Batch) (maxLines : UInt32) : Cursor :=
  ⟨batch.offset, batch.lastModified, maxLines⟩

instance : Inhabited Cursor :=
  ⟨start defaultMaxLines⟩

end Cursor

end JobWatch.Output
