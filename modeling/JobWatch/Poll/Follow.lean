import JobWatch.Output.Cursor
import JobWatch.Output.Decompaction
import JobWatch.Poll.Loop

/-! Following the output of an execution: each batch is delivered line by line, the next query
starts where the batch ended, and the batch that is done is the last.
-/

namespace JobWatch.Poll

/-- Where following starts: at the first line, or so many lines before the end. -/
inductive Start where
  | restart
  | tail (lines : UInt32)
  deriving DecidableEq, Repr

/-- A query for output: from a cursor on, or the last lines. -/
inductive OutputQuery where
  | after (cursor : Output.Cursor)
  | tail (lines : UInt32)
  deriving DecidableEq, Repr

/-- The query to start with. -/
def Start.query (start : Start) (maxLines : UInt32) : OutputQuery :=
  match start with
  | .restart => .after (.start maxLines)
  | .tail lines => .tail lines

/-- The loop that follows an output, where `deliver` tells what becomes of the lines of a batch.
Its state is the next query.
-/
def following (maxLines : UInt32) (deliver : List Output.Entry → List Event)
    : Loop OutputQuery OutputQuery Output.Batch Event where
  request query := query
  events _ batch := deliver (Output.decompact batch.entries)
  verdict? _ batch := if batch.isDone then some batch.succeeded else none
  advance _ batch := .after (.after batch maxLines)

/-- The run that follows an output from its start. -/
def follow (service : Service OutputQuery Reply Output.Batch) (start : Start)
    (maxLines : UInt32) (deliver : List Output.Entry → List Event) (replies : List Reply)
    (waits : List Bool) : Run OutputQuery Event Reply :=
  (following maxLines deliver).run service (start.query maxLines) replies waits

end JobWatch.Poll
