import JobWatch.Export.Status
import JobWatch.Poll.Loop

/-! Tracking an export until it is ready: the percentage is told whenever it is higher than all
before it. An export cannot fail, so an end that is no error is a success.
-/

namespace JobWatch.Poll

/-- The loop that tracks the export of a token. Its state is the highest percentage so far. -/
def tracking (token : String) : Loop UInt32 String Export.Status UInt32 where
  request _ := token
  events highest status := if highest < status.percentage then [status.percentage] else []
  verdict? _ status := if status.ready then some true else none
  advance highest status := if highest < status.percentage then status.percentage else highest

/-- The run that tracks an export from its first status. -/
def track (service : Service String Reply Export.Status) (initial : Export.Status)
    (replies : List Reply) (waits : List Bool) : Run String UInt32 Reply :=
  (tracking initial.token).run service initial.percentage replies waits

end JobWatch.Poll
