import JobWatch.Calendar.Date

/-! Instants of universal time, to the nanosecond. A leap second is kept as the second before it
with a fraction of one second or more.
-/

namespace JobWatch.Calendar

/-- The nanoseconds of a second. -/
def nanosPerSecond : Nat :=
  1000000000

/-- An instant: its day, the second of the day, and the nanoseconds since then. -/
structure Instant where
  date : Date
  second : Nat
  nanos : Nat
  second_lt : second < 86400
  nanos_lt : nanos < 2 * nanosPerSecond
  leap_last : nanosPerSecond ≤ nanos → second % 60 = 59
  deriving DecidableEq, Repr

namespace Instant

/-- The instant of a day, a second of the day and nanoseconds, if there is one. -/
def of? (date : Date) (second nanos : Nat) : Option Instant :=
  if hs : second < 86400 then
    if hn : nanos < 2 * nanosPerSecond then
      if hl : nanosPerSecond ≤ nanos → second % 60 = 59 then
        some ⟨date, second, nanos, hs, hn, hl⟩
      else none
    else none
  else none

/-- The instant at which clocks that are ahead of universal time by so many seconds, and by less
than a day, show this day and time.
-/
def ofLocal? (date : Date) (second nanos : Nat) (ahead : Int) : Option Instant :=
  let universal : Int := second - ahead
  if universal < 0 then
    date.previous?.bind fun date => of? date (universal + 86400).toNat nanos
  else if universal < 86400 then of? date universal.toNat nanos
  else date.next?.bind fun date => of? date (universal - 86400).toNat nanos

/-- The instant lies in a leap second. -/
def isLeap (instant : Instant) : Bool :=
  nanosPerSecond ≤ instant.nanos

/-- The nanoseconds from one instant to another. A leap second inside the day counts if one of the
two instants lies in it; others are not known.
-/
def since (later earlier : Instant) : Int :=
  let days := later.date.number - earlier.date.number
  let leap : Int :=
    if earlier.second < later.second ∧ earlier.isLeap then 1
    else if later.second < earlier.second ∧ later.isLeap then -1
    else 0
  let seconds : Int := 86400 * days + ((later.second : Int) - earlier.second) + leap
  seconds * nanosPerSecond + ((later.nanos : Int) - earlier.nanos)

end Instant

end JobWatch.Calendar
