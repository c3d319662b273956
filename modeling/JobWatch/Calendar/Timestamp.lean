import JobWatch.Calendar.Instant
import JobWatch.Number.Decimal
import JobWatch.Text.Blank

/-! Instants are written in universal time, and read from local time with its distance to universal
time. The reader is generous with blanks, with the widths of numbers and with the separators.
-/

namespace JobWatch.Calendar.Timestamp

open JobWatch.Number JobWatch.Text

-----------------------------------------------------------------------
-- Writing
-----------------------------------------------------------------------

/-- A number with at least so many digits. -/
def padded (width value : Nat) : List Char :=
  let digits := natural value
  List.replicate (width - digits.length) '0' ++ digits

/-- A year: four digits, and a sign before a year that is not between 0 and 9999. -/
def yearText (year : Int) : List Char :=
  if year < 0 then '-' :: padded 4 year.natAbs
  else if year ≤ 9999 then padded 4 year.natAbs
  else '+' :: padded 4 year.natAbs

/-- Year, month and day with hyphens between them. -/
def dateText (date : Date) : List Char :=
  yearText date.year ++ '-' :: padded 2 date.month ++ '-' :: padded 2 date.day

/-- Hour, minute and second with colons between them. A leap second is the sixtieth. -/
def timeText (instant : Instant) : List Char :=
  let second := instant.second % 60 + instant.nanos / nanosPerSecond
  padded 2 (instant.second / 3600)
    ++ ':' :: padded 2 (instant.second / 60 % 60)
    ++ ':' :: padded 2 second

/-- A fraction of a second in as many digits as it needs of none, three, six and nine. -/
def fractionText (instant : Instant) : List Char :=
  let nanos := instant.nanos % nanosPerSecond
  if nanos = 0 then []
  else if nanos % 1000000 = 0 then '.' :: padded 3 (nanos / 1000000)
  else if nanos % 1000 = 0 then '.' :: padded 6 (nanos / 1000)
  else '.' :: padded 9 nanos

/-- An instant to send. -/
def text (instant : Instant) : String :=
  String.ofList
    (dateText instant.date ++ 'T' :: timeText instant ++ fractionText instant ++ ['Z'])

/-- An instant to show: day and time without the fraction. -/
def display (instant : Instant) : String :=
  String.ofList (dateText instant.date ++ ' ' :: timeText instant)

-----------------------------------------------------------------------
-- Reading
-----------------------------------------------------------------------

/-- What reads the start of a text and leaves the rest. -/
abbrev Scan := StateT (List Char) Option

/-- Blanks, if there are any. -/
def blanks : Scan Unit :=
  modify trimStart

/-- One character that passes a test. -/
def character (test : Char → Bool) : Scan Char := do
  match ← get with
  | c :: rest =>
    if test c then
      set rest
      return c
    else failure
  | [] => failure

/-- One given character. -/
def separator (c : Char) : Scan Unit := do
  discard (character (· == c))

/-- As many digits as there are, but at least one and at most so many. -/
def digits (most : Option Nat) : Scan (List (Fin 10)) := do
  let run := (← get).map digit? |>.takeWhile Option.isSome |>.filterMap id
  let found := match most with
    | some most => run.take most
    | none => run
  modify (List.drop found.length)
  if found.isEmpty then failure else return found

/-- A number of at most so many digits, behind blanks. -/
def number (most : Nat) : Scan Nat := do
  blanks
  return ofDigits (← digits (some most))

/-- A year, behind blanks: at most four digits, or a sign and any number of digits. -/
def year : Scan Int := do
  blanks
  match ← get with
  | '-' :: rest =>
    set rest
    return -(ofDigits (← digits none) : Int)
  | '+' :: rest =>
    set rest
    return (ofDigits (← digits none) : Int)
  | _ => return (ofDigits (← digits (some 4)) : Int)

/-- Year, month and day. -/
def date : Scan Date := do
  let year ← year
  blanks
  separator '-'
  let month ← number 2
  blanks
  separator '-'
  let day ← number 2
  match Date.of? year month day with
  | some date => return date
  | none => failure

/-- A number of nanoseconds, if there is a fraction. Digits behind the ninth count for nothing. -/
def fraction : Scan Nat := do
  match ← get with
  | '.' :: rest =>
    set rest
    let all ← digits none
    let kept := all.take 9
    return ofDigits kept * Nat.pow 10 (9 - kept.length)
  | _ => return 0

/-- The second of the day and the nanoseconds. The sixtieth second is a leap second. -/
def time : Scan (Nat × Nat) := do
  let hour ← number 2
  blanks
  separator ':'
  let minute ← number 2
  blanks
  separator ':'
  let second ← number 2
  let nanos ← fraction
  if 23 < hour ∨ 59 < minute ∨ 60 < second then failure
  else if second = 60 then return (3600 * hour + 60 * minute + 59, nanosPerSecond + nanos)
  else return (3600 * hour + 60 * minute + second, nanos)

/-- Two digits, as a number. -/
def twoDigits : Scan Nat := do
  let tens ← character fun c => (digit? c).isSome
  let ones ← character fun c => (digit? c).isSome
  return ofDigits ([tens, ones].filterMap digit?)

/-- How many seconds local time is ahead of universal time: nothing for the letter Z, or a sign,
hours and minutes, which colons and blanks may separate.
-/
def distance : Scan Int := do
  let sign ← character fun c => ['Z', 'z', '+', '-', '\u2212'].contains c
  if sign = 'Z' ∨ sign = 'z' then return 0
  else
    let hours ← twoDigits
    modify (List.dropWhile fun c => c == ':' || isBlank c)
    let minutes ← twoDigits
    let seconds := 3600 * hours + 60 * minutes
    if 59 < minutes ∨ 86400 ≤ seconds then failure
    else return if sign = '+' then seconds else -seconds

/-- The zone: the letters UTC, or the distance to universal time. -/
def zone : Scan Int := do
  match ← get with
  | a :: b :: c :: rest =>
    if [a, b, c].map Char.toUpper = ['U', 'T', 'C'] then
      set rest
      return 0
    else distance
  | _ => distance

/-- A day, one separator, a time and a zone. -/
def instant : Scan Instant := do
  let date ← date
  discard (character fun c => ['t', 'T', ' '].contains c)
  let (second, nanos) ← time
  blanks
  let ahead ← zone
  match Instant.ofLocal? date second nanos ahead with
  | some instant => return instant
  | none => failure

/-- The instant that a text stands for. Only blanks may follow it. -/
def read? (text : String) : Option Instant :=
  match instant.run text.toList with
  | some (instant, rest) => if (trimStart rest).isEmpty then some instant else none
  | none => none

end JobWatch.Calendar.Timestamp
