/-! Days of the proleptic Gregorian calendar, in astronomical year numbering. -/

namespace JobWatch.Calendar

/-- Every fourth year is a leap year, but of the centuries only every fourth. -/
def isLeapYear (year : Int) : Bool :=
  year % 4 == 0 && (year % 100 != 0 || year % 400 == 0)

/-- The number of days in a month of a year. -/
def daysInMonth (year : Int) (month : Nat) : Nat :=
  if month = 2 then (if isLeapYear year then 29 else 28)
  else if month = 4 ∨ month = 6 ∨ month = 9 ∨ month = 11 then 30
  else 31

/-- A day. The range of years is the one in which every day has a number of seconds since 1970
that is kept with room to spare.
-/
structure Date where
  year : Int
  month : Nat
  day : Nat
  year_bounds : -262143 ≤ year ∧ year ≤ 262142
  month_bounds : 1 ≤ month ∧ month ≤ 12
  day_bounds : 1 ≤ day ∧ day ≤ daysInMonth year month
  deriving DecidableEq, Repr

namespace Date

/-- The day of a year, month and day of the month, if there is one. -/
def of? (year : Int) (month day : Nat) : Option Date :=
  if hy : -262143 ≤ year ∧ year ≤ 262142 then
    if hm : 1 ≤ month ∧ month ≤ 12 then
      if hd : 1 ≤ day ∧ day ≤ daysInMonth year month then some ⟨year, month, day, hy, hm, hd⟩
      else none
    else none
  else none

/-- The day after: in the same month, in the next one, or in the next year. -/
def next? (date : Date) : Option Date :=
  of? date.year date.month (date.day + 1)
    <|> of? date.year (date.month + 1) 1
    <|> of? (date.year + 1) 1 1

/-- The day before: in the same month, in the last one, or in the last year. -/
def previous? (date : Date) : Option Date :=
  of? date.year date.month (date.day - 1)
    <|> of? date.year (date.month - 1) (daysInMonth date.year (date.month - 1))
    <|> of? (date.year - 1) 12 31

/-- The number of days from the first day of the year 1 to the first day of a year. -/
def daysBeforeYear (year : Int) : Int :=
  let past := year - 1
  365 * past + past / 4 - past / 100 + past / 400

/-- The number of days in the first months of a year. -/
def daysInMonths (year : Int) : Nat → Nat
  | 0 => 0
  | month + 1 => daysInMonths year month + daysInMonth year (month + 1)

/-- The number of days from the first day of the year 1. -/
def number (date : Date) : Int :=
  daysBeforeYear date.year + (daysInMonths date.year (date.month - 1) + (date.day - 1) : Nat)

end Date

end JobWatch.Calendar
