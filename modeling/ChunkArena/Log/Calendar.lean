/-!
Days of the calendar, as far as time formats ask for them: the number of a day in its year, the day
of the week, and the weeks of a year. Years are those of the common era, from 1 on.
-/

namespace ChunkArena

structure Date where
  year : Nat
  month : Nat
  day : Nat

namespace Date

def isLeapYear (year : Nat) : Bool := year % 4 = 0 && (year % 100 ≠ 0 || year % 400 = 0)

def yearLength (year : Nat) : Nat := if isLeapYear year then 366 else 365

def monthLengths (year : Nat) : List Nat :=
  [31, if isLeapYear year then 29 else 28, 31, 30, 31, 30, 31, 31, 30, 31, 30, 31]

def dayOfYear (date : Date) : Nat :=
  ((monthLengths date.year).take (date.month - 1)).foldr Nat.add 0 + date.day

def daysBefore (year : Nat) : Nat :=
  365 * (year - 1) + (year - 1) / 4 - (year - 1) / 100 + (year - 1) / 400

def dayNumber (date : Date) : Nat := daysBefore date.year + date.dayOfYear - 1

/-- The number of days since a Monday, which the first day of the year 1 was. -/
def sinceMonday (date : Date) : Nat := date.dayNumber % 7

def sinceSunday (date : Date) : Nat := (date.sinceMonday + 1) % 7

/-- The number of weeks of the year that have started, if a week starts on the day from which
`since` counts; the days before the first such day are in week 0. -/
def startedWeeks (date : Date) (since : Nat) : Nat := (date.dayOfYear + 6 - since) / 7

/-- The year and number of the week, which runs from Monday to Sunday and belongs to the year that
its Thursday is in. -/
def week (date : Date) : Nat × Nat :=
  let past := date.sinceMonday
  let thursday := date.dayOfYear + 3
  if thursday ≤ past then
    (date.year - 1, (yearLength (date.year - 1) + thursday - past - 1) / 7 + 1)
  else if yearLength date.year < thursday - past then (date.year + 1, 1)
  else (date.year, (thursday - past - 1) / 7 + 1)

theorem sinceMonday_lt (date : Date) : date.sinceMonday < 7 := Nat.mod_lt _ (by decide)

theorem sinceSunday_lt (date : Date) : date.sinceSunday < 7 := Nat.mod_lt _ (by decide)

end Date

end ChunkArena
