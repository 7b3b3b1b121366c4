/-
**The Gregorian calendar.**

Days are counted from the first of January of the year 1, which is day 0; the calendar is extended
backwards to that day. The last day is the 31st of December 9999.

* `Calendar.dayNumber` — the number of a date.
* `Calendar.dateOf` — the date of a day number.
-/

namespace Roster.Calendar

/-- A leap year has 366 days. -/
def isLeap (year : Nat) : Bool :=
  year % 4 == 0 && (year % 100 != 0 || year % 400 == 0)

/-- The number of days in a month of a year; 0 for a month that does not exist. -/
def daysInMonth (year month : Nat) : Nat :=
  match month with
  | 1 | 3 | 5 | 7 | 8 | 10 | 12 => 31
  | 4 | 6 | 9 | 11 => 30
  | 2 => if isLeap year then 29 else 28
  | _ => 0

/-- The number of days before the first of January of a year, which is at least 1. -/
def daysBeforeYear (year : Nat) : Nat :=
  let past := year - 1
  past * 365 + past / 4 - past / 100 + past / 400

/-- The number of days of a year before the first of a month. -/
def daysBeforeMonth (year month : Nat) : Nat :=
  (List.range (month - 1)).foldl (fun days earlier => days + daysInMonth year (earlier + 1)) 0

/-- The date exists: its year has four digits, its month and day are in range. -/
def isDate (year month day : Nat) : Bool :=
  decide (1 ≤ year ∧ year ≤ 9999 ∧ 1 ≤ day ∧ day ≤ daysInMonth year month)

/-- The number of a date, counted from the first of January of the year 1. -/
def dayNumber (year month day : Nat) : Nat :=
  daysBeforeYear year + daysBeforeMonth year month + (day - 1)

/-- The number of days from the year 1 up to and including the year 9999. -/
def dayCount : Nat := 3652059

/-- The month and day of a day of the year. -/
def monthDay (year : Nat) : (month dayOfYear : Nat) → (months : Nat) → Nat × Nat
  | month, dayOfYear, 0 => (month, dayOfYear + 1)
  | month, dayOfYear, months + 1 =>
    let length := daysInMonth year month
    if dayOfYear < length then (month, dayOfYear + 1)
    else monthDay year (month + 1) (dayOfYear - length) months

/-- The year, month and day of a day number: whole periods of 400, 100, 4 and 1 years are taken off
in turn; the last day of a period belongs to its last year. -/
def dateOf (number : Nat) : Nat × Nat × Nat :=
  let fourHundreds := number / 146097
  let inFourHundred := number % 146097
  let hundreds := min 3 (inFourHundred / 36524)
  let inHundred := inFourHundred - hundreds * 36524
  let fours := inHundred / 1461
  let inFour := inHundred % 1461
  let ones := min 3 (inFour / 365)
  let dayOfYear := inFour - ones * 365
  let year := fourHundreds * 400 + hundreds * 100 + fours * 4 + ones + 1
  let (month, day) := monthDay year 1 dayOfYear 12
  (year, month, day)

end Roster.Calendar
