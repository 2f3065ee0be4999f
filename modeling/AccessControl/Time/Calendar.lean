/-!
# Calendar dates

Dates of the Gregorian calendar, carried back to the year zero, and the days between them and the
start of the Unix epoch.
-/

namespace AccessControl

/-- Whether a year has a 29th of February. -/
def isLeapYear (year : Nat) : Bool := year % 4 = 0 ∧ (year % 100 ≠ 0 ∨ year % 400 = 0)

/-- How many days a month has; none if there is no such month. -/
def daysInMonth (year month : Nat) : Nat :=
  match month with
  | 1 | 3 | 5 | 7 | 8 | 10 | 12 => 31
  | 4 | 6 | 9 | 11 => 30
  | 2 => if isLeapYear year then 29 else 28
  | _ => 0

/-- Whether a year, month and day form a date. -/
def isDate (year month day : Nat) : Bool := 1 ≤ day ∧ day ≤ daysInMonth year month

/-- The days before a year, counted from the start of the year zero. -/
def daysBeforeYear (year : Nat) : Nat :=
  if year = 0 then 0 else 365 * year + (year - 1) / 4 - (year - 1) / 100 + (year - 1) / 400 + 1

/-- The days before a month in its year. -/
def daysBeforeMonth (year month : Nat) : Nat :=
  ((List.range month).map (daysInMonth year)).foldr (· + ·) 0

/-- The days from the start of the Unix epoch to a date. -/
def dayNumber (year month day : Nat) : Int :=
  (daysBeforeYear year + daysBeforeMonth year month + day : Nat) - 719529

end AccessControl
