import BondQuery.Error

/- Days of the Gregorian calendar, counted from the first day of year one, which is day 1. A
   day is given by month and day of month or by week and day of week. -/
namespace BondQuery.Calendar

def isLeap (year : Nat) : Bool :=
  year % 4 = 0 && (year % 100 ≠ 0 || year % 400 = 0)

def monthLength (year month : Nat) : Nat :=
  if month = 2 then if isLeap year then 29 else 28
  else if month = 4 ∨ month = 6 ∨ month = 9 ∨ month = 11 then 30
  else 31

def daysBeforeYear (year : Nat) : Nat :=
  let past := year - 1
  past * 365 + past / 4 - past / 100 + past / 400

def daysBeforeMonth (year month : Nat) : Nat :=
  (List.range' 1 (month - 1)).foldl (fun days m => days + monthLength year m) 0

def lastYear : Nat := 9999

inductive DayName where
  | ofMonth (year month day : Nat)
  | ofWeek (year week day : Nat)
  deriving DecidableEq, Repr

def weekday (ordinal : Nat) : Nat :=
  (ordinal + 6) % 7

/-- Week 53 exists in years that begin on a Thursday, and in leap years that begin on a
    Wednesday. -/
def weekExists (year week : Nat) : Bool :=
  let first := weekday (daysBeforeYear year + 1)
  (1 ≤ week && week ≤ 52) || (week = 53 && (first = 3 || (first = 2 && isLeap year)))

def firstMonday (year : Nat) : Nat :=
  let first := daysBeforeYear year + 1
  if weekday first ≤ 3 then first - weekday first else first + 7 - weekday first

/-- The count of a day, if its year, month and day exist. Weeks belong to a year from one on. -/
def DayName.ordinal : DayName → Except CalendarFault Nat
  | ofMonth year month day =>
    if year = 0 then .error (.year 0)
    else if month < 1 ∨ 12 < month then .error .month
    else if day < 1 ∨ monthLength year month < day then .error .day
    else .ok (daysBeforeYear year + daysBeforeMonth year month + day)
  | ofWeek year week day =>
    let ordinal := firstMonday year + 7 * (week - 1) + day - 1
    if year = 0 then .error .month
    else if daysBeforeYear (lastYear + 1) < ordinal then .error (.year (lastYear + 1))
    else .ok ordinal

end BondQuery.Calendar
