import BondQuery.Calendar.Day
import BondQuery.Number.Double

/- Reading dates and times, and the moment they denote in milliseconds. Dates are written with
   or without hyphens, times with or without colons, and an offset may follow; without one the
   time is universal. -/
namespace BondQuery.Calendar

def number? (cs : List Char) : Option Nat :=
  if cs.all Char.isDigit then some (Nat.ofDigitChars 10 cs 0) else none

def field? (width : Nat) (cs : List Char) : Option (Nat × List Char) :=
  if width ≤ cs.length then (number? (cs.take width)).map (·, cs.drop width) else none

def hyphen? (present : Bool) (cs : List Char) : Option (List Char) :=
  if present then
    match cs with
    | '-' :: rest => some rest
    | _ => none
  else some cs

def dateLength (cs : List Char) : Nat :=
  let digitAt (i : Nat) : Bool := (cs[i]?.map Char.isDigit).getD false
  if cs.length = 7 then 7
  else if cs[4]? = some '-' then
    if cs[5]? = some 'W' then
      if cs[8]? = some '-' && !digitAt 10 then 10 else 8
    else 10
  else if cs[4]? = some 'W' then
    let digits := 7 + ((cs.drop 7).takeWhile Char.isDigit).length
    if digits < 9 then digits else if digits % 2 = 0 then 7 else 8
  else 8

def readDay? (cs : List Char) : Option DayName := do
  let (year, rest) ← field? 4 cs
  let hyphens := rest.head? = some '-'
  let rest ← hyphen? hyphens rest
  match rest with
  | 'W' :: rest =>
    let (week, rest) ← field? 2 rest
    let day ←
      -- a week without a day stands for its Monday
      if rest = [] then some 1
      else do
        let (day, _) ← field? 1 (← hyphen? hyphens rest)
        some day
    if weekExists year week && 1 ≤ day && day ≤ 7 then some (.ofWeek year week day) else none
  | _ =>
    let (month, rest) ← field? 2 rest
    let (day, _) ← field? 2 (← hyphen? hyphens rest)
    return .ofMonth year month day

/-- A time of day, or the size of an offset, before any check of its ranges. `leftover` says
    that text behind the time was not read. -/
structure Clock where
  hour : Nat
  minute : Nat
  second : Nat
  microsecond : Nat
  leftover : Bool
  deriving DecidableEq, Repr

namespace Clock

def ofUnits (units : List Nat) (microsecond : Nat) (leftover : Bool) : Clock :=
  ⟨units.getD 0 0, units.getD 1 0, units.getD 2 0, microsecond, leftover⟩

def isLeftover (cs : List Char) : Bool :=
  cs.head?.any (· ≠ '\x00')

def readFraction? (units : List Nat) (cs : List Char) : Option Clock := do
  let digits := cs.take 6
  let fraction ← number? digits
  return .ofUnits units (fraction * Nat.pow 10 (6 - digits.length))
    (isLeftover ((cs.drop 6).dropWhile Char.isDigit))

/-- Reads up to `due` units of two digits behind those already read. What stands behind the
    hours tells whether colons separate the units; a point or comma begins a fraction, and so
    does whatever stands behind the seconds. A single character of ASCII at the end is not
    read. -/
def readUnits? (due : Nat) (colons : Bool) (units : List Nat) (cs : List Char) : Option Clock :=
  match due with
  | 0 => readFraction? units cs
  | due + 1 => do
    let (value, rest) ← field? 2 cs
    let units := units ++ [value]
    let colons := if units.length = 1 then rest.head? = some ':' else colons
    if rest.length ≤ 1 && rest.all (·.toNat < 0x80) then
      return .ofUnits units 0 (isLeftover rest)
    else
      match rest with
      | [] => none
      | c :: behind =>
        if colons && c == ':' then readUnits? due colons units behind
        else if c == '.' || c == ',' then readFraction? units behind
        else if colons then none
        else readUnits? due colons units rest

def read? (cs : List Char) : Option Clock :=
  readUnits? 3 false [] cs

def seconds (c : Clock) : Nat :=
  (c.hour * 60 + c.minute) * 60 + c.second

def check (c : Clock) : Except CalendarFault Unit :=
  if 23 < c.hour then .error .hour
  else if 59 < c.minute then .error .minute
  else if 59 < c.second then .error .second
  else .ok ()

end Clock

/-- Reads a time and its offset in microseconds. Text left over behind the time is passed over
    when an offset follows. An offset of less than a second is none. -/
def readTime? (cs : List Char) : Option (Clock × Int) := do
  let isSign (c : Char) : Bool := c == '+' || c == '-'
  let clock ← Clock.read? (cs.takeWhile (!isSign ·))
  match cs.dropWhile (!isSign ·) with
  | [] => if clock.leftover then none else return (clock, 0)
  | sign :: rest =>
    let offset ← Clock.read? rest
    if offset.leftover then none
    else
      let size : Int := if offset.seconds = 0 then 0 else offset.seconds * 1000000 + offset.microsecond
      return (clock, if sign == '-' then -size else size)

def readParts? (cs : List Char) : Option (DayName × Clock × Int) := do
  if cs.length < 7 then none
  else
    let length := dateLength cs
    let day ← readDay? (cs.take length)
    match cs.drop length with
    | [] => return (day, .ofUnits [] 0 false, 0)
    | _ :: time =>
      let (clock, offset) ← readTime? time
      return (day, clock, offset)

def epochDay : Nat :=
  daysBeforeYear 1970 + 1

def microsecondsPerDay : Int := 86400000000

def microseconds (ordinal : Nat) (clock : Clock) (offset : Int) : Int :=
  ((ordinal : Int) - epochDay) * microsecondsPerDay + clock.seconds * 1000000 + clock.microsecond - offset

/-- Milliseconds of a number of microseconds: the seconds as a 64-bit number, times a thousand,
    without the fraction. -/
def toMillis (microseconds : Int) : Int :=
  let seconds := Double.ofRatio (microseconds < 0) microseconds.natAbs 1000000
  ((seconds.scale 1000).truncate?).getD 0

/-- The milliseconds since the epoch of a date or date-time. An offset has to be less than a
    day, and is checked before the date. -/
def readMillis (cs : List Char) : Except CalendarFault Int :=
  match readParts? cs with
  | none => .error (.unreadable (String.ofList cs))
  | some (day, clock, offset) => do
    if microsecondsPerDay ≤ offset.natAbs then throw (.offset offset)
    let ordinal ← day.ordinal
    clock.check
    return toMillis (microseconds ordinal clock offset)

end BondQuery.Calendar
