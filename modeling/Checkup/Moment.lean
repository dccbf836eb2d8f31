import Checkup.Decimal.Shortest

/-!
Points in time of the civil calendar: dates, and moments with a clock time and possibly an offset
from universal time.

`Date.ordinal` numbers the days from 1 January of year 1; `Date.ofOrdinal` goes back. A moment
prints as `2025-01-01T00:00:00+00:00`, with six digits of microseconds only where there are any and
no offset where none is known.
-/

namespace Checkup

/-! ### Dates -/

/-- A day of the civil calendar, year 1 to 9999. -/
structure Date where
  year : Nat
  month : Nat
  day : Nat
  deriving DecidableEq, Repr

/-- Leap years come every four years, but not with the century unless it is the fourth. -/
def isLeap (year : Nat) : Bool := year % 4 == 0 && (year % 100 != 0 || year % 400 == 0)

/-- The length of a month. -/
def daysInMonth (year month : Nat) : Nat :=
  if month = 2 then (if isLeap year then 29 else 28)
  else if month = 4 ∨ month = 6 ∨ month = 9 ∨ month = 11 then 30
  else 31

def daysBeforeMonth (year month : Nat) : Nat :=
  (List.range (month - 1)).foldl (fun days m => days + daysInMonth year (m + 1)) 0

def daysBeforeYear (year : Nat) : Nat :=
  let y := year - 1
  y * 365 + y / 4 - y / 100 + y / 400

namespace Date

def lastYear : Nat := 9999

/-- The number of a day, 1 January of year 1 being 1. -/
def ordinal (d : Date) : Nat :=
  daysBeforeYear d.year + daysBeforeMonth d.year d.month + d.day

/-- The month and day of the `n`th day of a year, counted from 0, `month` being the first month to
try. -/
def monthOf (year : Nat) : (months month n : Nat) → Nat × Nat
  | 0, month, n => (month, n + 1)
  | months + 1, month, n =>
    if n < daysInMonth year month then (month, n + 1)
    else monthOf year months (month + 1) (n - daysInMonth year month)

/-- The day with a number; `none` outside the calendar. The year is guessed from the mean length
of a year, which is at most one too large. -/
def ofOrdinal? (n : Int) : Option Date :=
  if n < 1 then none
  else
    let days := n.toNat - 1
    let guess := days * 400 / 146097 + 1
    let year := if days < daysBeforeYear guess then guess - 1
      else if daysBeforeYear (guess + 1) ≤ days then guess + 1 else guess
    if lastYear < year then none
    else
      let (month, day) := monthOf year 11 1 (days - daysBeforeYear year)
      some ⟨year, month, day⟩

/-- What is wrong with the parts of a date, the first part first. -/
def issue? (d : Date) : Option String :=
  if d.year < 1 ∨ lastYear < d.year then some s!"year {d.year} is out of range"
  else if d.month < 1 ∨ 12 < d.month then some "month must be in 1..12"
  else if d.day < 1 ∨ daysInMonth d.year d.month < d.day then
    some "day is out of range for month"
  else none

/-- A date as `2025-01-01`. -/
def text (d : Date) : String :=
  Decimal.padLeft 4 (toString d.year) ++ "-" ++ Decimal.padLeft 2 (toString d.month) ++ "-" ++
    Decimal.padLeft 2 (toString d.day)

end Date

/-! ### Moments -/

/-- A date with a time of day and, if known, the offset from universal time in seconds. -/
structure Moment where
  date : Date
  hour : Nat := 0
  minute : Nat := 0
  second : Nat := 0
  microsecond : Nat := 0
  offset : Option Int := none
  deriving DecidableEq, Repr

namespace Moment

def perSecond : Nat := 1000000

def perDay : Nat := 86400 * perSecond

/-- What is wrong with the parts of a time of day, the first part first. -/
def timeIssue? (hour minute second microsecond : Int) : Option String :=
  if hour < 0 ∨ 23 < hour then some "hour must be in 0..23"
  else if minute < 0 ∨ 59 < minute then some "minute must be in 0..59"
  else if second < 0 ∨ 59 < second then some "second must be in 0..59"
  else if microsecond < 0 ∨ 999999 < microsecond then some "microsecond must be in 0..999999"
  else none

/-- Microseconds since the start of the calendar, on the moment's own clock. -/
def ticks (m : Moment) : Nat :=
  m.date.ordinal * perDay + ((m.hour * 60 + m.minute) * 60 + m.second) * perSecond + m.microsecond

/-- The moment with a count of microseconds and an offset; `none` outside the calendar. -/
def ofTicks? (ticks : Int) (offset : Option Int) : Option Moment :=
  (Date.ofOrdinal? (ticks / perDay)).map fun date =>
    let rest := (ticks % perDay).toNat
    let seconds := rest / perSecond
    { date, hour := seconds / 3600, minute := seconds / 60 % 60, second := seconds % 60
      microsecond := rest % perSecond, offset }

/-- The moment some microseconds later or earlier on the same clock. -/
def shift? (m : Moment) (microseconds : Int) : Option Moment :=
  ofTicks? (m.ticks + microseconds) m.offset

/-- An offset as `+05:30`, with seconds only where there are any. -/
def offsetText (seconds : Int) : String :=
  let size := seconds.natAbs
  let two (n : Nat) := Decimal.padLeft 2 (toString n)
  (if seconds < 0 then "-" else "+") ++ two (size / 3600) ++ ":" ++ two (size / 60 % 60) ++
    (if size % 60 = 0 then "" else ":" ++ two (size % 60))

/-- A moment with a separator between date and time. -/
def textWith (separator : String) (m : Moment) : String :=
  let two (n : Nat) := Decimal.padLeft 2 (toString n)
  m.date.text ++ separator ++ two m.hour ++ ":" ++ two m.minute ++ ":" ++ two m.second ++
    (if m.microsecond = 0 then "" else "." ++ Decimal.padLeft 6 (toString m.microsecond)) ++
    (m.offset.elim "" offsetText)

/-- A moment as `2025-01-01T00:00:00+00:00`. -/
def isoText (m : Moment) : String := m.textWith "T"

end Moment

end Checkup
