import Checkup.Fault

/-!
Moments that are given by their parts.

The parts may be any whole numbers; `Moment.ofParts` refuses those that name no moment. The offset
is looked at first, then the parts from the year on.
-/

namespace Checkup.Moment

/-- An offset from universal time must be less than a day. -/
def checkOffset (seconds : Int) : Except Fault Unit :=
  if seconds.natAbs < 86400 then .ok ()
  else .error (.because .valueError ("offset must be a timedelta strictly between " ++
    "-timedelta(hours=24) and timedelta(hours=24), not " ++ Value.shownSpan seconds ++ "."))

/-- What is wrong with the parts of a date. -/
def dateIssue? (year month day : Int) : Option String :=
  if year < 1 then some s!"year {year} is out of range"
  else Date.issue? ⟨year.toNat, month.toNat, day.toNat⟩

/-- The moment with these parts. -/
def ofParts (year month day hour minute second microsecond : Int) (offset : Option Int) :
    Except Fault Moment := do
  offset.forM checkOffset
  match dateIssue? year month day <|> timeIssue? hour minute second microsecond with
  | some issue => throw (.because .valueError issue)
  | none =>
    return { date := ⟨year.toNat, month.toNat, day.toNat⟩, hour := hour.toNat
             minute := minute.toNat, second := second.toNat, microsecond := microsecond.toNat
             offset }

end Checkup.Moment
