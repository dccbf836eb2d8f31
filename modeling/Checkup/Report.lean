import Checkup.Fault

/-!
Records of finished checks, and reports that gather the records of a whole run.

A record carries either a failure text or details. The type of its time stamp is left open: a
record of the service has a `Moment`, exact time serves where durations are compared.
-/

namespace Checkup

/-- Identity of a registered check. -/
structure Check where
  name : String
  description : String
  category : String
  deriving DecidableEq, Repr, Inhabited

/-- The category and the name of a check in one. -/
def Check.key (c : Check) : String := s!"{c.category}/{c.name}"

/-- What came of one run of one check: `error` is empty unless it failed, `details` are missing if
it did. -/
structure Record (Stamp : Type) where
  id : String
  name : String
  description : String
  category : String
  timestamp : Stamp
  error : String := ""
  details : Option Value := none
  deriving Repr

namespace Record

variable {Stamp : Type}

def failed (r : Record Stamp) : Bool := !r.error.isEmpty

def summary (r : Record Stamp) : String :=
  "[" ++ (if r.failed then s!"FAIL: {r.error}" else "OK") ++ s!"] {r.category}/{r.name}"

/-- The entries of a record, the failure text and the details only where there are any. -/
def toEntries (r : Record Moment) : List (Value × Value) :=
  [(.str "id", .str r.id), (.str "name", .str r.name), (.str "description", .str r.description),
   (.str "category", .str r.category), (.str "timestamp", .str r.timestamp.isoText)] ++
  (if r.error.isEmpty then [] else [(.str "error", .str r.error)]) ++
  (match r.details with
   | none => []
   | some details => [(.str "details", details)])

def toValue (r : Record Moment) : Value := .mapping r.toEntries

end Record

/-- The start of a run together with its records. -/
structure Report (Stamp : Type) where
  startTime : Stamp
  results : List (Record Stamp) := []
  deriving Repr

namespace Report

def failures {Stamp : Type} (r : Report Stamp) : List (Record Stamp) :=
  r.results.filter Record.failed

def toValue (r : Report Moment) : Value :=
  .mapping [(.str "start_time", .str r.startTime.isoText),
    (.str "results", .list (r.results.map Record.toValue))]

end Report

end Checkup
