import Checkup.Report

/-!
Answers: what a rehearsal shows of each of its commands, as a small tree.

Records are shown by their fields. Which fields depends on the runner that made them: ids that
several workers gave out are shown apart, sorted, and ids and time stamps of the real clock not at
all, only how many distinct ids there are.
-/

namespace Checkup.Rehearsal

inductive Answer where
  | leaf (v : Value)
  | list (items : List Answer)
  | table (fields : List (String × Answer))
  | fault (f : Fault)
  deriving Repr, Inhabited

namespace Answer

def nothing : Answer := .leaf .none

def text (s : String) : Answer := .leaf (.str s)

def truth (b : Bool) : Answer := .leaf (.bool b)

def count (n : Nat) : Answer := .leaf (.int n)

def time (t : Float) : Answer := .leaf (.float t)

def time? (t : Option Float) : Answer := t.elim nothing time

def texts (ss : List String) : Answer := .list (ss.map text)

end Answer

inductive Display where
  /-- As they are. -/
  | whole
  /-- With the ids apart. -/
  | idsApart
  /-- Without ids and time stamps. -/
  | undated
  deriving DecidableEq, Repr

namespace Display

/-- Whether a field of a record is shown with it. -/
def shows (d : Display) (field : String) : Bool :=
  match d with
  | whole => true
  | idsApart => field != "id"
  | undated => field != "id" && field != "timestamp"

/-- How a single record is shown: its id stays unless it is undated. -/
def forSingle : Display → Display
  | undated => undated
  | _ => whole

/-- A record by its fields. -/
def record (d : Display) (r : Record Moment) : Answer :=
  .table ([("id", .text r.id), ("name", .text r.name), ("description", .text r.description),
    ("category", .text r.category), ("timestamp", .text r.timestamp.isoText),
    ("error", .text r.error), ("details", .leaf (r.details.getD .none))].filter
      fun field => d.shows field.1)

/-- A record as a mapping. -/
def recordValue (d : Display) (r : Record Moment) : Answer :=
  .leaf (.mapping (r.toEntries.filter fun entry => match entry.1 with
    | .str field => d.shows field
    | _ => true))

/-- Pairs of texts in order, the first part deciding first. -/
def pairAscending (a b : String × String) : Bool :=
  if a.1 = b.1 then Text.ascending a.2 b.2 else Text.ascending a.1 b.1

def byKey {α : Type} (key : α → String × String) (xs : List α) : List α :=
  xs.mergeSort fun a b => pairAscending (key a) (key b)

def recordKey {σ : Type} (r : Record σ) : String × String := (r.category, r.name)

def distinct (ss : List String) : Nat :=
  (ss.foldl (fun seen s => if seen.contains s then seen else s :: seen) []).length

/-- The records of a run. -/
def records (d : Display) (rs : List (Record Moment)) : Answer :=
  let shown : Answer := .list ((byKey recordKey rs).map d.record)
  let ids := rs.map Record.id
  match d with
  | whole => shown
  | idsApart => .table [("results", shown), ("ids", .texts (Text.sorted ids))]
  | undated => .table [("results", shown), ("distinct_ids", .count (distinct ids))]

/-- A report. -/
def report (d : Display) (r : Report Moment) : Answer :=
  .table [("start_time", .text r.startTime.isoText),
    ("results", .list ((byKey recordKey r.results).map d.recordValue)),
    ("failures", .list ((byKey recordKey r.failures).map fun f =>
      .texts [f.category, f.name]))]

end Display

end Checkup.Rehearsal
