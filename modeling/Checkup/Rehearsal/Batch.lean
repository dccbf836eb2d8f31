import Checkup.Pool
import Checkup.Rehearsal.Session

/-!
Rehearsals of one batch on a bounded pool: numbered checks, each of which returns its number or
fails, while the greatest number that can run at once does.
-/

namespace Checkup.Rehearsal

structure BatchSeen where
  watch : Pool.Watch
  taken : Nat
  indexes : List Int
  errors : List String
  distinctIds : Nat
  childrenLeft : Nat
  deriving Repr

namespace Batch

def outcome (failing : List Nat) (i : Nat) : Except Fault Value :=
  if failing.contains i then .error (.because .valueError s!"boom {i}")
  else .ok (.mapping [(.str "i", .int i)])

def entry (failing : List Nat) (i : Nat) : Entry Float :=
  { check := ⟨s!"d{i}", "", "batch"⟩, probe := .attempt (outcome failing i) .done }

/-- The number in the details of a record. -/
def index? (r : Record Moment) : Option Int :=
  r.details.bind fun details => details.entries?.bind fun entries =>
    match Value.lookup? "i" entries with
    | some (.int i) => some i
    | _ => none

/-- The number of workers that a setting stands for in a batch; where there is no bound, there is a
worker for every check. -/
def workerCount (workers : Value) (count : Nat) : Nat :=
  match workers.number? with
  | some (.whole n) => n.toNat
  | some (.real x) => ((Decimal.truncate? x).getD count).toNat
  | none => 0

/-- Runs a batch of `count` checks under a scope that is cancelled beforehand if asked to. -/
def observe (workers : Value) (count : Nat) (failing : List Nat) (cancelled : Bool) :
    Except Fault BatchSeen := do
  let start : Moment := { date := ⟨2025, 1, 1⟩, offset := some 0 }
  let runner ← Runner.make workers (.float 5.0) .counted (Play.stampAt start)
  let (caller, line) := Timeline.background { now := 0.0 }
  let line := if cancelled then line.cancel caller .scopeCancelled else line
  let numbers := List.range count
  let world : World Float := { line }
  let (watch, pool) := Pool.watch (workerCount workers count) numbers (outcome failing)
  match runner.runAll #[] (numbers.map (entry failing)) caller world with
  | (.returned records, world) =>
    return { watch, taken := pool.taken
             indexes := (records.filterMap index?).mergeSort fun a b => decide (a ≤ b)
             errors := Text.sorted ((records.filter Record.failed).map Record.error)
             distinctIds := Display.distinct (records.map Record.id)
             childrenLeft := (world.line.forest.children caller).length }
  | (.raised fault, _) => throw fault
  | (.stalled, _) => throw Play.stalled

end Batch

end Checkup.Rehearsal
