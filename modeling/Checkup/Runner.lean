import Checkup.Config
import Checkup.Detail
import Checkup.World

/-!
Runners: how checks are executed, one record each.

Every check gets a scope of its own below the one it is run under, with the runner's deadline from
its own start. What it returns is validated; an ordinary fault, its own or that of a refused value,
becomes the failure text of its record. The scope is closed whatever happens.

`runOne` runs a check directly under the caller's scope. `runAll` puts one more scope in between
for the whole batch and closes it at the end; a fault that escapes from one check surfaces only
after all of them have run. It lists the record of each entry at the entry's place: the order in
which a caller collects the records of a batch is left to its workers (`Crew`).
-/

namespace Checkup

/-- How checks are executed: how many at once, under which deadline, and where the ids and the time
stamps of their records come from. -/
structure Runner (τ σ : Type) where
  workers : Value := .int 1
  timeout : Span τ
  ids : IdSource := .counted
  stamp : τ → Except Fault σ

/-- A registry, by its number, with the runner for its checks. -/
structure Service (τ σ : Type) where
  store : Nat := 0
  runner : Runner τ σ

namespace Runner

/-! ### Making a runner -/

/-- The name under which a value's type appears when it fails to compare. -/
def orderName : Value → String
  | .view _ => "dict"
  | v => v.typeName

/-- Compares a value with a whole number; what is no number does not compare. -/
def compareInt (relation : String) (test : Value.Number → Value.Number → Bool) (v : Value)
    (n : Int) : Except Fault Bool :=
  match v.number? with
  | some x => .ok (test x (.whole n))
  | none => .error (.because .typeError
      s!"'{relation}' not supported between instances of '{orderName v}' and 'int'")

/-- Refuses a count of workers below 1 and a deadline of 0 or below. -/
def validate (workers timeout : Value) : Except Fault Unit := do
  if ← compareInt "<" Value.Number.lt workers 1 then
    throw (.because .valueError s!"max_workers must be at least 1, got {workers.text}")
  if ← compareInt "<=" Value.Number.le timeout 0 then
    throw (.because .valueError s!"timeout_seconds must be positive, got {timeout.text}")

/-- Makes a runner of two settings. -/
def make {σ : Type} (workers timeout : Value) (ids : IdSource)
    (stamp : Float → Except Fault σ) : Except Fault (Runner Float σ) := do
  validate workers timeout
  return { workers, timeout := .ofValue timeout, ids, stamp }

def ofConfig {σ : Type} (c : Config) (ids : IdSource) (stamp : Float → Except Fault σ) :
    Except Fault (Runner Float σ) :=
  make (.int c.maxWorkers) (Config.numberValue c.timeout) ids stamp

variable {τ σ : Type}

def isSingle (r : Runner τ σ) : Bool :=
  r.workers.number?.elim false fun n => n.same (.whole 1)

/-! ### Running one check -/

/-- What a probe came to, as details or as the fault that a record shows. A fault that is not
ordinary is not caught. -/
inductive Verdict where
  | details (value : Value)
  | failure (fault : Fault)
  | escape (fault : Fault)
  | stalled

/-- Judges how a probe ended. -/
def Verdict.ofOutcome : Outcome Value → Verdict
  | .returned value =>
    match Detail.normalize value with
    | .ok copied => .details copied
    | .error issue => .failure issue.toFault
  | .raised fault => if fault.isOrdinary then .failure fault else .escape fault
  | .stalled => .stalled

variable [Clock τ]

/-- Closes a scope and ends with a fault. -/
def abandon {α : Type} (w : World τ) (s : ScopeId) (fault : Fault) : Outcome α × World τ :=
  (.raised fault, { w with line := w.line.close s })

/-- Takes the time stamp, closes the scope, notes how long the check took, and makes the record. -/
def conclude (r : Runner τ σ) (check : Check) (id : String) (start limit : τ) (s : ScopeId)
    (error : String) (details : Option Value) (w : World τ) : Outcome (Record σ) × World τ :=
  match r.stamp w.line.now with
  | .error fault => abandon w s fault
  | .ok timestamp =>
    let w := { w with line := w.line.close s }
    let elapsed := Clock.sub w.line.now start
    let w := if r.timeout.exceededBy elapsed then
        w.note (.overran check.key (Clock.sub elapsed limit) r.timeout)
      else w
    let w := w.note (.finished check.key elapsed)
    (.returned { id, name := check.name, description := check.description
                 category := check.category, timestamp, error, details }, w)

/-- Runs an entry under a scope, its probe in a given setting. -/
def executeIn (setting : World.Setting τ) (r : Runner τ σ) (entry : Entry τ) (scope : ScopeId)
    (w : World τ) : Outcome (Record σ) × World τ :=
  let check := entry.check
  let (id, w) := w.issueId r.ids
  let w := w.note (.running check.key)
  let start := w.line.now
  match r.timeout.seconds? with
  | .error fault => (.raised fault, w)
  | .ok limit =>
    let (s, line) := w.line.child scope (some limit)
    let (outcome, w) := World.runProbe setting s entry.probe [] { w with line }
    match Verdict.ofOutcome outcome with
    | .details value => r.conclude check id start limit s "" (some value) w
    | .failure fault =>
      let error := fault.failureText
      r.conclude check id start limit s error none (w.note (.failed check.key error))
    | .escape fault => abandon w s fault
    | .stalled => (.stalled, w)

/-- How one check is run from inside the probe of another: by the service of that other check,
under the given scope or a fresh one. -/
def nested (run : Runner τ σ → Entry τ → ScopeId → World τ → Outcome (Record σ) × World τ)
    (service : Option (Service τ σ)) (category name : String) (scope : Option ScopeId)
    (w : World τ) : Outcome (Option String) × World τ :=
  match service with
  | none => (.returned none, w)
  | some service =>
    match (w.store service.store).get? category name with
    | none => (.returned none, w)
    | some entry =>
      let (s, w) := match scope with
        | some s => (s, w)
        | none =>
          let (s, line) := w.line.background
          (s, { w with line })
      let (outcome, w) := run service.runner entry s w
      (outcome.map fun record => some record.summary, w)

/-- Runs an entry under a scope. Checks may run each other, which is followed only so deep. -/
def execute (services : Array (Service τ σ)) : (depth : Nat) → Runner τ σ → Entry τ → ScopeId →
    World τ → Outcome (Record σ) × World τ
  | 0, _, _, _, w => (.raised .tooDeep, w)
  | depth + 1, r, entry, scope, w =>
    let service := services[entry.service]?
    let setting : World.Setting τ :=
      { service := entry.service
        store := (service.map Service.store).getD 0
        runCheck := nested (execute services depth) service }
    executeIn setting r entry scope w

/-- How deep checks may run each other. What bounds this is the stack of the interpreter; the number
stands for it and is not counted in its frames. -/
def maxDepth : Nat := 128

/-- Runs one entry directly under the caller's scope. -/
def runOne (services : Array (Service τ σ)) (r : Runner τ σ) (entry : Entry τ) (scope : ScopeId)
    (w : World τ) : Outcome (Record σ) × World τ :=
  execute services maxDepth r entry scope w

/-! ### Running a batch -/

/-- Runs entries one after the other. -/
def runEach (services : Array (Service τ σ)) (r : Runner τ σ) (scope : ScopeId) :
    List (Entry τ) → World τ → List (Outcome (Record σ)) × World τ
  | [], w => ([], w)
  | entry :: rest, w =>
    let (outcome, w) := runOne services r entry scope w
    let (outcomes, w) := runEach services r scope rest w
    (outcome :: outcomes, w)

/-- All that was returned, each at its place, or the first fault raised; blocked if anything is. -/
def gather {α : Type} : List (Outcome α) → Outcome (List α)
  | [] => .returned []
  | outcome :: rest =>
    match outcome, gather rest with
    | .stalled, _ | _, .stalled => .stalled
    | .raised fault, _ | .returned _, .raised fault => .raised fault
    | .returned a, .returned as => .returned (a :: as)

/-- Runs entries under one scope between them and the caller's, and lists their records by the
places of the entries, not in the order in which a caller may collect them. -/
def runAll (services : Array (Service τ σ)) (r : Runner τ σ) (entries : List (Entry τ))
    (scope : ScopeId) (w : World τ) : Outcome (List (Record σ)) × World τ :=
  let (s, line) := w.line.child scope none
  let (outcomes, w) := runEach services r s entries { w with line }
  (gather outcomes, { w with line := w.line.close s })

end Runner

end Checkup
