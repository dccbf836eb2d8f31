import Checkup.Rehearsal.Answer
import Checkup.Rehearsal.Command

/-!
The state of a rehearsal, and the steps that commands are put together from.

A session starts with one service, `main`. The service `global` comes into being when it is first
named, and the name stays with it. It and services made with their own providers give out
time-ordered ids. A step may raise; what was done before the fault stays done.
-/

namespace Checkup.Rehearsal

/-- The state of a session: the world, the services made so far, which of them is the global one and
which go by a name, and the snapshots taken; a snapshot of a category that does not exist is
none. -/
structure Session where
  start : Moment
  world : World Float := { line := { now := 0.0 } }
  services : Array (Service Float Moment) := #[]
  globalNumber : Option Nat := none
  named : Ordered Nat := []
  snapshots : Ordered (Option (List (Entry Float))) := []

/-- A step of a session, which may raise. What was done before the fault stays done. -/
abbrev Play := ExceptT Fault (StateM Session)

namespace Play

/-! ### Names -/

def unknown (name : String) : Fault := { kind := .keyError, args := [.str name] }

/-- The scope that goes by a name. -/
def scope (name : String) : Play ScopeId := do
  match Ordered.get? name (← get).world.names with
  | some s => return s
  | none => throw (unknown name)

/-- The scope that goes by a name, if a name is given. -/
def scope? (name : Option String) : Play (Option ScopeId) :=
  match name with
  | none => return none
  | some name => return some (← scope name)

def nameScope (name : String) (s : ScopeId) : Play Unit :=
  modify fun play =>
    { play with world := { play.world with names := Ordered.put name s play.world.names } }

/-! ### Time -/

/-- Does something to the timeline. -/
def onLine {α : Type} (f : Timeline Float → α × Timeline Float) : Play α :=
  modifyGet fun play =>
    let (a, line) := f play.world.line
    (a, { play with world := { play.world with line } })

def changeLine (f : Timeline Float → Timeline Float) : Play Unit := onLine fun line => ((), f line)

def now : Play Float := return (← get).world.line.now

def orFault {α : Type} : Except Fault α → Play α
  | .ok a => return a
  | .error f => throw f

def seconds (span : Span Float) : Play Float := orFault span.seconds?

/-- A span as a time of the clock, if there is one. -/
def seconds? (span : Option (Span Float)) : Play (Option Float) :=
  match span with
  | none => return none
  | some span => return some (← seconds span)

def stalled : Fault := .because .runtimeError "nothing ends the wait"

/-- What a computation returned; a fault is raised. -/
def finished {α : Type} : Outcome α → Play α
  | .returned a => return a
  | .raised f => throw f
  | .stalled => throw stalled

/-- Does something to the world. -/
def onWorld {α : Type} (f : World Float → α × World Float) : Play α :=
  modifyGet fun play =>
    let (a, world) := f play.world
    (a, { play with world })

/-! ### Time stamps -/

/-- The most days that a span between two moments may have. -/
def maxDays : Int := 999999999

/-- The time stamp of a clock time: the start of the session moved by the whole microseconds, if
there is such a span and such a day. -/
def stampAt (start : Moment) (t : Float) : Except Fault Moment :=
  let micros := t * 1000000.0
  match Decimal.truncate? micros with
  | none =>
    if micros.isNaN then .error (.because .valueError "cannot convert float NaN to integer")
    else tooLarge "cannot convert float infinity to integer"
  | some n =>
    let days := n.fdiv Moment.perDay
    if days.natAbs ≥ pow2 31 then tooLarge "Python int too large to convert to C int"
    else if maxDays < days.natAbs then
      tooLarge s!"days={days}; must have magnitude <= {maxDays}"
    else match start.shift? n with
      | some m => .ok m
      | none => tooLarge "date value out of range"
where
  tooLarge (message : String) : Except Fault Moment := .error (.because .overflowError message)

/-- The time stamps of a service with its own providers: its clock is not the session's, and its
stamps are not shown. -/
def ownStamp (start : Moment) (_ : Float) : Except Fault Moment := .ok start

/-! ### Services -/

def globalName : String := "global"

/-- Adds a service; its number is the count of those before. -/
def addService (s : Service Float Moment) : Play Nat :=
  modifyGet fun play => (play.services.size, { play with services := play.services.push s })

/-- Makes an empty registry. -/
def newRegistry : Play Nat :=
  modifyGet fun play =>
    let (n, world) := play.world.newStore
    (n, { play with world })

def nameService (name : String) (number : Nat) : Play Unit :=
  modify fun play => { play with named := Ordered.put name number play.named }

/-- The number of the global service, which is made when it is first asked for. -/
def globalService : Play Nat := do
  let play ← get
  match play.globalNumber with
  | some number => return number
  | none =>
    let store ← newRegistry
    let runner ← orFault (Runner.ofConfig Config.default .timeOrdered (ownStamp play.start))
    let number ← addService { store, runner }
    modify fun play => { play with globalNumber := some number }
    return number

/-- The number of a service. -/
def serviceNumber (name : String) : Play Nat := do
  if name = globalName then globalService
  else match Ordered.get? name (← get).named with
    | some number => return number
    | none => throw (unknown name)

/-- A service by its number. -/
def serviceAt (number : Nat) : Play (Service Float Moment) := do
  let play ← get
  return play.services[number]?.getD
    { store := 0, runner := { timeout := .whole 1, stamp := stampAt play.start } }

def service (name : String) : Play (Service Float Moment) := do serviceAt (← serviceNumber name)

/-- The runner of a service that is to be made. -/
def runnerOf (spec : ServiceSpec) : Play (Runner Float Moment) := do
  let start := (← get).start
  let config ← match spec.settings with
    | none => pure none
    | some settings => some <$> orFault (Config.ofValue settings)
  match spec.runnerOf, spec.ownProviders, config with
  | some other, _, _ => return (← service other).runner
  | none, true, config =>
    orFault (Runner.ofConfig (config.getD .default) .timeOrdered (ownStamp start))
  | none, false, some config => orFault (Runner.ofConfig config .counted (stampAt start))
  | none, false, none => orFault (Runner.make spec.workers spec.timeout .counted (stampAt start))

/-- Makes a service, names it, and shows its settings and how many checks it has. -/
def makeService (name : String) (spec : ServiceSpec) : Play Answer := do
  let runner ← runnerOf spec
  let store ← match spec.registryOf with
    | some other => do pure (← service other).store
    | none => newRegistry
  nameService name (← addService { store, runner })
  return .list [.leaf runner.workers, .leaf runner.timeout.toValue,
    .count ((← get).world.store store).total]

end Play

end Checkup.Rehearsal
