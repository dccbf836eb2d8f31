import Checkup.Rehearsal.Play

/-!
Commands on one service, carried out.

A service is told by its number. Checks and records are shown in the order of their categories and
names.
-/

namespace Checkup.Rehearsal.Play

def displayOf (r : Runner Float Moment) : Display :=
  if r.ids == .timeOrdered then .undated else if r.isSingle then .whole else .idsApart

/-- Registers what is offered on the service with a number. -/
def offer (number : Nat) (check : Check) (what : Offer) : Play Unit := do
  let entry ← orFault (Entry.ofOffer check number what.probe)
  let service ← serviceAt number
  finished (← onWorld (service.register entry))

/-- Registers the checks of a catalogue and counts them. -/
def define (number : Nat) (c : Catalogue) : Play Nat := do
  let service ← serviceAt number
  finished (← onWorld
    (service.registerDefinitions number c.category (Catalogue.lookup c) c.definitions))

/-- Lets a component register its checks. -/
def provide (number : Nat) : Provider → Play Unit
  | .fails fault => throw fault
  | .defines c => do let _ ← define number c
  | .registers check what => offer number check what

/-- Checks by category, name and description, in order. -/
def listed (checks : List Check) : Answer :=
  .list ((Display.byKey (fun c => (c.category, c.name)) checks).map fun c =>
    .texts [c.category, c.name, c.description])

def snapshotAnswer : Option (List (Entry Float)) → Answer
  | none => .nothing
  | some entries => listed (entries.map Entry.check)

/-- The snapshot that goes by a name. -/
def snapshot (name : String) : Play (Option (List (Entry Float))) := do
  match Ordered.get? name (← get).snapshots with
  | some kept => return kept
  | none => throw (unknown name)

/-- Runs something on a service with all services at hand, and shows the records. -/
def recordsOf (number : Nat)
    (run : Array (Service Float Moment) → Service Float Moment → World Float →
      Outcome (List (Record Moment)) × World Float) : Play Answer := do
  let service ← serviceAt number
  let services := (← get).services
  let records ← finished (← onWorld (run services service))
  return (displayOf service.runner).records records

/-- Begins a batch that is none: its scope is opened and closed, and there is nothing to go
through. -/
def refuseBatch (under : Option ScopeId) : Play Answer := do
  let caller ← onWorld (Service.scopeOr under)
  let batch ← onLine fun line => line.child caller none
  changeLine fun line => line.close batch
  throw (.because .typeError "'NoneType' object is not iterable")

/-- Carries out a command on the service with a number. -/
def serviceCommand (number : Nat) (command : ServiceCommand) : Play Answer := do
  let service ← serviceAt number
  let registry : Play (Registry (Entry Float)) := return (← get).world.store service.store
  let total : Play Answer := return .count (← registry).total
  match command with
  | .register check what => do
    offer number check what
    total
  | .decorate check what => do
    offer number check what
    return .list [.truth true, ← total]
  | .unregister category name => do
    let removed ← onWorld (service.unregister category name)
    return .list [.truth removed, ← total]
  | .run name => do
    let s ← scope? name
    recordsOf number fun services service => service.run services s
  | .runCategory category name => do
    let s ← scope? name
    recordsOf number fun services service => service.runCategory services category s
  | .runCheck category name under => do
    let s ← scope? under
    let services := (← get).services
    match ← finished (← onWorld (service.runCheck services category name s)) with
    | none => return .nothing
    | some record => return (displayOf service.runner).forSingle.record record
  | .checks => do
    let checks := service.checks (← get).world
    return .list ((Display.byKey (fun c => (c.category, c.name)) checks).map fun c =>
      .texts [c.category, c.name, c.description, c.key])
  | .total => total
  | .clear => do
    onWorld fun world => ((), world.setStore service.store (world.store service.store).clear)
    total
  | .categories => return .texts (Text.sorted (← registry).categories)
  | .contains category name => return .truth ((← registry).contains category name)
  | .get category name => do
    match (← registry).get? category name with
    | none => return .nothing
    | some entry => return .texts [entry.check.key, entry.check.description]
  | .snapshot name category => do
    let kept ← match category with
      | none => pure (some (← registry).all)
      | some category => pure ((← registry).ofCategory? category)
    modify fun play => { play with snapshots := Ordered.put name kept play.snapshots }
    return snapshotAnswer kept
  | .runSnapshot name under => do
    let kept ← snapshot name
    let s ← scope? under
    match kept with
    | none => refuseBatch s
    | some entries =>
      recordsOf number fun services service world =>
        let (caller, world) := Service.scopeOr s world
        service.runner.runAll services entries caller world
  | .definitions catalogue => do
    let count ← define number catalogue
    return .list [.count count, ← total]
  | .providers providers => do
    providers.forM (provide number)
    total
  | .system path minFree => do
    finished (← onWorld (Health.register service number path minFree))
    total
  | .runSystem host name => do
    let s ← scope? name
    onWorld fun world => ((), { world with host })
    recordsOf number fun services service => service.runCategory services Health.category s
  | .makeReport start => do
    let services := (← get).services
    let start ← orFault start
    match ← finished (← onWorld (service.makeReport services start)) with
    | none => return .nothing
    | some report => return (displayOf service.runner).report report

end Checkup.Rehearsal.Play
