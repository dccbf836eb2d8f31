import Checkup.Rehearsal.Play

/-!
Commands on scopes and on the clock, carried out.
-/

namespace Checkup.Rehearsal.Play

/-- Carries out a command on scopes or on the clock. -/
def scopeCommand : ScopeCommand → Play Answer
  | .background name => do
    nameScope name (← onLine Timeline.background)
    return .nothing
  | .child parent name timeout => do
    let above ← scope parent
    let limit ← seconds? timeout
    nameScope name (← onLine fun line => line.child above limit)
    return .nothing
  | .cancel name cause => do
    let s ← scope name
    let cause ← orFault cause
    changeLine fun line => line.cancel s cause
    return .nothing
  | .timer name after cause => do
    let s ← scope name
    let t ← seconds after
    let cause ← orFault cause
    changeLine fun line => line.setTimer t s cause
    return .nothing
  | .advance span => do
    let t ← seconds span
    changeLine fun line => line.advance t
    return .time (← now)
  | .clock => return .time (← now)
  | .isCancelled name => do
    let s ← scope name
    return .truth (← onLine fun line => line.isCancelled s)
  | .remaining name => do
    let s ← scope name
    return .time? ((← get).world.line.remaining s)
  | .deadline name => do
    let s ← scope name
    return .time? ((← get).world.line.forest.deadline? s)
  | .close name => do
    let s ← scope name
    changeLine fun line => line.close s
    return .nothing
  | .describe name => do
    let s ← scope name
    let line := (← get).world.line
    return .text (line.forest.shown line.now s)
  | .error name => do
    let s ← scope name
    match ← onLine fun line => line.error s with
    | none => return .nothing
    | some cause => return .texts [cause.kind.name, cause.text]
  | .check name => do
    let s ← scope name
    match ← onLine fun line => line.check s with
    | none => return .nothing
    | some fault => throw fault
  | .children name => do
    let s ← scope name
    let world := (← get).world
    let linked := world.line.forest.children s
    let known := world.names.filter fun entry => linked.contains entry.2
    return .table [("count", .count linked.length),
      ("named", .texts (Text.sorted (Ordered.keys known)))]
  | .wait name timeout => do
    let s ← scope name
    let limit ← seconds? timeout
    match ← onLine fun line => line.wait s limit with
    | .never => throw stalled
    | wake => return .table [("cancelled", .truth (wake == .cancelled)), ("clock", .time (← now))]
  | .sleep name span => do
    let s ← scope name
    let asleep : Play Unit := do
      let limit ← seconds? span
      finished (← onLine fun line => line.sleep s limit)
    let result : Answer := match ← observing asleep with
      | .error fault => .fault fault
      | .ok () => .nothing
    return .table [("result", result), ("clock", .time (← now))]
  | .withChild parent name timeout span raising => do
    let above ← scope parent
    let limit ← seconds? timeout
    let s ← onLine fun line => line.child above limit
    nameScope name s
    let body : Play Unit := do
      match span with
      | none => pure ()
      | some span =>
        let t ← seconds? span
        finished (← onLine fun line => line.sleep s t)
      match raising with
      | none => pure ()
      | some fault => throw fault
    let ending ← observing body
    changeLine fun line => line.close s
    orFault ending
    return .text "done"
where
  /-- Carries out a step and catches its fault. -/
  observing (body : Play Unit) : Play (Except Fault Unit) := fun play =>
    let (ending, play) := body play
    (.ok ending, play)

end Checkup.Rehearsal.Play
