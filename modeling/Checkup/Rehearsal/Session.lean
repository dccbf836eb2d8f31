import Checkup.Rehearsal.ScopePlay
import Checkup.Rehearsal.ServicePlay

/-!
Rehearsals: sessions in which commands are carried out one after the other against services, scopes
and a clock that only moves when told to or when something waits.

A command that raises shows its fault, and the session goes on.

Main definitions: `Session.begin?` and `Session.performAll`.
-/

namespace Checkup.Rehearsal

namespace Play

/-- Shows what was noted since the last time. -/
def takeLog : Play Answer := do
  let events ← onWorld fun world => (world.log, { world with log := [] })
  return .list (events.map fun e =>
    let line := e.toLine
    .texts [line.level.name, line.source, line.message])

/-- Carries out a command. -/
def command : Command → Play Answer
  | .scope c => scopeCommand c
  | .service name c => do serviceCommand (← serviceNumber name) c
  | .makeService name spec => makeService name spec
  | .show name => do return snapshotAnswer (← snapshot name)
  | .sameService => do
    return .truth ((← serviceNumber globalName) == (← serviceNumber globalName))
  | .sameRegistry a b => do return .truth ((← service a).store == (← service b).store)
  | .log => takeLog

end Play

namespace Session

/-- Carries out a command and shows what came of it. -/
def perform (c : Command) (s : Session) : Answer × Session :=
  match Play.command c s with
  | (.ok answer, s) => (answer, s)
  | (.error fault, s) => (.fault fault, s)

/-- Carries out commands one after the other. -/
def performAll : List Command → Session → List Answer
  | [], _ => []
  | c :: rest, s =>
    let (answer, s) := s.perform c
    answer :: performAll rest s

/-- A session with its main service. -/
def begin? (start : Moment) (workers timeout : Value) : Except Fault Session := do
  let runner ← Runner.make workers timeout .counted (Play.stampAt start)
  let (store, world) := World.newStore { line := { now := 0.0 } }
  return { start, world, services := #[{ store, runner }], named := [("main", 0)] }

end Session

end Checkup.Rehearsal
