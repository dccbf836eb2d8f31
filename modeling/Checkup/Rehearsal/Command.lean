import Checkup.Health
import Checkup.Rehearsal.Script

/-!
The commands of a rehearsal.

They fall into those on scopes and on the clock, those on one service, and a few about names.
Scopes, services and snapshots of registries go by names. A fault that a command asks for may fail
to be made, and a moment may be none; what is wrong then comes up when the command is carried out.
-/

namespace Checkup.Rehearsal

/-- What is offered for registration: a script, or something of a type that cannot run. -/
inductive Offer where
  | script (s : Script)
  | other (typeName : String)
  deriving Repr

/-- The probe that is offered, or the name of the type of what is no probe. -/
def Offer.probe : Offer → Except String (Probe Float)
  | script s => .ok s.toProbe
  | other typeName => .error typeName

/-- What a component does for one of its definitions. -/
inductive Lookup where
  | give (value : Value)
  | fail (fault : Fault)
  deriving Repr

/-- The checks that a component offers, with what it does for each. -/
structure Catalogue where
  category : String
  definitions : List Service.Definition
  details : Ordered Lookup
  deriving Repr

/-- What a component does for an identifier. -/
def Catalogue.lookup (c : Catalogue) (id : String) : Probe Float :=
  match Ordered.get? id c.details with
  | some (.give value) => .done value
  | some (.fail fault) => .fail fault
  | none => .fail { kind := .keyError, args := [.str id] }

/-- A component that registers its own checks. -/
inductive Provider where
  | fails (fault : Fault)
  | defines (catalogue : Catalogue)
  | registers (check : Check) (offer : Offer)
  deriving Repr

/-- How a service is to be made. -/
structure ServiceSpec where
  settings : Option Value := none
  ownProviders : Bool := false
  workers : Value := .int 1
  timeout : Value := .float 5.0
  registryOf : Option String := none
  runnerOf : Option String := none

/-- The commands on scopes and on the clock. Names stand for scopes. -/
inductive ScopeCommand where
  | background (name : String)
  | child (parent name : String) (timeout : Option (Span Float))
  | cancel (scope : String) (cause : Fault.Made)
  | timer (scope : String) (after : Span Float) (cause : Fault.Made)
  | advance (seconds : Span Float)
  | clock
  | isCancelled (scope : String)
  | remaining (scope : String)
  | deadline (scope : String)
  | close (scope : String)
  | describe (scope : String)
  | error (scope : String)
  | check (scope : String)
  | children (scope : String)
  | wait (scope : String) (timeout : Option (Span Float))
  | sleep (scope : String) (seconds : Option (Span Float))
  /-- Derives a scope, sleeps under it if asked to, raises a fault if asked to, and closes it. -/
  | withChild (parent name : String) (timeout : Option (Span Float))
      (sleep : Option (Option (Span Float))) (raising : Option Fault)

inductive ServiceCommand where
  | register (check : Check) (offer : Offer)
  | decorate (check : Check) (offer : Offer)
  | unregister (category name : String)
  | run (scope : Option String)
  | runCategory (category : String) (scope : Option String)
  | runCheck (category name : String) (scope : Option String)
  | checks
  | total
  | clear
  | categories
  | contains (category name : String)
  | get (category name : String)
  | snapshot (name : String) (category : Option String)
  | runSnapshot (name : String) (scope : Option String)
  | definitions (catalogue : Catalogue)
  | providers (providers : List Provider)
  | system (path : Option String) (minFree : Value)
  | runSystem (host : Host) (scope : Option String)
  | makeReport (start : Except Fault Moment)

inductive Command where
  | scope (c : ScopeCommand)
  | service (name : String) (c : ServiceCommand)
  | makeService (name : String) (spec : ServiceSpec)
  | show (snapshot : String)
  | sameService
  | sameRegistry (a b : String)
  | log

end Checkup.Rehearsal
