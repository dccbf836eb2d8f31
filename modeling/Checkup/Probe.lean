import Checkup.Registry
import Checkup.Timeline

/-!
Probes: what a check does when it runs, as a tree of actions.

A probe ends by returning a value or raising a fault. Until then each node is one action on the
world outside, and what follows depends on the answer. A probe refers to scopes by handles: handle
0 is the scope it was given, and each scope that it derives gets the next one; a handle never given
out stands for handle 0.

Being a tree, a probe can be taken apart by recursion, and every behaviour that asks finitely often
is one.
-/

namespace Checkup

/-- A probe's name for a scope it was given or has derived. -/
abbrev Handle := Nat

/-- What the machine tells about itself: its home directory, the space on a disk, and the version of
the interpreter with its full description. -/
structure Host where
  home : String := "/home"
  /-- Total, used and free bytes at a path. -/
  disk : Except Fault (Value × Value × Value) := .ok (.int 0, .int 0, .int 0)
  version : List Int := []
  fullVersion : String := ""
  minimum : Int × Int := (3, 10)

/-- The actions of a check. -/
inductive Probe (τ : Type) : Type where
  /-- Returns a value. -/
  | done (value : Value)
  /-- Raises a fault. -/
  | fail (fault : Fault)
  /-- Asks whether a scope is cancelled. -/
  | isCancelled (h : Handle) (next : Bool → Probe τ)
  /-- Asks why a scope is cancelled. -/
  | error (h : Handle) (next : Option Fault → Probe τ)
  /-- Asks for the seconds left to a scope. -/
  | remaining (h : Handle) (next : Option τ → Probe τ)
  /-- Blocks until a scope is cancelled or some time has passed; answers whether it is cancelled. -/
  | wait (h : Handle) (timeout : Option τ) (next : Bool → Probe τ)
  /-- Derives a scope, which gets the next handle. -/
  | derive (h : Handle) (timeout : Option τ) (next : Probe τ)
  /-- Cancels a scope and unlinks it. -/
  | close (h : Handle) (next : Probe τ)
  /-- Cancels a scope. -/
  | cancel (h : Handle) (cause : Fault) (next : Probe τ)
  /-- Asks whether a scope is known outside by a name. -/
  | knows (scope : String) (next : Bool → Probe τ)
  /-- Cancels a scope that is known outside by a name. -/
  | cancelNamed (scope : String) (cause : Fault) (next : Probe τ)
  /-- Reads the clock. -/
  | clock (next : τ → Probe τ)
  /-- Takes some time without looking at any scope. -/
  | pass (span : τ) (next : Probe τ)
  /-- Asks for the number of registered checks. -/
  | total (next : Nat → Probe τ)
  /-- Registers a check; answers the fault if it is refused. -/
  | register (check : Check) (probe : Probe τ) (next : Option Fault → Probe τ)
  /-- Takes a check away; answers whether there was one. -/
  | unregister (category name : String) (next : Bool → Probe τ)
  /-- Takes every check away. -/
  | clear (next : Probe τ)
  /-- Runs one check, under a scope or a fresh one; answers its record in one line, nothing if there
  is no such check, or the fault that escaped. -/
  | runCheck (category name : String) (scope : Option Handle)
      (next : Except Fault (Option String) → Probe τ)
  /-- Asks what the machine tells about itself. -/
  | host (next : Host → Probe τ)

namespace Probe

variable {τ : Type}

/-- Raises the cause of a scope, made anew, if it is cancelled. -/
def check (h : Handle) (next : Probe τ) : Probe τ :=
  .error h fun
    | some cause => .fail cause.fresh
    | none => next

/-- Blocks for some time and then checks the scope, if the wait was cut short. -/
def sleep (h : Handle) (timeout : Option τ) (next : Probe τ) : Probe τ :=
  .wait h timeout fun cancelled => if cancelled then check h next else next

/-- Goes on with what was computed, or raises the fault it raised. -/
def attempt {α : Type} (e : Except Fault α) (next : α → Probe τ) : Probe τ :=
  match e with
  | .ok a => next a
  | .error f => .fail f

end Probe

/-- A registered check with its probe and the number of the service it was registered on. -/
structure Entry (τ : Type) where
  check : Check
  probe : Probe τ
  service : Nat := 0

/-- The entry for what is offered as the probe of a check. What cannot be run, known by the name of
its type, is refused. -/
def Entry.ofOffer {τ : Type} (check : Check) (service : Nat) :
    Except String (Probe τ) → Except Fault (Entry τ)
  | .ok probe => .ok { check, probe, service }
  | .error typeName => .error (.notCallable typeName)

end Checkup
