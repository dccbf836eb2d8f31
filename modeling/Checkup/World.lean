import Checkup.Event
import Checkup.Ident
import Checkup.Probe

/-!
The world that checks run in: time and scopes, the registries, the log, the ids given out, and what
the machine tells about itself.

Scopes may be known from outside by names; registries are numbered in the order of their making.
-/

namespace Checkup

/-- Where the ids of records come from: a plain count, or the time-ordered generator. -/
inductive IdSource where
  | counted
  | timeOrdered
  deriving DecidableEq, Repr

/-- Everything that running a check can read or change. -/
structure World (τ : Type) where
  line : Timeline τ
  stores : Array (Registry (Entry τ)) := #[]
  names : Ordered ScopeId := []
  log : List (Event τ) := []
  counted : Nat := 0
  generator : Ident.Generator := {}
  host : Host := {}

namespace World

variable {τ : Type}

def store (w : World τ) (n : Nat) : Registry (Entry τ) := w.stores[n]?.getD {}

def setStore (w : World τ) (n : Nat) (r : Registry (Entry τ)) : World τ :=
  { w with stores := w.stores.modify n fun _ => r }

def newStore (w : World τ) : Nat × World τ :=
  (w.stores.size, { w with stores := w.stores.push {} })

def note (w : World τ) (e : Event τ) : World τ := { w with log := w.log ++ [e] }

/-- Gives out an id. The time-ordered ones are told apart by their count alone. -/
def issueId (w : World τ) (source : IdSource) : String × World τ :=
  match source with
  | .counted => (s!"id-{w.counted + 1}", { w with counted := w.counted + 1 })
  | .timeOrdered =>
    let (id, generator) := Ident.next w.generator 0 0
    (id, { w with generator })

/-! ### Registering -/

/-- Registers a check and notes it. -/
def register (w : World τ) (store : Nat) (entry : Entry τ) : Except Fault (World τ) :=
  match (w.store store).register entry.check.category entry.check.name entry with
  | .ok r => .ok ((w.setStore store r).note
      (.registered entry.check.category entry.check.name))
  | .error f => .error f

/-- Takes a check away and notes it if there was one. -/
def unregister (w : World τ) (store : Nat) (category name : String) : Bool × World τ :=
  match (w.store store).unregister category name with
  | (true, r) => (true, (w.setStore store r).note (.unregistered category name))
  | (false, _) => (false, w)

/-! ### Running a probe -/

variable [Clock τ]

/-- The scope that a handle stands for. -/
def scopeOf (own : ScopeId) (derived : List ScopeId) : Handle → ScopeId
  | 0 => own
  | h + 1 => derived[h]?.getD own

/-- Where a probe runs: the service it belongs to with its registry, and how one check is run from
inside another. -/
structure Setting (τ : Type) where
  service : Nat := 0
  store : Nat := 0
  runCheck : String → String → Option ScopeId → World τ → Outcome (Option String) × World τ :=
    fun _ _ _ w => (.returned none, w)

/-- Runs a probe under a scope, `derived` being the scopes it has derived so far. -/
def runProbe (setting : Setting τ) (own : ScopeId) :
    Probe τ → (derived : List ScopeId) → World τ → Outcome Value × World τ
  | .done value, _, w => (.returned value, w)
  | .fail fault, _, w => (.raised fault, w)
  | .isCancelled h next, derived, w =>
    let (cancelled, line) := w.line.isCancelled (scopeOf own derived h)
    runProbe setting own (next cancelled) derived { w with line }
  | .error h next, derived, w =>
    let (cause, line) := w.line.error (scopeOf own derived h)
    runProbe setting own (next cause) derived { w with line }
  | .remaining h next, derived, w =>
    runProbe setting own (next (w.line.remaining (scopeOf own derived h))) derived w
  | .wait h timeout next, derived, w =>
    match w.line.wait (scopeOf own derived h) timeout with
    | (.cancelled, line) => runProbe setting own (next true) derived { w with line }
    | (.elapsed, line) => runProbe setting own (next false) derived { w with line }
    | (.never, line) => (.stalled, { w with line })
  | .derive h timeout next, derived, w =>
    let (s, line) := w.line.child (scopeOf own derived h) timeout
    runProbe setting own next (derived ++ [s]) { w with line }
  | .close h next, derived, w =>
    runProbe setting own next derived { w with line := w.line.close (scopeOf own derived h) }
  | .cancel h cause next, derived, w =>
    runProbe setting own next derived
      { w with line := w.line.cancel (scopeOf own derived h) cause }
  | .knows scope next, derived, w =>
    runProbe setting own (next (Ordered.has w.names scope)) derived w
  | .cancelNamed scope cause next, derived, w =>
    runProbe setting own next derived
      (match Ordered.get? scope w.names with
       | some s => { w with line := w.line.cancel s cause }
       | none => w)
  | .clock next, derived, w => runProbe setting own (next w.line.now) derived w
  | .pass span next, derived, w =>
    runProbe setting own next derived { w with line := w.line.advance span }
  | .total next, derived, w =>
    runProbe setting own (next (w.store setting.store).total) derived w
  | .register check probe next, derived, w =>
    match w.register setting.store { check, probe, service := setting.service } with
    | .ok w => runProbe setting own (next none) derived w
    | .error f => runProbe setting own (next (some f)) derived w
  | .unregister category name next, derived, w =>
    let (removed, w) := w.unregister setting.store category name
    runProbe setting own (next removed) derived w
  | .clear next, derived, w =>
    runProbe setting own next derived
      (w.setStore setting.store (w.store setting.store).clear)
  | .runCheck category name scope next, derived, w =>
    match setting.runCheck category name (scope.map (scopeOf own derived)) w with
    | (.returned summary, w) => runProbe setting own (next (.ok summary)) derived w
    | (.raised fault, w) => runProbe setting own (next (.error fault)) derived w
    | (.stalled, w) => (.stalled, w)
  | .host next, derived, w => runProbe setting own (next w.host) derived w

end World

end Checkup
