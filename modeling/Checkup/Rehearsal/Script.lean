import Checkup.Probe

/-!
Scripts: probes written down as lists of acts.

A script keeps what it observes in a list and can return it. Time is floating point. A length of
time that does not fit the clock raises its fault at the act that needs it. A script that comes to
its end returns nothing.
-/

namespace Checkup

inductive Act where
  /-- Ends by returning a value. -/
  | give (value : Value)
  /-- Ends by returning what was observed. -/
  | giveObserved
  /-- Ends by raising a fault. -/
  | fail (fault : Fault)
  | sleep (seconds : Option (Span Float))
  /-- Waits and observes whether the scope is cancelled. -/
  | wait (seconds : Option (Span Float))
  /-- Takes time without looking at the scope. -/
  | pass (seconds : Span Float)
  | check
  | cancelOwn (cause : Fault.Made)
  | cancelNamed (scope : String) (cause : Fault.Made)
  /-- Observes whether the scope is cancelled. -/
  | isCancelled
  /-- Observes why the scope is cancelled. -/
  | error
  /-- Observes the seconds left to the scope. -/
  | remaining
  /-- Observes the clock. -/
  | clock
  /-- Sleeps under a scope of its own. -/
  | childSleep (seconds timeout : Option (Span Float))
  /-- Observes the number of registered checks. -/
  | total
  /-- Tries to register something that is no probe, known by the name of its type. -/
  | registerOther (typeName : String)
  /-- Takes a check away and observes whether there was one. -/
  | unregister (category name : String)
  /-- Runs another check, under the own scope if asked to, and observes its record. -/
  | runCheck (category name : String) (ownScope : Bool)
  deriving Repr

/-- A list of acts, some of which register checks with scripts of their own. -/
inductive Script where
  | nil
  | act (a : Act) (rest : Script)
  | register (check : Check) (body : Script) (rest : Script)
  deriving Repr

namespace Script

/-- The time that a span stands for goes on to what needs it; no span is no limit. -/
def withSeconds (span : Option (Span Float)) (next : Option Float → Probe Float) : Probe Float :=
  match span with
  | none => next none
  | some span => .attempt span.seconds? fun t => next (some t)

/-- What is observed of a cause. -/
def causeText (cause : Option Fault) : String :=
  match cause with
  | none => "none"
  | some f => f.kind.name ++ ": " ++ f.text

def observedValue (observed : List Value) : Value := .mapping [(.str "obs", .list observed)]

/-- Cancels a scope known by a name; there must be one. -/
def cancelNamed (scope : String) (cause : Fault.Made) (next : Probe Float) : Probe Float :=
  .knows scope fun known =>
    if known then .attempt cause fun cause => .cancelNamed scope cause next
    else .fail { kind := .keyError, args := [.str scope] }

/-- Sleeps under a derived scope, which is closed whatever happens; handle 1 is that scope, or the
one derived last. -/
def childSleep (derived : Handle) (seconds timeout : Option (Span Float))
    (next : Probe Float) : Probe Float :=
  withSeconds timeout fun limit => .derive 0 limit <|
    match seconds.map Span.seconds? with
    | some (.error f) => .close derived (.fail f)
    | some (.ok t) => asleep (some t)
    | none => asleep none
where
  asleep (t : Option Float) : Probe Float :=
    .wait derived t fun cancelled =>
      if cancelled then
        .error derived fun
          | some cause => .close derived (.fail cause.fresh)
          | none => .close derived next
      else .close derived next

/-- The probe that does what a script says, `derived` being how many scopes it has derived and
`observed` what it has observed so far. -/
def toProbeFrom (derived : Nat) (observed : List Value) : Script → Probe Float
  | .nil => .done .none
  | .register check body rest =>
    .register check (toProbeFrom 0 [] body) fun
      | some f => .fail f
      | none => toProbeFrom derived (observed ++ [.str "registered"]) rest
  | .act a rest =>
    let go (seen : List Value) : Probe Float := toProbeFrom derived (observed ++ seen) rest
    match a with
    | .give value => .done value
    | .giveObserved => .done (observedValue observed)
    | .fail f => .fail f
    | .sleep seconds => withSeconds seconds fun t => .sleep 0 t (go [])
    | .wait seconds => withSeconds seconds fun t => .wait 0 t fun b => go [.bool b]
    | .pass seconds => .attempt seconds.seconds? fun t => .pass t (go [])
    | .check => .check 0 (go [])
    | .cancelOwn cause => .attempt cause fun cause => .cancel 0 cause (go [])
    | .cancelNamed scope cause => cancelNamed scope cause (go [])
    | .isCancelled => .isCancelled 0 fun b => go [.bool b]
    | .error => .error 0 fun cause => go [.str (causeText cause)]
    | .remaining => .remaining 0 fun t => go [t.elim .none .float]
    | .clock => .clock fun t => go [.float t]
    | .childSleep seconds timeout =>
      childSleep (derived + 1) seconds timeout (toProbeFrom (derived + 1) observed rest)
    | .total => .total fun n => go [.int n]
    | .registerOther name => .fail (.notCallable name)
    | .unregister category name => .unregister category name fun b => go [.bool b]
    | .runCheck category name ownScope =>
      .runCheck category name (if ownScope then some 0 else none) fun
        | .ok summary => go [.str (summary.getD "none")]
        | .error f => .fail f

def toProbe (s : Script) : Probe Float := toProbeFrom 0 [] s

end Script

end Checkup
