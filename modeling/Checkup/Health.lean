import Checkup.Health.Path
import Checkup.Power
import Checkup.Service
import Checkup.Value.Quotient

/-!
Checks of the machine itself: free disk space and the version of the interpreter.

Space is given in units of `2 ^ 30` bytes with two places and use in percent with one, both rounded
from the exact value. The thresholds compare exactly.
-/

namespace Checkup.Health

def category : String := "system"

/-- Below this much free space the disk check fails, unless told otherwise. -/
def minFreeGb : Value := .float 1.0

/-- The least version of the interpreter that passes. -/
def minVersion : Int × Int := (3, 10)

def perGb : Value := .int (pow2 30)

/-- Judges a version against a minimum, both by their first two parts. -/
def version (current : List Int) (minimum : Int × Int) (full : String) : Except Fault Value :=
  match current with
  | major :: minor :: _ =>
    let found := s!"{major}.{minor}"
    let wanted := s!"{minimum.1}.{minimum.2}"
    if major < minimum.1 ∨ major = minimum.1 ∧ minor < minimum.2 then
      .error (.because .diagnosticFailure s!"Python {found} is below minimum {wanted}")
    else .ok (.mapping [(.str "current_version", .str found), (.str "minimum_version", .str wanted),
      (.str "full_version", .str full)])
  | _ => .error (.because .indexError "tuple index out of range")

/-- Judges the space at a path: total, used and free bytes. -/
def space (path : String) (minFree total used free : Value) : Except Fault Value := do
  let freeGb ← free.quotient perGb
  let totalGb ← total.quotient perGb
  let percent ← if total.isTruthy then do
      let share ← used.quotient total
      pure (Decimal.roundTo 1 (share * 100.0))
    else pure 0.0
  if ← Value.belowValue freeGb minFree then
    throw (.because .diagnosticFailure
      s!"Only {Decimal.fixed 1 freeGb}GB free disk space at {path} (minimum {minFree.text}GB)")
  return .mapping [(.str "path", .str path), (.str "free_gb", .float (Decimal.roundTo 2 freeGb)),
    (.str "total_gb", .float (Decimal.roundTo 2 totalGb)), (.str "used_percent", .float percent)]

variable {τ σ : Type}

/-- The probe that judges the version; it looks at no scope. -/
def versionProbe : Probe τ :=
  .host fun host => Probe.attempt (version host.version host.minimum host.fullVersion) .done

/-- The probe that judges the space at a path, or at the home directory. -/
def spaceProbe (path : Option String) (minFree : Value) : Probe τ :=
  Probe.check 0 <| .host fun host =>
    let place := plainPath (path.getD host.home)
    match host.disk with
    | .error fault =>
      .fail (if fault.kind.isSystem then
          .because .diagnosticFailure s!"Could not check disk space at {place}: {fault.text}"
        else fault)
    | .ok (total, used, free) => Probe.attempt (space place minFree total used free) .done

/-- Runs a probe by itself on a machine, under a fresh scope that may be cancelled beforehand. -/
def runAlone (host : Host) (cancelled : Option Fault) (probe : Probe Float) : Except Fault Value :=
  let (scope, line) := Timeline.background { now := 0.0 }
  let line := cancelled.elim line fun cause => line.cancel scope cause
  match (World.runProbe {} scope probe [] { line, host }).1 with
  | .returned value => .ok value
  | .raised fault => .error fault
  | .stalled => .error (.because .runtimeError "nothing ends the wait")

/-- Registers both checks. -/
def register (s : Service τ σ) (number : Nat) (path : Option String) (minFree : Value)
    (w : World τ) : Outcome Unit × World τ :=
  let entry (name description : String) (probe : Probe τ) : Entry τ :=
    { check := ⟨name, description, category⟩, probe, service := number }
  match s.register (entry "python_version" "Check Python version is compatible" versionProbe) w with
  | (.returned (), w) =>
    s.register (entry "disk_space" "Check available disk space" (spaceProbe path minFree)) w
  | other => other

end Checkup.Health
