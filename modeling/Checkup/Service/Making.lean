import Checkup.Registry.Shared
import Checkup.Service

/-!
The making of a report while other threads are at work, as a system of steps.

The making looks at the registry twice: it asks for the number of checks, and the run that follows
takes the checks that are there by then. Each look is one call, and so is what other threads do to
the registry. Between any two steps of the making, other threads may make calls; what keeps them out
is the lock of the registry alone, and that is held for one call at a time.
-/

namespace Checkup

variable {τ σ : Type}

def World.call (store : Nat) (w : World τ) (c : Registry.Call τ) : World τ :=
  w.setStore store (c.answer (w.store store)).2

namespace Service

inductive Making (τ σ : Type) where
  /-- About to ask for the number of checks. -/
  | begun
  /-- There are some. -/
  | counted
  /-- Has taken the checks to run, and has a scope to run them under. -/
  | taken (caller : ScopeId) (entries : List (Entry τ))
  /-- Runs the checks, under a scope between; some are run, others ahead. -/
  | running (between : ScopeId) (start : τ) (ahead : List (Entry τ))
      (outcomes : List (Outcome (Record σ)))
  /-- Has come to an end. -/
  | left (outcome : Outcome (Option (Report σ)))

/-- What is done next: the making goes on, or another thread makes a call. -/
inductive Move (τ : Type) where
  | go
  | call (c : Registry.Call τ)

namespace Making

variable [Clock τ]

/-- Once every check is run: closes the scope between and makes the report of the records. -/
def conclude (now : σ) (between : ScopeId) (start : τ) (outcomes : List (Outcome (Record σ)))
    (w : World τ) : Making τ σ × World τ :=
  let w := { w with line := w.line.close between }
  match Runner.gather outcomes with
  | .returned results =>
    let failures := (results.filter Record.failed).length
    (.left (.returned (some { startTime := now, results })),
      w.note (.batchFinished results.length "all" (Clock.sub w.line.now start) failures))
  | .raised fault => (.left (.raised fault), w)
  | .stalled => (.left .stalled, w)

/-- The next step of the making of a report that starts at a given time. -/
def step (services : Array (Service τ σ)) (s : Service τ σ) (now : σ) :
    Making τ σ → World τ → Making τ σ × World τ
  | .begun, w =>
    if s.total w = 0 then (.left (.returned none), w.note .nothingToReport) else (.counted, w)
  | .counted, w =>
    let (caller, w) := scopeOr none w
    (.taken caller (w.store s.store).all, w)
  | .taken caller entries, w =>
    let w := w.note (.batchStarted entries.length "all")
    let (between, line) := w.line.child caller none
    (.running between w.line.now entries [], { w with line })
  | .running between start (entry :: ahead) outcomes, w =>
    let (outcome, w) := s.runner.runOne services entry between w
    (.running between start ahead (outcomes ++ [outcome]), w)
  | .running between start [] outcomes, w => conclude now between start outcomes w
  | .left outcome, w => (.left outcome, w)

/-- Makes a move. -/
def move (services : Array (Service τ σ)) (s : Service τ σ) (now : σ) :
    Making τ σ × World τ → Move τ → Making τ σ × World τ
  | (m, w), .go => m.step services s now w
  | (m, w), .call c => (m, w.call s.store c)

def run (services : Array (Service τ σ)) (s : Service τ σ) (now : σ) (moves : List (Move τ))
    (state : Making τ σ × World τ) : Making τ σ × World τ :=
  moves.foldl (move services s now) state

end Making

end Service

end Checkup
