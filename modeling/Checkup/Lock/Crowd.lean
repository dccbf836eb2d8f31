import Checkup.Lock

/-!
Actors around one lock.

Each actor is idle, parked until it is woken, or inside a body that ends by giving its side back.
Every move is one critical section: it tests and changes the counters without anyone in between. A
parked actor that is woken tests again and parks again if it still cannot go on. An interrupt takes
a parked actor out; where that was a writer, readers may have waited for it alone, so all are woken.
-/

namespace Checkup.Lock

/-- What an actor is to do with a side once it has it: keep it, or run a body, which may fail, and
give the side back. -/
inductive Aim where
  | keep
  | body (failure : Option Fault)
  deriving Repr

inductive Call where
  | acquire (side : Side) (aim : Aim)
  | release (side : Side)
  deriving Repr

inductive Phase where
  | idle
  | parked (side : Side) (aim : Aim) (woken : Bool)
  | inside (side : Side) (failure : Option Fault)
  deriving Repr

namespace Phase

def isParked : Phase → Bool
  | parked .. => true
  | _ => false

/-- Whether an actor can go on by itself. -/
def isReady : Phase → Bool
  | idle => false
  | parked _ _ woken => woken
  | inside .. => true

def wake : Phase → Phase
  | parked side aim _ => parked side aim true
  | other => other

end Phase

/-- A lock and the actors around it. -/
structure Crowd where
  lock : Lock := {}
  phases : List Phase := []
  deriving Repr

/-- An actor that is done with what it was told to do, and the fault it ended with, if any. -/
structure Finish where
  actor : Nat
  fault : Option Fault
  deriving Repr

/-- The moves of actors, who are known by their places. -/
inductive Move where
  | call (actor : Nat) (what : Call)
  | resume (actor : Nat)
  | interrupt (actor : Nat)
  deriving Repr

def interrupted : Fault := .because .runtimeError "interrupted"

namespace Crowd

def phase (c : Crowd) (actor : Nat) : Phase := c.phases[actor]?.getD .idle

def setPhase (c : Crowd) (actor : Nat) (p : Phase) : Crowd :=
  { c with phases := c.phases.set actor p }

/-- Wakes every parked actor, if there is a reason. -/
def wakeIf (c : Crowd) (reason : Bool) : Crowd :=
  if reason then { c with phases := c.phases.map Phase.wake } else c

def finish (c : Crowd) (actor : Nat) (fault : Option Fault) : Crowd × Option Finish :=
  (c.setPhase actor .idle, some { actor, fault })

/-- An actor gets a side, `lock` being the lock before. -/
def enter (c : Crowd) (actor : Nat) (side : Side) (lock : Lock) : Aim → Crowd × Option Finish
  | .keep => { c with lock := lock.hold side }.finish actor none
  | .body failure =>
    ({ c with lock := lock.hold side }.setPhase actor (.inside side failure), none)

/-- An actor gives a side back and ends, with `fault` if the side was held at all. -/
def leave (c : Crowd) (actor : Nat) (side : Side) (fault : Option Fault) :
    Crowd × Option Finish :=
  match c.lock.release side with
  | .error f => c.finish actor (some f)
  | .ok (wake, lock) => ({ c with lock }.wakeIf wake).finish actor fault

/-- Makes a move; `none` if the actor cannot make it. Also says who finished by it. -/
def step (c : Crowd) : Move → Option (Crowd × Option Finish)
  | .call actor what =>
    match c.phase actor, what with
    | .idle, .acquire side aim =>
      if c.lock.isOpen side then some (c.enter actor side c.lock aim)
      else some ({ c with lock := c.lock.announce side }.setPhase actor
        (.parked side aim false), none)
    | .idle, .release side => some (c.leave actor side none)
    | _, _ => none
  | .resume actor =>
    match c.phase actor with
    | .parked side aim true =>
      if c.lock.isOpen side then some (c.enter actor side (c.lock.withdraw side) aim)
      else some (c.setPhase actor (.parked side aim false), none)
    | .inside side failure => some (c.leave actor side failure)
    | _ => none
  | .interrupt actor =>
    match c.phase actor with
    | .parked side _ _ =>
      let c := { c with lock := c.lock.withdraw side }.wakeIf (side = Side.write)
      some (c.finish actor (some interrupted))
    | _ => none

def ready? (c : Crowd) : Option Nat := c.phases.findIdx? Phase.isReady

/-- Lets actors go on, the first that can before others; returns those that finish. -/
def run : (fuel : Nat) → Crowd → List Finish × Crowd
  | 0, c => ([], c)
  | fuel + 1, c =>
    match c.ready? with
    | none => ([], c)
    | some actor =>
      match c.step (.resume actor) with
      | none => ([], c)
      | some (c, finished) =>
        let (others, c) := run fuel c
        (finished.toList ++ others, c)

/-- Lets actors go on until all are idle or parked. Each actor ends at most twice, once parked and
once inside, and between two ends each tests at most once. -/
def settle (c : Crowd) : List Finish × Crowd :=
  run ((2 * c.phases.length + 1) * (c.phases.length + 1)) c

end Crowd

end Checkup.Lock
