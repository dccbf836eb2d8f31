import Checkup.Lock.Crowd

/-!
Trials of a lock: named actors are told what to do one after the other, and after each request
everyone who can go on does.

What is seen of a request: who finished and how, who is blocked, and the counters of the lock.
-/

namespace Checkup.Lock

inductive Demand where
  | call (what : Call)
  | interrupt
  deriving Repr

structure Request where
  actor : String
  demand : Demand
  deriving Repr

/-- The answer to a request: refused because the actor is blocked or is not, or what is seen
afterwards, actors by name in order. -/
inductive Reply where
  | busy
  | notBlocked
  | seen (finished : List (String × Option Fault)) (blocked : List String) (lock : Lock)
  deriving Repr

namespace Trial

def withoutRepeats : List String → List String
  | a :: b :: rest => if a = b then withoutRepeats (b :: rest) else a :: withoutRepeats (b :: rest)
  | short => short

def actors (requests : List Request) : List String :=
  withoutRepeats (Text.sorted (requests.map Request.actor))

/-- The answer when everyone has gone on. -/
def seen (names : List String) (finished : List Finish) (c : Crowd) : Reply :=
  let places := List.range names.length
  let nameOf (place : Nat) : String := names[place]?.getD ""
  let endings := places.flatMap fun place => finished.filter fun f => f.actor == place
  .seen (endings.map fun f => (nameOf f.actor, f.fault))
    ((places.filter fun place => (c.phase place).isParked).map nameOf) c.lock

/-- Answers one request. -/
def answer (names : List String) (c : Crowd) (r : Request) : Reply × Crowd :=
  let actor := names.idxOf r.actor
  let move := match r.demand with
    | .call what => Move.call actor what
    | .interrupt => Move.interrupt actor
  match c.step move with
  | none => (match r.demand with | .call _ => .busy | .interrupt => .notBlocked, c)
  | some (c, finished) =>
    let (others, c) := c.settle
    (seen names (finished.toList ++ others) c, c)

/-- Answers requests one after the other. -/
def answers (names : List String) : List Request → Crowd → List Reply
  | [], _ => []
  | r :: rest, c =>
    let (reply, c) := answer names c r
    reply :: answers names rest c

def run (requests : List Request) : List Reply :=
  let names := actors requests
  answers names requests { phases := names.map fun _ => .idle }

end Trial

end Checkup.Lock
