import Checkup.Scope

/-!
Threads at work on one tree of scopes, as a system of steps.

A thread makes one call after the other. A call is a sequence of steps: reading the clock, looking
at a cause, and the critical sections of single scopes, which are `Forest.claim`, `Forest.link` and
`Forest.detach`. Between any two steps of one thread the others and the clock may go on. Cancelling
claims one scope in a step and owes those that were linked below it to later steps of the same
thread, in any order: what is linked below a scope is a set. A scope is known to the threads only
once the call that made it has returned.
-/

namespace Checkup

namespace Threads

/-- What a thread can call on a scope that is known. -/
inductive Call (τ : Type) where
  | child (parent : ScopeId) (timeout : Option τ)
  | cancel (scope : ScopeId) (cause : Fault)
  | close (scope : ScopeId)
  | isCancelled (scope : ScopeId)

namespace Call

variable {τ : Type}

def scope : Call τ → ScopeId
  | child s _ | cancel s _ | close s | isCancelled s => s

end Call

/-- What is left of a call when it has looked at its scope and owes no cancel. -/
inductive Rest where
  | finish
  /-- Unlink the scope from the one above. -/
  | detach (scope : ScopeId)
  /-- Link the new scope, or cancel it if the one above is cancelled. -/
  | link (parent child : ScopeId)
  /-- Hand the new scope out. -/
  | hand (child : ScopeId)

inductive Place (τ : Type) where
  | idle
  /-- About to read the clock and make a scope. -/
  | making (parent : ScopeId) (timeout : Option τ)
  /-- About to look whether a scope has a cause. -/
  | looking (scope : ScopeId) (rest : Rest)
  /-- Has seen no cause and is about to compare the clock with the deadline. -/
  | timing (scope : ScopeId) (rest : Rest)
  /-- About to claim a scope, and owes others a cancel after it. -/
  | cancelling (cause : Fault) (scope : ScopeId) (others : List ScopeId) (rest : Rest)
  | resting (rest : Rest)

namespace Place

variable {τ : Type}

/-- A thread that owes cancels to some scopes, or none. -/
def owing (cause : Fault) (todo : List ScopeId) (rest : Rest) : Place τ :=
  match todo with
  | [] => resting rest
  | s :: others => cancelling cause s others rest

/-- Where a thread is when it has made a call. -/
def ofCall : Call τ → Place τ
  | .child parent timeout => making parent timeout
  | .cancel s cause => cancelling cause s [] .finish
  | .close s => cancelling .scopeCancelled s [] (.detach s)
  | .isCancelled s => looking s .finish

/-- The scopes that a thread still owes a cancel, the next first. -/
def todo : Place τ → List ScopeId
  | cancelling _ s others _ => s :: others
  | _ => []

/-- What is left of a call, if that is known already. -/
def rest? : Place τ → Option Rest
  | idle | making .. => none
  | looking _ rest | timing _ rest | cancelling _ _ _ rest | resting rest => some rest

end Place

end Threads

/-- The tree, the clock, the scopes that are known, and where each thread is. -/
structure Threads (τ : Type) where
  now : τ
  forest : Forest τ
  known : List ScopeId
  places : List (Threads.Place τ)

namespace Threads

variable {τ : Type}

def start (count : Nat) (now : τ) : Threads τ :=
  let (root, forest) := ({} : Forest τ).background
  { now, forest, known := [root], places := List.replicate count .idle }

def IsQuiet (t : Threads τ) : Prop := ∀ place ∈ t.places, place = .idle

/-- Threads are known by their numbers: one makes a call, one claims the scope whose turn it is, to
go on with those below it in some order, one makes another step, or time passes. -/
inductive Step (τ : Type) where
  | call (thread : Nat) (what : Call τ)
  | claim (thread : Nat) (order : List ScopeId)
  | go (thread : Nat)
  | pass (now : τ)

/-- The claim of a thread that is at a place; `none` if it owes no cancel. -/
def claimFrom (t : Threads τ) (thread : Nat) (order : List ScopeId) :
    Place τ → Option (Threads τ)
  | .cancelling cause s others rest =>
    let (below, forest) := t.forest.claim s cause
    if order.isPerm below then
      some { t with forest, places := t.places.set thread (.owing cause (order ++ others) rest) }
    else none
  | _ => none

variable [Clock τ]

/-- Any other step of a thread that is at a place; `none` if its next step is not of this kind. -/
def goFrom (t : Threads τ) (thread : Nat) (place : Place τ) : Option (Threads τ) :=
  let at' (t : Threads τ) (next : Place τ) : Option (Threads τ) :=
    some { t with places := t.places.set thread next }
  match place with
  | .idle | .cancelling .. => none
  | .making p timeout =>
    let deadline := Clock.earliest? (t.forest.deadline? p) (timeout.map (Clock.add t.now))
    at' { t with forest := t.forest.push { parent := some p, deadline } }
      (.looking p (.link p t.forest.size))
  | .looking s rest =>
    at' t (if (t.forest.cause? s).isSome then .resting rest else .timing s rest)
  | .timing s rest =>
    at' t (if t.forest.isExpired t.now s then .cancelling .deadlineExceeded s [] rest
      else .resting rest)
  | .resting .finish => at' t .idle
  | .resting (.detach s) =>
    match t.forest.parent? s with
    | none => at' t .idle
    | some p => at' { t with forest := t.forest.detach p s } .idle
  | .resting (.link p c) =>
    match t.forest.cause? p with
    | none => at' { t with forest := t.forest.link p c } (.resting (.hand c))
    | some cause => at' t (.cancelling cause c [] (.hand c))
  | .resting (.hand c) => at' { t with known := c :: t.known } .idle

/-- Makes a step; `none` if it cannot be made. -/
def step (t : Threads τ) : Step τ → Option (Threads τ)
  | .call thread what =>
    match t.places[thread]? with
    | some .idle =>
      if what.scope ∈ t.known then some { t with places := t.places.set thread (.ofCall what) }
      else none
    | _ => none
  | .claim thread order => t.places[thread]?.bind (t.claimFrom thread order)
  | .go thread => t.places[thread]?.bind (t.goFrom thread)
  | .pass now => some { t with now := Clock.later t.now now }

def run (t : Threads τ) : List (Step τ) → Option (Threads τ)
  | [] => some t
  | step :: steps => (t.step step).bind fun t => t.run steps

end Threads

end Checkup
