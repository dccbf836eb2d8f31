import Checkup.Clock

/-!
Cancellation scopes: a forest of handles, each live or cancelled for a cause, some with a deadline.

Cancelling a scope cancels the live scopes linked below it. A scope made below another inherits the
earlier of the two deadlines, is linked below it while that one is live, and is born cancelled
otherwise. A deadline that has passed is only noticed when a scope is asked.

Operations on the forest are put together from three atomic pieces: `claim` (set the cause of a
live scope and take its links), `link` and `detach`. `spread` cancels scope after scope and returns
the scopes it called on, in order.

Main statements: `live_claim_lt` (claiming a live scope leaves one live scope fewer, which is why
`spread` ends) and `claim_of_cancelled` (the first cause stays).
-/

namespace Checkup

/-- A scope is known by the order of its making. -/
abbrev ScopeId := Nat

/-- One scope: where it hangs, when it expires, why it is cancelled, what is linked below it. -/
structure Scope (τ : Type) where
  parent : Option ScopeId := none
  deadline : Option τ := none
  cause : Option Fault := none
  children : List ScopeId := []
  deriving Repr

/-- The scopes made so far, in the order of their making. -/
structure Forest (τ : Type) where
  scopes : Array (Scope τ) := #[]
  deriving Repr

namespace Forest

variable {τ : Type}

def get? (f : Forest τ) (s : ScopeId) : Option (Scope τ) := f.scopes[s]?

/-- The number that the next scope gets. -/
def size (f : Forest τ) : Nat := f.scopes.size

/-- Why a scope is cancelled, if it is known to be. -/
def cause? (f : Forest τ) (s : ScopeId) : Option Fault := (f.get? s).bind Scope.cause

def deadline? (f : Forest τ) (s : ScopeId) : Option τ := (f.get? s).bind Scope.deadline

def parent? (f : Forest τ) (s : ScopeId) : Option ScopeId := (f.get? s).bind Scope.parent

def children (f : Forest τ) (s : ScopeId) : List ScopeId := ((f.get? s).map Scope.children).getD []

def modify (f : Forest τ) (s : ScopeId) (change : Scope τ → Scope τ) : Forest τ :=
  { scopes := f.scopes.modify s change }

/-- Adds a scope; its number is the size of the forest before. -/
def push (f : Forest τ) (scope : Scope τ) : Forest τ := { scopes := f.scopes.push scope }

/-! ### Atomic pieces -/

/-- Sets the cause of a live scope and takes its links. A scope that has a cause is left alone. -/
def claim (f : Forest τ) (s : ScopeId) (cause : Fault) : List ScopeId × Forest τ :=
  if h : s < f.scopes.size then
    match f.scopes[s].cause with
    | some _ => ([], f)
    | none =>
      (f.scopes[s].children,
        { scopes := f.scopes.set s { f.scopes[s] with cause := some cause, children := [] } })
  else ([], f)

def link (f : Forest τ) (parent child : ScopeId) : Forest τ :=
  f.modify parent fun scope => { scope with children := scope.children ++ [child] }

def detach (f : Forest τ) (parent child : ScopeId) : Forest τ :=
  f.modify parent fun scope => { scope with children := scope.children.erase child }

/-! ### Cancelling -/

/-- How many scopes have no cause. -/
def live (f : Forest τ) : Nat := f.scopes.countP fun scope => scope.cause.isNone

theorem claim_of_cancelled {f : Forest τ} {s : ScopeId} {known : Fault}
    (h : f.cause? s = some known) (new : Fault) : f.claim s new = ([], f) := by
  unfold cause? get? at h
  unfold claim
  split
  · rename_i lt
    rw [Array.getElem?_eq_getElem lt, Option.bind_some] at h
    rw [h]
  · rfl

/-- Claiming either changes nothing and returns no links, or leaves one live scope fewer. -/
theorem live_claim_lt (f : Forest τ) (s : ScopeId) (cause : Fault) :
    (f.claim s cause) = ([], f) ∨ (f.claim s cause).2.live < f.live := by
  unfold claim
  split
  · rename_i lt
    split
    · exact .inl rfl
    · rename_i isLive
      refine .inr ?_
      have member : 0 < f.scopes.countP fun scope => scope.cause.isNone :=
        Array.countP_pos_iff.mpr ⟨f.scopes[s], Array.getElem_mem lt, by simp [isLive]⟩
      simp only [live, Array.countP_set, isLive]
      simp only [Option.isNone_none, if_true, Option.isNone_some, Bool.false_eq_true, if_false]
      omega
  · exact .inl rfl

/-- Cancels the scopes of a list and all that is linked below them, one call at a time; returns
the scopes called on, in order. The stack that nested calls need is left out: there is no bound on
how deep scopes may hang. -/
def spread (cause : Fault) (todo : List ScopeId) (f : Forest τ) : List ScopeId × Forest τ :=
  match todo with
  | [] => ([], f)
  | s :: rest =>
    match _h : f.claim s cause with
    | (below, claimed) =>
      let (called, done) := spread cause (below ++ rest) claimed
      (s :: called, done)
termination_by (f.live, todo.length)
decreasing_by
  rcases live_claim_lt f s cause with same | fewer
  · rw [_h] at same
    obtain ⟨rfl, rfl⟩ := Prod.mk.inj same
    exact Prod.Lex.right _ (by simp)
  · rw [_h] at fewer
    exact Prod.Lex.left _ _ fewer

/-- Cancels a scope and every live scope linked below it. -/
def cancel (f : Forest τ) (s : ScopeId) (cause : Fault) : Forest τ := (spread cause [s] f).2

/-! ### Operations -/

variable [Clock τ]

def isExpired (f : Forest τ) (now : τ) (s : ScopeId) : Bool :=
  (f.deadline? s).elim false fun deadline => Clock.le deadline now

/-- Asks whether a scope is cancelled; a deadline found to have passed cancels it. -/
def isCancelled (f : Forest τ) (now : τ) (s : ScopeId) : Bool × Forest τ :=
  if (f.cause? s).isSome then (true, f)
  else if f.isExpired now s then (true, f.cancel s .deadlineExceeded)
  else (false, f)

/-- Asks why a scope is cancelled. -/
def error (f : Forest τ) (now : τ) (s : ScopeId) : Option Fault × Forest τ :=
  match f.isCancelled now s with
  | (true, f) => (f.cause? s, f)
  | (false, f) => (none, f)

/-- The seconds left to a scope, never below zero; none without a deadline. -/
def remaining (f : Forest τ) (now : τ) (s : ScopeId) : Option τ :=
  (f.deadline? s).map fun deadline => Clock.later Clock.zero (Clock.sub deadline now)

def background (f : Forest τ) : ScopeId × Forest τ := (f.size, f.push {})

/-- Makes a scope below another, with a deadline of its own some time from now if one is given. An
expired scope above is noticed first, so that the new one is born cancelled for it. -/
def child (f : Forest τ) (now : τ) (parent : ScopeId) (timeout : Option τ) :
    ScopeId × Forest τ :=
  let own := timeout.map (Clock.add now)
  let deadline := Clock.earliest? (f.deadline? parent) own
  let (_, f) := f.isCancelled now parent
  let made := f.push { parent := some parent, deadline }
  match f.cause? parent with
  | none => (f.size, made.link parent f.size)
  | some cause => (f.size, made.cancel f.size cause)

/-- Cancels a scope and unlinks it from the one above. -/
def close (f : Forest τ) (s : ScopeId) : Forest τ :=
  let f := f.cancel s .scopeCancelled
  match f.parent? s with
  | none => f
  | some parent => f.detach parent s

/-- What a check of a scope raises: the cause, made anew. -/
def check (f : Forest τ) (now : τ) (s : ScopeId) : Option Fault × Forest τ :=
  let (cause, f) := f.error now s
  (cause.map Fault.fresh, f)

/-- A scope in one line. -/
def shown (f : Forest Float) (now : Float) (s : ScopeId) : String :=
  let state := if (f.cause? s).isSome then "cancelled" else "live"
  let left := (f.remaining now s).elim "None" fun t => Decimal.text t
  s!"<CancelScope({state}, remaining={left})>"

end Forest

end Checkup
