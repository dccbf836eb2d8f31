import Checkup.Scope

/-!
Time passing over a forest of scopes.

A timeline has a clock that only goes forward, and timers, each of which cancels a scope when the
clock reaches it. Moving the clock fires the timers on the way in the order in which they are due,
of those due together the one set first; while one fires, the clock stands at its time.

`wait` blocks on a scope: it wakes when the scope is cancelled, when the scope's deadline passes or
when the given time has passed, whichever comes first.

Main statement: `length_takeDue?` (each timer fires once, so a move ends).
-/

namespace Checkup

/-- Cancels a scope when the clock reaches a time. -/
structure Timer (τ : Type) where
  due : τ
  target : ScopeId
  cause : Fault
  deriving Repr

/-- A clock, the scopes, and the timers in the order in which they were set. -/
structure Timeline (τ : Type) where
  now : τ
  forest : Forest τ := {}
  timers : List (Timer τ) := []
  deriving Repr

/-- What woke a wait: the scope is cancelled, the time has passed, or nothing ever does. -/
inductive Wake where
  | cancelled
  | elapsed
  | never
  deriving DecidableEq, Repr

namespace Timeline

variable {τ : Type} [Clock τ]

/-! ### Timers -/

/-- Takes the first timer due by `limit` out of a list: the one with the earliest time, of several
the one set first. Without a limit every timer is due whose time can be compared at all. -/
def takeDue? (limit : Option τ) : List (Timer τ) → Option (Timer τ × List (Timer τ))
  | [] => none
  | timer :: rest =>
    let isDue := Clock.le timer.due (limit.getD timer.due)
    match takeDue? limit rest with
    | none => if isDue then some (timer, rest) else none
    | some (first, others) =>
      if isDue && !Clock.lt first.due timer.due then some (timer, rest)
      else some (first, timer :: others)

theorem length_takeDue? {limit : Option τ} {timers rest : List (Timer τ)} {timer : Timer τ}
    (h : takeDue? limit timers = some (timer, rest)) : rest.length + 1 = timers.length := by
  induction timers generalizing timer rest with
  | nil => simp [takeDue?] at h
  | cons head tail ih =>
    simp only [takeDue?] at h
    split at h
    · split at h
      · simp only [Option.some.injEq, Prod.mk.injEq] at h
        simp [h.2]
      · simp at h
    · rename_i first others found
      split at h
      · simp only [Option.some.injEq, Prod.mk.injEq] at h
        simp [h.2]
      · simp only [Option.some.injEq, Prod.mk.injEq] at h
        have := ih found
        simp [← h.2, this]

def setTimer (t : Timeline τ) (after : τ) (target : ScopeId) (cause : Fault) : Timeline τ :=
  { t with timers := t.timers ++ [{ due := Clock.add t.now after, target, cause }] }

/-- Fires a timer that was taken out: the clock goes to its time, and its scope is cancelled. -/
def fire (t : Timeline τ) (timer : Timer τ) (others : List (Timer τ)) : Timeline τ :=
  { now := Clock.later t.now timer.due
    forest := t.forest.cancel timer.target timer.cause
    timers := others }

/-! ### Moving the clock -/

/-- Whether the scope that is waited for, if any, is cancelled. -/
def isReached (t : Timeline τ) (awaited : Option ScopeId) : Bool :=
  awaited.elim false fun s => (t.forest.cause? s).isSome

/-- Fires the timers due by `limit` one after the other; stops early, and says so, when one cancels
the scope that is waited for. -/
def fireDue (limit : Option τ) (awaited : Option ScopeId) (t : Timeline τ) :
    Bool × Timeline τ :=
  match _h : takeDue? limit t.timers with
  | none => (false, t)
  | some (timer, others) =>
    let fired := t.fire timer others
    if fired.isReached awaited then (true, fired) else fireDue limit awaited fired
termination_by t.timers.length
decreasing_by
  have := length_takeDue? _h
  simp only [fire]
  omega

/-- Moves the clock by some time, or up to the timer that cancels the scope waited for. Moving by
nothing or less fires what is due by then and leaves the clock. -/
def advance (t : Timeline τ) (span : τ) (awaited : Option ScopeId := none) : Timeline τ :=
  let target := Clock.add t.now span
  match t.fireDue (some target) awaited with
  | (true, t) => t
  | (false, t) => { t with now := Clock.later t.now target }

/-- Moves the clock up to the timer that cancels a scope; `none` if there is no such timer. -/
def await? (t : Timeline τ) (awaited : ScopeId) : Option (Timeline τ) :=
  match t.fireDue none (some awaited) with
  | (true, t) => some t
  | (false, _) => none

/-! ### Scopes in time -/

def isCancelled (t : Timeline τ) (s : ScopeId) : Bool × Timeline τ :=
  let (cancelled, forest) := t.forest.isCancelled t.now s
  (cancelled, { t with forest })

def error (t : Timeline τ) (s : ScopeId) : Option Fault × Timeline τ :=
  let (cause, forest) := t.forest.error t.now s
  (cause, { t with forest })

def check (t : Timeline τ) (s : ScopeId) : Option Fault × Timeline τ :=
  let (cause, forest) := t.forest.check t.now s
  (cause, { t with forest })

def remaining (t : Timeline τ) (s : ScopeId) : Option τ := t.forest.remaining t.now s

def background (t : Timeline τ) : ScopeId × Timeline τ :=
  let (s, forest) := t.forest.background
  (s, { t with forest })

def child (t : Timeline τ) (parent : ScopeId) (timeout : Option τ) : ScopeId × Timeline τ :=
  let (s, forest) := t.forest.child t.now parent timeout
  (s, { t with forest })

def cancel (t : Timeline τ) (s : ScopeId) (cause : Fault) : Timeline τ :=
  { t with forest := t.forest.cancel s cause }

def close (t : Timeline τ) (s : ScopeId) : Timeline τ := { t with forest := t.forest.close s }

/-! ### Waiting -/

/-- Blocks until a scope is cancelled or the clock reaches `until_`, looking at most `rounds`
times. -/
def waitUntil (s : ScopeId) (until_ : Option τ) : (rounds : Nat) → Timeline τ → Wake × Timeline τ
  | 0, t => (.never, t)
  | rounds + 1, t =>
    match t.isCancelled s with
    | (true, t) => (.cancelled, t)
    | (false, t) =>
      if until_.elim false fun limit => Clock.le limit t.now then (.elapsed, t)
      else match Clock.earliest? until_ (t.forest.deadline? s) with
        | some limit => waitUntil s until_ rounds (t.advance (Clock.sub limit t.now) (some s))
        | none => match t.await? s with
          | some t => waitUntil s until_ rounds t
          | none => (.never, t)

/-- How often a wait looks. In exact time the second look ends it. Rounding can leave the clock
short of the limit once; from there the difference is exact, so the third look ends it. -/
def waitRounds : Nat := 4

/-- Blocks until a scope is cancelled or some time has passed. -/
def wait (t : Timeline τ) (s : ScopeId) (timeout : Option τ) : Wake × Timeline τ :=
  waitUntil s (timeout.map (Clock.add t.now)) waitRounds t

/-- Blocks for some time; raises what a check of the scope raises if it is cancelled by then. -/
def sleep (t : Timeline τ) (s : ScopeId) (timeout : Option τ) : Outcome Unit × Timeline τ :=
  match t.wait s timeout with
  | (.never, t) => (.stalled, t)
  | (.elapsed, t) => (.returned (), t)
  | (.cancelled, t) =>
    match t.check s with
    | (some fault, t) => (.raised fault, t)
    | (none, t) => (.returned (), t)

end Timeline

end Checkup
