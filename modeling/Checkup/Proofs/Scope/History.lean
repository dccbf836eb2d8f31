import Checkup.Proofs.Clock.Order
import Checkup.Proofs.Scope.Cancel
import Checkup.Timeline
import Mathlib.Data.List.Permutation

/-!
Histories of scopes, and the walk to the ancestors.

A scope keeps a deadline that is already the earliest of its ancestors', a cause that was pushed
down to it, and links that come and go. A history tells the same from scratch: a scope is cancelled
when `cancel` or `close` was ever called on it or on an ancestor, or when the own deadline of one of
them has passed. `Agrees` is what ties the two together at every moment.

Waiting is taken apart into looks at the scope, timers that fire and moves of the clock; `Passes`
says what all of these keep.

Main statement: `isCancelled_iff_ancestor` (asking a scope gives the answer of the walk).
-/

namespace Checkup.Timeline

open Clock (IsTime IsSpan)

variable {τ : Type}

/-! ### Histories -/

/-- What can be done with the scopes of a timeline and with its clock. A timer is a cancel that
comes later, perhaps while a wait is blocked. -/
inductive Action (τ : Type) where
  | background
  | child (parent : ScopeId) (timeout : Option τ)
  | cancel (scope : ScopeId) (cause : Fault)
  | close (scope : ScopeId)
  | isCancelled (scope : ScopeId)
  | error (scope : ScopeId)
  | check (scope : ScopeId)
  | wait (scope : ScopeId) (timeout : Option τ)
  | sleep (scope : ScopeId) (timeout : Option τ)
  | advance (span : τ)
  | setTimer (after : τ) (target : ScopeId) (cause : Fault)

variable [Clock τ]

/-- Does an action. -/
def act (t : Timeline τ) : Action τ → Timeline τ
  | .background => t.background.2
  | .child parent timeout => (t.child parent timeout).2
  | .cancel s cause => t.cancel s cause
  | .close s => t.close s
  | .isCancelled s => (t.isCancelled s).2
  | .error s => (t.error s).2
  | .check s => (t.check s).2
  | .wait s timeout => (t.wait s timeout).2
  | .sleep s timeout => (t.sleep s timeout).2
  | .advance span => t.advance span
  | .setTimer after target cause => t.setTimer after target cause

/-- The scopes whose timers were pending and no longer are; a timer that is gone has called
`cancel`. -/
def fired (before after : Timeline τ) : List ScopeId :=
  (before.timers.map Timer.target).diff (after.timers.map Timer.target)

/-- The scopes on which `cancel` or `close` is called while an action is done. -/
def struck (t : Timeline τ) : Action τ → List ScopeId
  | .cancel s _ | .close s => [s]
  | .wait s timeout => t.fired (t.act (.wait s timeout))
  | .sleep s timeout => t.fired (t.act (.sleep s timeout))
  | .advance span => t.fired (t.act (.advance span))
  | _ => []

/-- A history, the latest action first, from a forest without scopes. -/
def play (start : τ) : List (Action τ) → Timeline τ
  | [] => { now := start }
  | action :: past => (play start past).act action

/-- `cancel` or `close` was called on a scope at some moment of a history. -/
def WasStruck (start : τ) (history : List (Action τ)) (s : ScopeId) : Prop :=
  ∃ action past, action :: past <:+ history ∧ s ∈ (play start past).struck action

/-- A scope was made with a timeout, which put its own deadline at a time. -/
def OwnDeadline (start : τ) (history : List (Action τ)) (s : ScopeId) (deadline : τ) : Prop :=
  ∃ parent timeout past, .child parent (some timeout) :: past <:+ history ∧
    s = (play start past).forest.size ∧ deadline = Clock.add (play start past).now timeout

/-- The scopes that an action names. -/
def Action.scope? : Action τ → Option ScopeId
  | .child s _ | .cancel s _ | .close s | .isCancelled s | .error s | .check s | .wait s _
  | .sleep s _ | .setTimer _ s _ => some s
  | .background | .advance _ => none

def Action.childTimeout? : Action τ → Option τ
  | .child _ timeout => timeout
  | _ => none

/-- A history begins at a time, names only scopes that were made before, and gives them timeouts
that are spans. -/
def Possible [Clock.Ordered τ] (start : τ) : List (Action τ) → Prop
  | [] => IsTime start
  | action :: past =>
    (∀ s, action.scope? = some s → s < (play start past).forest.size) ∧
      (∀ timeout, action.childTimeout? = some timeout → IsSpan timeout) ∧ Possible start past

/-! ### Agreement -/

/-- A timeline agrees with what is told of its scopes: on which `cancel` or `close` was called
(`struck`), and which were made with a deadline of their own. -/
structure Agrees [Clock.Ordered τ] (struck : ScopeId → Prop) (own : ScopeId → τ → Prop)
    (t : Timeline τ) : Prop where
  isTime : IsTime t.now
  settled : t.forest.Settled
  target_lt {timer : Timer τ} : timer ∈ t.timers → timer.target < t.forest.size
  cancelled {s : ScopeId} : struck s → (t.forest.cause? s).isSome
  own_lt {s : ScopeId} {d : τ} : own s d → s < t.forest.size
  isTime_deadline {s : ScopeId} {d : τ} : t.forest.deadline? s = some d → IsTime d
  /-- The kept deadline has passed once that of the scope or an ancestor has. -/
  expired_iff {s : ScopeId} (made : s < t.forest.size) (now : τ) :
    t.forest.isExpired now s = true ↔
      ∃ a d, t.forest.Above a s ∧ own a d ∧ Clock.le d now = true
  /-- A cause has its reason at the scope or above. -/
  reason {s : ScopeId} : (t.forest.cause? s).isSome →
    ∃ a, t.forest.Above a s ∧ (struck a ∨ ∃ d, own a d ∧ Clock.le d t.now = true)

namespace Agrees

variable [Clock.Ordered τ] {struck : ScopeId → Prop} {own : ScopeId → τ → Prop} {t : Timeline τ}

/-- Agreement depends on which scopes were struck, not on how that is said. -/
theorem congr {struck' : ScopeId → Prop} {own' : ScopeId → τ → Prop} (h : t.Agrees struck own)
    (sameStruck : ∀ s, struck' s ↔ struck s) (sameOwn : ∀ s d, own' s d ↔ own s d) :
    t.Agrees struck' own' := by
  obtain rfl : struck' = struck := funext fun s => propext (sameStruck s)
  obtain rfl : own' = own := funext fun s => funext fun d => propext (sameOwn s d)
  exact h

theorem start {now : τ} (isTime : IsTime now) :
    ({ now } : Timeline τ).Agrees (fun _ => False) fun _ _ => False := by
  have unmade (s : ScopeId) : ({} : Forest τ).get? s = none := rfl
  refine ⟨isTime, Forest.Formed.empty, ?_, False.elim, False.elim, ?_, fun made => ?_, ?_⟩
  · intro timer mem
    exact absurd mem List.not_mem_nil
  · intro s d h
    simp [Forest.deadline?, unmade] at h
  · exact absurd made (Nat.not_lt_zero _)
  · intro s h
    simp [Forest.cause?, unmade] at h

/-- The answer of a scope is that of the walk to its ancestors. -/
theorem isCancelled_iff (h : t.Agrees struck own) {s : ScopeId} (made : s < t.forest.size) :
    (t.isCancelled s).1 = true ↔
      ∃ a, t.forest.Above a s ∧ (struck a ∨ ∃ d, own a d ∧ Clock.le d t.now = true) := by
  show (t.forest.isCancelled t.now s).1 = true ↔ _
  rw [Forest.fst_isCancelled]
  constructor
  · rintro (known | expired)
    · exact h.reason known
    · obtain ⟨a, d, above, ownA, passed⟩ := (h.expired_iff made t.now).mp expired
      exact ⟨a, above, .inr ⟨d, ownA, passed⟩⟩
  · rintro ⟨a, above, struckA | ⟨d, ownA, passed⟩⟩
    · exact .inl (h.settled.cancelled_of_above above (h.cancelled struckA))
    · exact .inr ((h.expired_iff made t.now).mpr ⟨a, d, above, ownA, passed⟩)

/-! ### What each step keeps -/

/-- Cancelling a scope for which there is a reason, or which is struck now. -/
theorem cancel (h : t.Agrees struck own) {struck' : ScopeId → Prop} {s : ScopeId} {cause : Fault}
    (more : ∀ i, struck i → struck' i)
    (only : ∀ i, struck' i → struck i ∨ i = s ∧ s < t.forest.size)
    (reason : ∃ a, t.forest.Above a s ∧ (struck' a ∨ ∃ d, own a d ∧ Clock.le d t.now = true)) :
    ({ t with forest := t.forest.cancel s cause } : Timeline τ).Agrees struck' own := by
  have aboveIff (a i : ScopeId) : (t.forest.cancel s cause).Above a i ↔ t.forest.Above a i :=
    ⟨Forest.Above.of_parent?_eq fun i _ => by simp, Forest.Above.of_parent?_eq fun i _ => by simp⟩
  constructor
  · exact h.isTime
  · exact Forest.formed_cancel h.settled s cause
  · intro timer mem
    simpa using h.target_lt mem
  · intro i struckI
    rcases only i struckI with before | ⟨rfl, made⟩
    · obtain ⟨known, eq⟩ := Option.isSome_iff_exists.mp (h.cancelled before)
      simp [Forest.cause?_cancel_of_some eq]
    · exact Forest.isSome_cause?_cancel made cause
  · intro i d ownI
    simpa using h.own_lt ownI
  · intro i d deadline
    exact h.isTime_deadline (by simpa using deadline)
  · intro i made now
    simp only [aboveIff]
    rw [← h.expired_iff (by simpa using made)]
    simp [Forest.isExpired]
  · intro i known
    simp only [aboveIff]
    obtain ⟨fault, eq⟩ := Option.isSome_iff_exists.mp known
    rcases Forest.cause?_cancel_cases h.settled eq with before | ⟨-, above⟩
    · obtain ⟨a, aboveA, why⟩ := h.reason (Option.isSome_iff_exists.mpr ⟨fault, before⟩)
      exact ⟨a, aboveA, why.imp_left (more a)⟩
    · obtain ⟨a, aboveS, why⟩ := reason
      exact ⟨a, aboveS.trans above, why⟩

/-- A scope that is struck is cancelled. -/
theorem strike (h : t.Agrees struck own) {s : ScopeId} (made : s < t.forest.size) (cause : Fault) :
    ({ t with forest := t.forest.cancel s cause } : Timeline τ).Agrees
      (fun i => i = s ∨ struck i) own :=
  h.cancel (fun _ => .inr) (fun _ hi => hi.symm.imp_right fun eq => ⟨eq, made⟩)
    ⟨s, .self, .inl (.inl rfl)⟩

/-- Asking a scope only notices what has passed. -/
theorem isCancelled (h : t.Agrees struck own) (s : ScopeId) :
    (t.isCancelled s).2.Agrees struck own := by
  show ({ t with forest := (t.forest.isCancelled t.now s).2 } : Timeline τ).Agrees struck own
  rcases t.forest.isCancelled_cases t.now s with same | ⟨-, expired, cancels⟩
  · rw [same]
    exact h
  · rw [cancels]
    obtain ⟨d, deadline, -⟩ := (Forest.isExpired_iff ..).mp expired
    obtain ⟨a, d, above, ownA, passed⟩ :=
      (h.expired_iff (Forest.lt_size_of_deadline? deadline) t.now).mp expired
    exact h.cancel (fun _ => id) (fun _ => .inl) ⟨a, above, .inr ⟨d, ownA, passed⟩⟩

theorem error (h : t.Agrees struck own) (s : ScopeId) : (t.error s).2.Agrees struck own := by
  show ({ t with forest := (t.forest.error t.now s).2 } : Timeline τ).Agrees struck own
  rw [Forest.error_snd]
  exact h.isCancelled s

theorem check (h : t.Agrees struck own) (s : ScopeId) : (t.check s).2.Agrees struck own :=
  h.error s

/-- Unlinking a scope that is cancelled loses nothing. -/
theorem detach (h : t.Agrees struck own) {s : ScopeId} (p : ScopeId)
    (cancelled : (t.forest.cause? s).isSome) :
    ({ t with forest := t.forest.detach p s } : Timeline τ).Agrees struck own := by
  have aboveIff (a i : ScopeId) : (t.forest.detach p s).Above a i ↔ t.forest.Above a i :=
    ⟨Forest.Above.of_parent?_eq fun i _ => by simp, Forest.Above.of_parent?_eq fun i _ => by simp⟩
  refine ⟨h.isTime, h.settled.formed_detach p (.inl cancelled), fun mem => ?_, fun struckI => ?_,
    fun ownI => ?_, fun deadline => ?_, fun made now => ?_, fun known => ?_⟩
  · simpa using h.target_lt mem
  · simpa using h.cancelled struckI
  · simpa using h.own_lt ownI
  · exact h.isTime_deadline (by simpa using deadline)
  · simp only [aboveIff]
    rw [← h.expired_iff (by simpa using made)]
    simp [Forest.isExpired]
  · simp only [aboveIff]
    exact h.reason (by simpa using known)

theorem close (h : t.Agrees struck own) {s : ScopeId} (made : s < t.forest.size) :
    (t.close s).Agrees (fun i => i = s ∨ struck i) own := by
  have cancelled := h.strike made .scopeCancelled
  show ({ t with forest := t.forest.close s } : Timeline τ).Agrees _ own
  unfold Forest.close
  simp only
  split
  · exact cancelled
  · exact cancelled.detach _ (cancelled.cancelled (.inl rfl))

section Grow

variable {g : Forest τ} {parent : Option ScopeId} {limit : Option τ}

theorem isTime_parent (h : t.Agrees struck own) (parent : Option ScopeId) {d : τ}
    (known : parent.bind t.forest.deadline? = some d) : IsTime d := by
  obtain ⟨p, -, deadline⟩ := Option.bind_eq_some_iff.mp known
  exact h.isTime_deadline deadline

/-- A new scope expires with its own deadline or with the scope above. -/
theorem isExpired_new (h : t.Agrees struck own) (grown : t.forest.Grown g parent limit)
    (isTime : ∀ d, limit = some d → IsTime d) (now : τ) :
    g.isExpired now t.forest.size = true ↔
      (∃ d, limit = some d ∧ Clock.le d now = true) ∨
        ∃ p, parent = some p ∧ t.forest.isExpired now p = true := by
  rw [Forest.isExpired_iff, grown.deadline?_eq, if_pos rfl,
    Clock.earliest?_passed_iff (fun _ => h.isTime_parent parent) isTime, or_comm]
  refine or_congr_right ?_
  constructor
  · rintro ⟨d, known, passed⟩
    obtain ⟨p, mine, deadline⟩ := Option.bind_eq_some_iff.mp known
    exact ⟨p, mine, (Forest.isExpired_iff ..).mpr ⟨d, deadline, passed⟩⟩
  · rintro ⟨p, mine, expired⟩
    obtain ⟨d, deadline, passed⟩ := (Forest.isExpired_iff ..).mp expired
    exact ⟨d, Option.bind_eq_some_iff.mpr ⟨p, mine, deadline⟩, passed⟩

/-- The kept deadlines stay right when a scope is added that is told of. -/
theorem expired_iff_grow (h : t.Agrees struck own) (grown : t.forest.Grown g parent limit)
    (isTime : ∀ d, limit = some d → IsTime d) {s : ScopeId} (made : s < g.size) (now : τ) :
    g.isExpired now s = true ↔ ∃ a d, g.Above a s ∧
      (own a d ∨ a = t.forest.size ∧ limit = some d) ∧ Clock.le d now = true := by
  have notNew {a i : ScopeId} (above : t.forest.Above a i) (old : i < t.forest.size) :
      a ≠ t.forest.size :=
    Nat.ne_of_lt (Nat.lt_of_le_of_lt (h.settled.le_of_above above) old)
  by_cases new : s = t.forest.size
  · subst new
    simp only [h.isExpired_new grown isTime, grown.above_new h.settled]
    constructor
    · rintro (⟨d, limited, passed⟩ | ⟨p, mine, expired⟩)
      · exact ⟨_, d, .inl rfl, .inr ⟨rfl, limited⟩, passed⟩
      · obtain ⟨a, d, above, told, passed⟩ := (h.expired_iff (grown.older mine) now).mp expired
        exact ⟨a, d, .inr ⟨p, mine, above⟩, .inl told, passed⟩
    · rintro ⟨a, d, rfl | ⟨p, mine, above⟩, told | ⟨new, limited⟩, passed⟩
      · exact absurd (h.own_lt told) (Nat.lt_irrefl _)
      · exact .inl ⟨d, limited, passed⟩
      · exact .inr ⟨p, mine, (h.expired_iff (grown.older mine) now).mpr ⟨a, d, above, told, passed⟩⟩
      · exact absurd new (notNew above (grown.older mine))
  · have old : s < t.forest.size := by
      rw [grown.size_eq] at made
      exact Nat.lt_of_le_of_ne (Nat.le_of_lt_succ made) new
    have same : g.isExpired now s = t.forest.isExpired now s := by
      simp [Forest.isExpired, grown.deadline?_eq, new]
    simp only [same, h.expired_iff old, grown.above_of_lt h.settled old]
    constructor
    · rintro ⟨a, d, above, told, passed⟩
      exact ⟨a, d, above, .inl told, passed⟩
    · rintro ⟨a, d, above, told | ⟨new, -⟩, passed⟩
      · exact ⟨a, d, above, told, passed⟩
      · exact absurd new (notNew above old)

/-- A scope more, whose own deadline, if it has one, is told as well. -/
theorem grow (h : t.Agrees struck own) (grown : t.forest.Grown g parent limit)
    (isTime : ∀ d, limit = some d → IsTime d) :
    ({ t with forest := g } : Timeline τ).Agrees struck
      fun s d => own s d ∨ s = t.forest.size ∧ limit = some d := by
  have stillMade {i : ScopeId} (made : i < t.forest.size) : i < g.size := by
    rw [grown.size_eq]
    exact Nat.lt_succ_of_lt made
  constructor
  · exact h.isTime
  · exact grown.settled
  · intro timer mem
    exact stillMade (h.target_lt mem)
  · intro s struckS
    obtain ⟨cause, known⟩ := Option.isSome_iff_exists.mp (h.cancelled struckS)
    rw [grown.cause?_eq (Nat.ne_of_lt (Forest.lt_size_of_cause? known)), known]
    rfl
  · intro s d told
    rcases told with before | ⟨rfl, -⟩
    · exact stillMade (h.own_lt before)
    · rw [grown.size_eq]
      exact Nat.lt_succ_self _
  · intro s d deadline
    rw [grown.deadline?_eq] at deadline
    split at deadline
    · exact Clock.isTime_earliest? (fun _ => h.isTime_parent parent) isTime deadline
    · exact h.isTime_deadline deadline
  · intro s made now
    exact h.expired_iff_grow grown isTime made now
  · intro s known
    have told {a : ScopeId} :
        (struck a ∨ ∃ d, own a d ∧ Clock.le d t.now = true) → (struck a ∨ ∃ d,
          (own a d ∨ a = t.forest.size ∧ limit = some d) ∧ Clock.le d t.now = true) :=
      fun why => why.imp_right fun ⟨d, told, passed⟩ => ⟨d, .inl told, passed⟩
    by_cases new : s = t.forest.size
    · subst new
      obtain ⟨p, mine, cancelled⟩ := grown.born known
      obtain ⟨a, above, why⟩ := h.reason cancelled
      exact ⟨a, (grown.above_new h.settled).mpr (.inr ⟨p, mine, above⟩), told why⟩
    · rw [grown.cause?_eq new] at known
      obtain ⟨cause, eq⟩ := Option.isSome_iff_exists.mp known
      obtain ⟨a, above, why⟩ := h.reason known
      exact ⟨a, (grown.above_of_lt h.settled (Forest.lt_size_of_cause? eq)).mpr above, told why⟩

end Grow

theorem background (h : t.Agrees struck own) : t.background.2.Agrees struck own := by
  refine (h.grow (Forest.grown_background h.settled) fun d limited => ?_).congr (fun _ => Iff.rfl)
    fun s d => ?_
  · cases limited
  · simp

/-- A scope made below another, with a deadline of its own if it is given a timeout. -/
theorem child (h : t.Agrees struck own) {p : ScopeId} (made : p < t.forest.size)
    {timeout : Option τ} (isSpan : ∀ span, timeout = some span → IsSpan span) :
    (t.child p timeout).2.Agrees struck fun s d =>
      own s d ∨ s = t.forest.size ∧ timeout.map (Clock.add t.now) = some d := by
  have asked := h.isCancelled p
  refine (asked.grow (Forest.grown_child h.settled t.now timeout made) fun d limited => ?_).congr
    (fun _ => Iff.rfl) fun s d => ?_
  · obtain ⟨span, given, rfl⟩ := Option.map_eq_some_iff.mp limited
    exact Clock.Ordered.isTime_add h.isTime (isSpan span given)
  · show _ ↔ own s d ∨ s = (t.forest.isCancelled t.now p).2.size ∧ _
    rw [Forest.size_isCancelled]

theorem setTimer (h : t.Agrees struck own) (after : τ) {target : ScopeId}
    (made : target < t.forest.size) (cause : Fault) :
    (t.setTimer after target cause).Agrees struck own := by
  refine { h with target_lt := fun mem => ?_ }
  rcases List.mem_append.mp mem with before | new
  · exact h.target_lt before
  · rw [List.mem_singleton.mp new]
    exact made

/-- The clock goes on; what has passed stays passed. -/
theorem later (h : t.Agrees struck own) (now : τ) :
    ({ t with now := Clock.later t.now now } : Timeline τ).Agrees struck own := by
  refine { h with isTime := Clock.isTime_later h.isTime now, reason := fun known => ?_ }
  obtain ⟨a, above, struckA | ⟨d, ownA, passed⟩⟩ := h.reason known
  · exact ⟨a, above, .inl struckA⟩
  · exact ⟨a, above, .inr ⟨d, ownA, Clock.Ordered.le_trans passed (Clock.le_later h.isTime now)⟩⟩

/-- A timer that fires strikes its scope, and the clock goes on to its time. -/
theorem fire (h : t.Agrees struck own) {timer : Timer τ} {others : List (Timer τ)}
    (pending : t.timers.Perm (timer :: others)) :
    (t.fire timer others).Agrees (fun s => s = timer.target ∨ struck s) own := by
  have made := h.target_lt (pending.mem_iff.mpr List.mem_cons_self)
  have struckNow := (h.later timer.due).strike made timer.cause
  refine { struckNow with target_lt := fun mem => ?_ }
  exact struckNow.target_lt (pending.mem_iff.mpr (List.mem_cons_of_mem timer mem))

end Agrees

/-! ### Time passing -/

theorem append_diff_self (l rest : List ScopeId) : (l ++ rest).diff l = rest := by
  induction l with
  | nil => simp
  | cons s l ih => simpa using ih

/-- A timer that is due is taken out of those that are pending. -/
theorem perm_takeDue? {limit : Option τ} {timers rest : List (Timer τ)} {timer : Timer τ}
    (h : takeDue? limit timers = some (timer, rest)) : timers.Perm (timer :: rest) := by
  induction timers generalizing timer rest with
  | nil => simp [takeDue?] at h
  | cons head tail ih =>
      simp only [takeDue?] at h
      split at h
      · split at h
        · cases h
          exact .refl _
        · cases h
      · rename_i first others found
        split at h
        · cases h
          exact .refl _
        · cases h
          exact ((ih found).cons head).trans (.swap ..)

omit [Clock τ] in
/-- The scopes that were struck by timers are those of the timers that are gone. -/
theorem mem_fired_iff {t t' : Timeline τ} {gone : List (Timer τ)}
    (pending : t.timers.Perm (gone ++ t'.timers)) {s : ScopeId} :
    s ∈ t.fired t' ↔ s ∈ gone.map Timer.target := by
  have targets := (pending.trans List.perm_append_comm).map Timer.target
  rw [List.map_append] at targets
  rw [fired, (targets.diff_right _).mem_iff, append_diff_self]

/-- If no timer is due, none fires. -/
theorem fireDue_of_none {t : Timeline τ} {limit : Option τ} (h : takeDue? limit t.timers = none)
    (awaited : Option ScopeId) : t.fireDue limit awaited = (false, t) := by
  rw [fireDue]
  split
  · rfl
  · rename_i found
    rw [h] at found
    cases found

/-- The timer that is due fires; unless it wakes the wait, the others that are due follow. -/
theorem fireDue_of_some {t : Timeline τ} {limit : Option τ} {timer : Timer τ}
    {others : List (Timer τ)} (h : takeDue? limit t.timers = some (timer, others))
    (awaited : Option ScopeId) :
    t.fireDue limit awaited =
      if (t.fire timer others).isReached awaited then (true, t.fire timer others)
      else (t.fire timer others).fireDue limit awaited := by
  rw [fireDue]
  split
  · rename_i none
    rw [h] at none
    cases none
  · rename_i found
    rw [h] at found
    cases found
    rfl

/-- `t'` comes from `t` by looking at scopes and letting time pass: the timers that are gone have
struck their scopes, and nothing else was struck or made. -/
def Passes [Clock.Ordered τ] (t t' : Timeline τ) : Prop :=
  ∃ gone : List (Timer τ), t.timers.Perm (gone ++ t'.timers) ∧
    ∀ struck own, t.Agrees struck own →
      t'.Agrees (fun s => s ∈ gone.map Timer.target ∨ struck s) own

namespace Passes

variable [Clock.Ordered τ] {t t' t'' : Timeline τ} {s : ScopeId}

/-- A step that fires no timer. -/
theorem quiet (timers : t'.timers = t.timers)
    (keeps : ∀ struck own, t.Agrees struck own → t'.Agrees struck own) : t.Passes t' :=
  ⟨[], by simp [timers], fun struck own h => by simpa using keeps struck own h⟩

theorem refl (t : Timeline τ) : t.Passes t := quiet rfl fun _ _ => id

theorem trans (first : t.Passes t') (second : t'.Passes t'') : t.Passes t'' := by
  obtain ⟨gone, pending, keeps⟩ := first
  obtain ⟨gone', pending', keeps'⟩ := second
  refine ⟨gone ++ gone', ?_, fun struck own h => ?_⟩
  · rw [List.append_assoc]
    exact pending.trans (pending'.append_left gone)
  · refine (keeps' _ own (keeps struck own h)).congr (fun i => ?_) fun _ _ => Iff.rfl
    rw [List.map_append, List.mem_append, or_left_comm, or_assoc]

theorem isCancelled (t : Timeline τ) (s : ScopeId) : t.Passes (t.isCancelled s).2 :=
  quiet rfl fun _ _ h => h.isCancelled s

theorem later (t : Timeline τ) (now : τ) : t.Passes { t with now := Clock.later t.now now } :=
  quiet rfl fun _ _ h => h.later now

theorem fire {timer : Timer τ} {others : List (Timer τ)}
    (pending : t.timers.Perm (timer :: others)) : t.Passes (t.fire timer others) :=
  ⟨[timer], pending, fun struck own h => by simpa using h.fire pending⟩

theorem fireDue (limit : Option τ) (awaited : Option ScopeId) (t : Timeline τ) :
    t.Passes (t.fireDue limit awaited).2 := by
  induction t using fireDue.induct limit awaited with
  | case1 t none =>
      rw [fireDue_of_none none]
      exact refl t
  | case2 t timer others found fired reached =>
      rw [fireDue_of_some found, if_pos reached]
      exact fire (perm_takeDue? found)
  | case3 t timer others found fired unreached ih =>
      rw [fireDue_of_some found, if_neg unreached]
      exact (fire (perm_takeDue? found)).trans ih

theorem advance (t : Timeline τ) (span : τ) (awaited : Option ScopeId) :
    t.Passes (t.advance span awaited) := by
  have moved := fireDue (some (Clock.add t.now span)) awaited t
  unfold Timeline.advance
  simp only
  split
  · rename_i reached
    rwa [reached] at moved
  · rename_i reached
    rw [reached] at moved
    exact moved.trans (later ..)

theorem await? (found : t.await? s = some t') : t.Passes t' := by
  have moved := fireDue none (some s) t
  unfold Timeline.await? at found
  split at found
  · rename_i reached
    cases found
    rwa [reached] at moved
  · cases found

/-- However often a wait looks, it only looks and lets time pass. -/
theorem waitUntil (s : ScopeId) (limit : Option τ) (rounds : Nat) (t : Timeline τ) :
    t.Passes (waitUntil s limit rounds t).2 := by
  induction rounds generalizing t with
  | zero => exact refl t
  | succ rounds ih =>
      have looked := isCancelled t s
      rw [Timeline.waitUntil]
      split
      · rename_i asked
        rwa [asked] at looked
      · rename_i asked
        rw [asked] at looked
        split
        · exact looked
        · split
          · exact looked.trans ((advance ..).trans (ih _))
          · split
            · rename_i woken
              exact looked.trans ((await? woken).trans (ih _))
            · exact looked

theorem wait (t : Timeline τ) (s : ScopeId) (timeout : Option τ) : t.Passes (t.wait s timeout).2 :=
  waitUntil ..

theorem sleep (t : Timeline τ) (s : ScopeId) (timeout : Option τ) :
    t.Passes (t.sleep s timeout).2 := by
  have waited := wait t s timeout
  unfold Timeline.sleep
  split
  · rename_i woken
    rwa [woken] at waited
  · rename_i woken
    rwa [woken] at waited
  · rename_i t' woken
    rw [woken] at waited
    have checked : t'.Passes (t'.check s).2 := quiet rfl fun _ _ h => h.check s
    split
    · rename_i raised
      rw [raised] at checked
      exact waited.trans checked
    · rename_i none
      rw [none] at checked
      exact waited.trans checked

/-- Which scopes were struck is told by the timers that are gone. -/
theorem agrees (passes : t.Passes t') {struck : ScopeId → Prop} {own : ScopeId → τ → Prop}
    (h : t.Agrees struck own) : t'.Agrees (fun s => s ∈ t.fired t' ∨ struck s) own := by
  obtain ⟨gone, pending, keeps⟩ := passes
  exact (keeps struck own h).congr (fun s => or_congr_left (mem_fired_iff pending))
    fun _ _ => Iff.rfl

end Passes

/-! ### The walk -/

section Walk

variable {start : τ} {history past : List (Action τ)} {action : Action τ} {s : ScopeId}

/-- A scope was struck by the latest action, or before it. -/
theorem wasStruck_cons_iff : WasStruck start (action :: past) s ↔
    s ∈ (play start past).struck action ∨ WasStruck start past s := by
  simp only [WasStruck, List.suffix_cons_iff]
  constructor
  · rintro ⟨last, before, eq | later, mem⟩
    · cases eq
      exact .inl mem
    · exact .inr ⟨last, before, later, mem⟩
  · rintro (mem | ⟨last, before, later, mem⟩)
    · exact ⟨action, past, .inl rfl, mem⟩
    · exact ⟨last, before, .inr later, mem⟩

/-- A scope got its own deadline from the latest action, or before it. -/
theorem ownDeadline_cons_iff {deadline : τ} : OwnDeadline start (action :: past) s deadline ↔
    OwnDeadline start past s deadline ∨ s = (play start past).forest.size ∧
      action.childTimeout?.map (Clock.add (play start past).now) = some deadline := by
  simp only [OwnDeadline, List.suffix_cons_iff]
  constructor
  · rintro ⟨parent, timeout, before, eq | later, made, rfl⟩
    · cases eq
      exact .inr ⟨made, rfl⟩
    · exact .inl ⟨parent, timeout, before, later, made, rfl⟩
  · rintro (⟨parent, timeout, before, later, told⟩ | ⟨made, own⟩)
    · exact ⟨parent, timeout, before, .inr later, told⟩
    · obtain ⟨timeout, given, rfl⟩ := Option.map_eq_some_iff.mp own
      cases action with
      | child parent given' =>
          cases given
          exact ⟨parent, timeout, past, .inl rfl, made, rfl⟩
      | _ => cases given

variable [Clock.Ordered τ]

/-- Every action keeps the agreement, given what it strikes and what it makes. -/
theorem Agrees.act {t : Timeline τ} {struck : ScopeId → Prop} {own : ScopeId → τ → Prop}
    (h : t.Agrees struck own) (made : ∀ s, action.scope? = some s → s < t.forest.size)
    (isSpan : ∀ timeout, action.childTimeout? = some timeout → IsSpan timeout) :
    (t.act action).Agrees (fun s => s ∈ t.struck action ∨ struck s) fun s d =>
      own s d ∨ s = t.forest.size ∧ action.childTimeout?.map (Clock.add t.now) = some d := by
  cases action with
  | background =>
      exact h.background.congr (by simp [Timeline.struck]) (by simp [Action.childTimeout?])
  | child parent timeout =>
      exact (h.child (made parent rfl) isSpan).congr (by simp [Timeline.struck]) fun _ _ => Iff.rfl
  | cancel s cause =>
      exact (h.strike (made s rfl) cause).congr (by simp [Timeline.struck])
        (by simp [Action.childTimeout?])
  | close s =>
      exact (h.close (made s rfl)).congr (by simp [Timeline.struck])
        (by simp [Action.childTimeout?])
  | isCancelled s =>
      exact (h.isCancelled s).congr (by simp [Timeline.struck]) (by simp [Action.childTimeout?])
  | error s => exact (h.error s).congr (by simp [Timeline.struck]) (by simp [Action.childTimeout?])
  | check s => exact (h.check s).congr (by simp [Timeline.struck]) (by simp [Action.childTimeout?])
  | wait s timeout =>
      exact ((Passes.wait t s timeout).agrees h).congr (fun _ => Iff.rfl)
        (by simp [Action.childTimeout?])
  | sleep s timeout =>
      exact ((Passes.sleep t s timeout).agrees h).congr (fun _ => Iff.rfl)
        (by simp [Action.childTimeout?])
  | advance span =>
      exact ((Passes.advance t span none).agrees h).congr (fun _ => Iff.rfl)
        (by simp [Action.childTimeout?])
  | setTimer after target cause =>
      exact (h.setTimer after (made target rfl) cause).congr (by simp [Timeline.struck])
        (by simp [Action.childTimeout?])

/-- At the end of a history, forest and history agree. -/
theorem agrees_play (possible : Possible start history) :
    (play start history).Agrees (WasStruck start history) (OwnDeadline start history) := by
  induction history with
  | nil =>
      refine (Agrees.start possible).congr (fun s => ?_) fun s d => ?_
      · simp [WasStruck]
      · simp [OwnDeadline]
  | cons action past ih =>
      obtain ⟨made, isSpan, before⟩ := possible
      exact ((ih before).act made isSpan).congr (fun _ => wasStruck_cons_iff)
        fun _ _ => ownDeadline_cons_iff

/-- Asking a scope gives the answer of the walk: at it or at an ancestor there is one that `cancel`
or `close` was ever called on, or whose own deadline has passed. -/
theorem isCancelled_iff_ancestor (possible : Possible start history)
    (made : s < (play start history).forest.size) :
    ((play start history).isCancelled s).1 = true ↔
      ∃ a, (play start history).forest.Above a s ∧ (WasStruck start history a ∨
        ∃ d, OwnDeadline start history a d ∧ Clock.le d (play start history).now = true) :=
  (agrees_play possible).isCancelled_iff made

end Walk

/-- A scope with a timeout, one below it that is waited for, and a timer that cancels the root while
the wait is blocked. -/
def wokenFromAbove : List (Action Rat) :=
  [.wait 2 (some 10), .setTimer 3 0 .scopeCancelled, .child 1 none, .child 0 (some 5), .background]

theorem wokenFromAbove_is_cancelled : Possible 0 wokenFromAbove ∧
    2 < (play 0 wokenFromAbove).forest.size ∧
    ∃ a, (play 0 wokenFromAbove).forest.Above a 2 ∧ (WasStruck 0 wokenFromAbove a ∨
      ∃ d, OwnDeadline 0 wokenFromAbove a d ∧
        Clock.le d (play 0 wokenFromAbove).now = true) := by
  have made : 2 < (play 0 wokenFromAbove).forest.size := by cbv
  have possible : Possible 0 wokenFromAbove := by
    simp only [wokenFromAbove, Possible, Action.scope?, Action.childTimeout?, IsTime, IsSpan,
      Option.some.injEq, forall_eq', reduceCtorEq, false_implies, implies_true, and_true, true_and]
    refine ⟨?_, ?_, ?_, ?_⟩ <;> cbv
  exact ⟨possible, made, (isCancelled_iff_ancestor possible made).mp (by cbv)⟩

end Checkup.Timeline
