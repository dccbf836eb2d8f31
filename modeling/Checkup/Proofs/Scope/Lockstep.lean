import Checkup.Proofs.Scope.History

/-!
Two timelines that move in step.

Where the clocks of two timelines show the same, the same timers are pending and a tie between the
two stays as these fire and as time goes on (`Lockstep`), the same timers fire whenever both clocks
are moved. Where two scopes, one of either, are cancelled and expire alike as well (`Twins`), they
cannot be told apart by asking them or by waiting for them.

Main statements: `Lockstep.fireDue` and `Lockstep.advance` (moved alike, both go the same way) and
`Lockstep.wait` (a wait ends alike, at the same time).
-/

namespace Checkup.Timeline

variable {τ : Type} [Clock τ] {B : Timeline τ → Timeline τ → Prop} {t u : Timeline τ}
  {s s' : ScopeId} {a a' : Option ScopeId}

/-- Asking why leaves what asking whether leaves. -/
theorem error_snd (t : Timeline τ) (s : ScopeId) : (t.error s).2 = (t.isCancelled s).2 := by
  show ({ t with forest := (t.forest.error t.now s).2 } : Timeline τ) =
    { t with forest := (t.forest.isCancelled t.now s).2 }
  rw [Forest.error_snd]

theorem error_fst (t : Timeline τ) (s : ScopeId) : (t.error s).1 =
    if (t.isCancelled s).1 then (t.isCancelled s).2.forest.cause? s else none :=
  Forest.error_fst ..

theorem check_snd (t : Timeline τ) (s : ScopeId) : (t.check s).2 = (t.isCancelled s).2 :=
  error_snd t s

/-! ### Tied timelines -/

/-- Tied timelines show the same time and have the same timers pending, and stay tied as these fire
and as time goes on. -/
structure Lockstep (B : Timeline τ → Timeline τ → Prop) : Prop where
  now_eq {t u : Timeline τ} : B t u → u.now = t.now
  timers_eq {t u : Timeline τ} : B t u → u.timers = t.timers
  later {t u : Timeline τ} (now : τ) : B t u →
    B { t with now := Clock.later t.now now } { u with now := Clock.later u.now now }
  fire {t u : Timeline τ} {timer : Timer τ} {others : List (Timer τ)} : B t u →
    t.timers.Perm (timer :: others) → B (t.fire timer others) (u.fire timer others)

/-- Two scopes, one of either of tied timelines, are cancelled for the same cause and expire at the
same time, and the timelines stay tied when both scopes are asked. -/
structure Twins (B : Timeline τ → Timeline τ → Prop) (s s' : ScopeId) : Prop where
  deadline_eq {t u : Timeline τ} : B t u → u.forest.deadline? s' = t.forest.deadline? s
  cause_eq {t u : Timeline τ} : B t u → u.forest.cause? s' = t.forest.cause? s
  isCancelled {t u : Timeline τ} : B t u → B (t.isCancelled s).2 (u.isCancelled s').2

namespace Lockstep

variable (steps : Lockstep B)
include steps

/-! ### Timers -/

/-- The same timers fire, and stop at the same one. -/
theorem fireDue (reached : ∀ {t u : Timeline τ}, B t u → u.isReached a' = t.isReached a)
    (limit : Option τ) (t : Timeline τ) {u : Timeline τ} (b : B t u) :
    (u.fireDue limit a').1 = (t.fireDue limit a).1 ∧
      B (t.fireDue limit a).2 (u.fireDue limit a').2 := by
  induction t using fireDue.induct limit a generalizing u with
  | case1 t none =>
      rw [fireDue_of_none none, fireDue_of_none (steps.timers_eq b ▸ none)]
      exact ⟨rfl, b⟩
  | case2 t timer others found fired =>
      rename_i stops
      have fires := steps.fire b (perm_takeDue? found)
      rw [fireDue_of_some found, fireDue_of_some (steps.timers_eq b ▸ found), reached fires,
        if_pos stops, if_pos stops]
      exact ⟨rfl, fires⟩
  | case3 t timer others found fired goesOn =>
      rename_i ih
      have fires := steps.fire b (perm_takeDue? found)
      rw [fireDue_of_some found, fireDue_of_some (steps.timers_eq b ▸ found), reached fires,
        if_neg goesOn, if_neg goesOn]
      exact ih fires

/-- Both clocks go the same way. -/
theorem advance (reached : ∀ {t u : Timeline τ}, B t u → u.isReached a' = t.isReached a)
    (span : τ) (b : B t u) : B (t.advance span a) (u.advance span a') := by
  obtain ⟨same, moved⟩ := steps.fireDue reached (some (Clock.add t.now span)) t b
  simp only [Timeline.advance, steps.now_eq b]
  cases fires : t.fireDue (some (Clock.add t.now span)) a with
  | mk stopped t' =>
      cases fires' : u.fireDue (some (Clock.add t.now span)) a' with
      | mk stopped' u' =>
          rw [fires, fires'] at same moved
          obtain rfl : stopped' = stopped := same
          cases stopped' with
          | true => exact moved
          | false => exact steps.later _ moved

/-- Where no scope is waited for. -/
theorem pass (span : τ) (b : B t u) : B (t.advance span) (u.advance span) :=
  steps.advance (fun _ => rfl) span b

/-! ### Scopes that are asked -/

variable (twins : Twins B s s')
include twins

omit steps in
theorem isReached_eq (b : B t u) : u.isReached (some s') = t.isReached (some s) := by
  simp only [isReached, Option.elim_some, twins.cause_eq b]

/-- Either both are woken by a timer, or neither is. -/
theorem await? (b : B t u) : (t.await? s = none ∧ u.await? s' = none) ∨
    ∃ t' u', t.await? s = some t' ∧ u.await? s' = some u' ∧ B t' u' := by
  obtain ⟨same, moved⟩ := steps.fireDue (isReached_eq twins) none t b
  simp only [Timeline.await?]
  cases fires : t.fireDue none (some s) with
  | mk stopped t' =>
      cases fires' : u.fireDue none (some s') with
      | mk stopped' u' =>
          rw [fires, fires'] at same moved
          obtain rfl : stopped' = stopped := same
          cases stopped' with
          | true => exact .inr ⟨t', u', rfl, rfl, moved⟩
          | false => exact .inl ⟨rfl, rfl⟩

theorem fst_isCancelled (b : B t u) : (u.isCancelled s').1 = (t.isCancelled s).1 := by
  have expires : u.forest.isExpired u.now s' = t.forest.isExpired t.now s := by
    simp only [Forest.isExpired, twins.deadline_eq b, steps.now_eq b]
  simp only [Timeline.isCancelled, Forest.isCancelled, twins.cause_eq b, expires]
  split
  · rfl
  · split <;> rfl

/-- They are cancelled or not alike, and for the same cause. -/
theorem error (b : B t u) :
    (u.error s').1 = (t.error s).1 ∧ B (t.error s).2 (u.error s').2 := by
  have asked := twins.isCancelled b
  rw [error_fst, error_fst, error_snd, error_snd, steps.fst_isCancelled twins b,
    twins.cause_eq asked]
  exact ⟨rfl, asked⟩

theorem remaining (b : B t u) : u.remaining s' = t.remaining s := by
  simp only [Timeline.remaining, Forest.remaining, steps.now_eq b, twins.deadline_eq b]

/-! ### Scopes that are waited for -/

/-- Looking at the one and at the other, at the same times, ends alike. -/
theorem waitUntil (limit : Option τ) (rounds : Nat) {t u : Timeline τ} (b : B t u) :
    (waitUntil s' limit rounds u).1 = (waitUntil s limit rounds t).1 ∧
      B (waitUntil s limit rounds t).2 (waitUntil s' limit rounds u).2 := by
  induction rounds generalizing t u with
  | zero => exact ⟨rfl, b⟩
  | succ rounds ih =>
      have same := steps.fst_isCancelled twins b
      have looked := twins.isCancelled b
      rw [Timeline.waitUntil, Timeline.waitUntil]
      cases looks : t.isCancelled s with
      | mk cancelled t' =>
          cases looks' : u.isCancelled s' with
          | mk cancelled' u' =>
              rw [looks, looks'] at same looked
              obtain rfl : cancelled' = cancelled := same
              cases cancelled' with
              | true => exact ⟨rfl, looked⟩
              | false =>
                  have looked : B t' u' := looked
                  simp only [steps.now_eq looked, twins.deadline_eq looked]
                  by_cases elapsed : limit.elim false (fun time => Clock.le time t'.now) = true
                  · rw [if_pos elapsed, if_pos elapsed]
                    exact ⟨rfl, looked⟩
                  · rw [if_neg elapsed, if_neg elapsed]
                    cases Clock.earliest? limit (t'.forest.deadline? s) with
                    | some next =>
                        exact ih (steps.advance (isReached_eq twins) _ looked)
                    | none =>
                        rcases steps.await? twins looked with ⟨none, none'⟩ |
                          ⟨_, _, woken, woken', still⟩
                        · simp only [none, none', true_and]
                          exact looked
                        · simp only [woken, woken']
                          exact ih still

/-- A wait for the one and a wait for the other end alike, at the same time. -/
theorem wait (timeout : Option τ) (b : B t u) : (u.wait s' timeout).1 = (t.wait s timeout).1 ∧
    B (t.wait s timeout).2 (u.wait s' timeout).2 := by
  simp only [Timeline.wait, steps.now_eq b]
  exact steps.waitUntil twins _ _ b

end Lockstep

end Checkup.Timeline
