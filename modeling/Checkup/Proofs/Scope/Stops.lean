import Checkup.Proofs.Scope.FirstCause
import Mathlib.Order.Bounds.Basic

/-!
Waits in exact time, and what stops them.

A wait looks at its scope, blocks, and looks again for as long as nothing has stopped it; `Waits`
is that loop with no bound on its looks. In exact time it blocks once at the most: the clock goes to
the deadline of the scope or to the end of the time that was given, whichever comes first, unless a
timer that strikes the scope or one above it is due by then. A timer that is due at that very
instant fires first.

Main statements: `waitUntil_of_waits` (a wait whose looks are counted ends as the loop does),
`fireDue_first` (timers fire up to the first that strikes the scope that is waited for) and
`wait_stops_first`.
-/

namespace Checkup

namespace Clock

/-! ### Exact time -/

variable {a b : Rat}

theorem le_iff : le a b = true ↔ a ≤ b := decide_eq_true_iff

/-- The later of two times is the greater one. -/
theorem later_eq_max (a b : Rat) : later a b = max a b := by
  simp only [later, lt, decide_eq_true_eq]
  exact (max_def_lt a b).symm

theorem earlier_eq_min (a b : Rat) : earlier a b = min a b := by
  simp only [earlier, lt, decide_eq_true_eq]
  exact (min_def_lt b a).symm.trans (min_comm b a)

theorem earliest?_eq_none_iff {x y : Option Rat} :
    earliest? x y = none ↔ x = none ∧ y = none := by
  cases x <;> cases y <;> simp [earliest?]

/-- The earlier of two times either of which may be missing is one of them, and none is earlier. -/
theorem earliest?_spec {x y : Option Rat} (least : earliest? x y = some a) :
    (x = some a ∨ y = some a) ∧ (∀ b, x = some b → a ≤ b) ∧ ∀ b, y = some b → a ≤ b := by
  cases x with
  | none =>
      obtain rfl : y = some a := least
      exact ⟨.inr rfl, nofun, fun b same => (Option.some.inj same).le⟩
  | some b =>
      cases y with
      | none =>
          obtain rfl : b = a := Option.some.inj least
          exact ⟨.inl rfl, fun c same => (Option.some.inj same).le, nofun⟩
      | some c =>
          have least : min b c = a := (earlier_eq_min b c).symm.trans (Option.some.inj least)
          subst least
          refine ⟨?_, fun d same => ?_, fun d same => ?_⟩
          · rcases min_choice b c with first | second
            · exact .inl (by rw [first])
            · exact .inr (by rw [second])
          · exact Option.some.inj same ▸ min_le_left b c
          · exact Option.some.inj same ▸ min_le_right b c

end Clock

namespace Timeline

/-! ### The loop -/

section Loop

variable {τ : Type} [Clock τ] {s : ScopeId} {until_ : Option τ}

/-- A wait ends: it finds its scope cancelled, or the time that was given over, or it blocks, for
the least of its limits or, without any, until its scope is cancelled, and goes on from there. The
number says how often it blocks. -/
inductive Waits (s : ScopeId) (until_ : Option τ) : Nat → Timeline τ → Wake → Timeline τ → Prop
  | cancelled {t t' : Timeline τ} : t.isCancelled s = (true, t') →
      Waits s until_ 0 t .cancelled t'
  | elapsed {t t' : Timeline τ} : t.isCancelled s = (false, t') →
      (until_.elim false fun limit => Clock.le limit t'.now) = true →
      Waits s until_ 0 t .elapsed t'
  | limited {t t' t'' : Timeline τ} {n : Nat} {wake : Wake} {limit : τ} :
      t.isCancelled s = (false, t') →
      (until_.elim false fun limit => Clock.le limit t'.now) = false →
      Clock.earliest? until_ (t'.forest.deadline? s) = some limit →
      Waits s until_ n (t'.advance (Clock.sub limit t'.now) (some s)) wake t'' →
      Waits s until_ (n + 1) t wake t''
  | unlimited {t t' woken t'' : Timeline τ} {n : Nat} {wake : Wake} :
      t.isCancelled s = (false, t') →
      (until_.elim false fun limit => Clock.le limit t'.now) = false →
      Clock.earliest? until_ (t'.forest.deadline? s) = none →
      t'.await? s = some woken → Waits s until_ n woken wake t'' →
      Waits s until_ (n + 1) t wake t''

/-- A wait that may look often enough ends as the loop does. -/
theorem waitUntil_of_waits {n rounds : Nat} {t t' : Timeline τ} {wake : Wake}
    (waits : Waits s until_ n t wake t') (enough : n < rounds) :
    waitUntil s until_ rounds t = (wake, t') := by
  induction waits generalizing rounds with
  | cancelled asked =>
      obtain ⟨k, rfl⟩ := Nat.exists_eq_add_of_lt enough
      simp only [waitUntil, asked]
  | elapsed asked passed =>
      obtain ⟨k, rfl⟩ := Nat.exists_eq_add_of_lt enough
      simp only [Nat.zero_add, waitUntil, asked, passed, if_true]
  | limited asked notOver next _ ih =>
      cases rounds with
      | zero => exact absurd enough (Nat.not_lt_zero _)
      | succ rounds =>
          simp only [waitUntil, asked, notOver, next, Bool.false_eq_true, if_false]
          exact ih (Nat.lt_of_succ_lt_succ enough)
  | unlimited asked notOver next woken _ ih =>
      cases rounds with
      | zero => exact absurd enough (Nat.not_lt_zero _)
      | succ rounds =>
          simp only [waitUntil, asked, notOver, next, woken, Bool.false_eq_true, if_false]
          exact ih (Nat.lt_of_succ_lt_succ enough)

end Loop

/-! ### Timers in exact time -/

variable {t t' : Timeline Rat} {s : ScopeId} {limit : Option Rat} {time : Rat}
  {timers rest : List (Timer Rat)} {timer : Timer Rat}

def IsDue (limit : Option Rat) (time : Rat) : Prop := ∀ stop, limit = some stop → time ≤ stop

/-- A timer is set for a time that strikes a scope or one above it. -/
def Strikes (t : Timeline Rat) (s : ScopeId) (time : Rat) : Prop :=
  ∃ timer ∈ t.timers, t.forest.Above timer.target s ∧ timer.due = time

theorem le_getD_iff : Clock.le time (limit.getD time) = true ↔ IsDue limit time := by
  cases limit <;> simp [IsDue, Clock.le_iff]

/-- What is due comes no later than what is not. -/
theorem IsDue.le {a b : Rat} (due : IsDue limit a) (notDue : ¬ IsDue limit b) : a ≤ b := by
  by_contra above
  exact notDue fun stop here => (le_of_not_ge above).trans (due stop here)

theorem not_due_of_takeDue? (found : takeDue? limit timers = none) :
    ∀ timer ∈ timers, ¬ IsDue limit timer.due := by
  induction timers with
  | nil => exact fun timer mem => absurd mem List.not_mem_nil
  | cons head tail ih =>
      simp only [takeDue?] at found
      split at found
      · rename_i none
        split at found
        · cases found
        · rename_i later
          intro timer mem
          rcases List.mem_cons.mp mem with rfl | mem
          · exact fun due => later (le_getD_iff.mpr due)
          · exact ih none timer mem
      · split at found <;> cases found

/-- The timer that is taken is due, and none is due earlier. -/
theorem first_of_takeDue? (found : takeDue? limit timers = some (timer, rest)) :
    IsDue limit timer.due ∧ ∀ other ∈ timers, timer.due ≤ other.due := by
  induction timers generalizing timer rest with
  | nil => cases found
  | cons head tail ih =>
      simp only [takeDue?] at found
      split at found
      · rename_i none
        split at found
        · rename_i due
          cases found
          have due := le_getD_iff.mp due
          refine ⟨due, fun other mem => ?_⟩
          rcases List.mem_cons.mp mem with rfl | mem
          · exact le_rfl
          · exact due.le (not_due_of_takeDue? none other mem)
        · cases found
      · rename_i first others taken
        obtain ⟨firstDue, least⟩ := ih taken
        split at found
        · rename_i before
          cases found
          obtain ⟨due, notLater⟩ := Bool.and_eq_true_iff.mp before
          have notLater : head.due ≤ first.due := by simpa [Clock.lt] using notLater
          refine ⟨le_getD_iff.mp due, fun other mem => ?_⟩
          rcases List.mem_cons.mp mem with rfl | mem
          · exact le_rfl
          · exact notLater.trans (least other mem)
        · rename_i notBefore
          cases found
          refine ⟨firstDue, fun other mem => ?_⟩
          rcases List.mem_cons.mp mem with rfl | mem
          · by_cases due : IsDue limit other.due
            · by_contra above
              refine notBefore (Bool.and_eq_true_iff.mpr ⟨le_getD_iff.mpr due, ?_⟩)
              simpa [Clock.lt] using (lt_of_not_ge above).le
            · exact firstDue.le due
          · exact least other mem

end Timeline

theorem Forest.above_cancel_iff {τ : Type} {f : Forest τ} {s a i : ScopeId} {cause : Fault} :
    (f.cancel s cause).Above a i ↔ f.Above a i :=
  ⟨Above.of_parent?_eq fun _ _ => (parent?_cancel ..).symm,
    Above.of_parent?_eq fun _ _ => parent?_cancel ..⟩

namespace Timeline

variable {t t' : Timeline Rat} {s : ScopeId} {limit : Option Rat} {time : Rat}
  {timers rest : List (Timer Rat)} {timer : Timer Rat}

/-- Timers fire up to the first that strikes the scope that is waited for, if one is due by then;
otherwise the scope stays as it was. -/
theorem fireDue_first (limit : Option Rat) (s : ScopeId) (t : Timeline Rat)
    (settled : t.forest.Settled) (made : s < t.forest.size) (live : t.forest.cause? s = none)
    (ahead : ∀ timer ∈ t.timers, t.now ≤ timer.due) (before : IsDue limit t.now) :
    (∃ t', t.fireDue limit (some s) = (true, t') ∧ (t'.forest.cause? s).isSome ∧
      IsLeast {time | t.Strikes s time ∧ IsDue limit time} t'.now) ∨
    ∃ t', t.fireDue limit (some s) = (false, t') ∧ t'.forest.cause? s = none ∧
      t'.forest.size = t.forest.size ∧ t'.forest.deadline? s = t.forest.deadline? s ∧
      IsDue limit t'.now ∧ ∀ time, t.Strikes s time → ¬ IsDue limit time := by
  induction t using fireDue.induct limit (some s) with
  | case1 t none =>
      rw [fireDue_of_none none]
      refine .inr ⟨t, rfl, live, rfl, rfl, before, ?_⟩
      rintro time ⟨timer, mem, -, rfl⟩
      exact not_due_of_takeDue? none timer mem
  | case2 t timer others found fired reached =>
      rw [fireDue_of_some found, if_pos reached]
      obtain ⟨due, least⟩ := first_of_takeDue? found
      have mem : timer ∈ t.timers := (perm_takeDue? found).mem_iff.mpr List.mem_cons_self
      have now : (t.fire timer others).now = timer.due :=
        (Clock.later_eq_max ..).trans (max_eq_right (ahead timer mem))
      obtain ⟨known, cancelled⟩ := Option.isSome_iff_exists.mp reached
      have above : t.forest.Above timer.target s := by
        rcases Forest.cause?_cancel_cases settled cancelled with same | ⟨-, above⟩
        · rw [live] at same
          cases same
        · exact above
      refine .inl ⟨_, rfl, reached, ?_⟩
      rw [now]
      refine ⟨⟨⟨timer, mem, above, rfl⟩, due⟩, ?_⟩
      rintro time ⟨⟨other, mem, -, rfl⟩, -⟩
      exact least other mem
  | case3 t timer others found fired unreached ih =>
      rw [fireDue_of_some found, if_neg unreached]
      obtain ⟨due, least⟩ := first_of_takeDue? found
      have pending := perm_takeDue? found
      have mem : timer ∈ t.timers := pending.mem_iff.mpr List.mem_cons_self
      have now : (t.fire timer others).now = timer.due :=
        (Clock.later_eq_max ..).trans (max_eq_right (ahead timer mem))
      have live' : (t.fire timer others).forest.cause? s = none :=
        Option.not_isSome_iff_eq_none.mp unreached
      -- The timer that has fired strikes elsewhere, so the others strike as before.
      have elsewhere : ¬ t.forest.Above timer.target s := by
        intro above
        have made := Nat.lt_of_le_of_lt (settled.le_of_above above) made
        have struck := Forest.cause?_cancel_of_above settled made above live timer.cause
        rw [show (t.fire timer others).forest = t.forest.cancel timer.target timer.cause from rfl,
          struck] at live'
        cases live'
      have strikes : fired.Strikes s = t.Strikes s := by
        funext time
        refine propext ⟨?_, ?_⟩
        · rintro ⟨other, mem, above, at_⟩
          exact ⟨other, pending.mem_iff.mpr (List.mem_cons_of_mem timer mem),
            Forest.above_cancel_iff.mp above, at_⟩
        · rintro ⟨other, mem, above, at_⟩
          rcases List.mem_cons.mp (pending.mem_iff.mp mem) with rfl | mem
          · exact absurd above elsewhere
          · exact ⟨other, mem, Forest.above_cancel_iff.mpr above, at_⟩
      have later := ih (Forest.formed_cancel settled _ _)
        (by rw [show (t.fire timer others).forest.size = _ from Forest.size_cancel ..]; exact made)
        live'
        (fun other mem => by
          rw [now]
          exact least other (pending.mem_iff.mpr (List.mem_cons_of_mem timer mem)))
        (by rw [now]; exact due)
      rw [strikes] at later
      refine later.imp_right ?_
      rintro ⟨t', fires, live, size, deadline, rest⟩
      exact ⟨t', fires, live, size.trans (Forest.size_cancel ..),
        deadline.trans (Forest.deadline?_cancel ..), rest⟩

/-! ### What stops a wait -/

/-- The moments at which something cuts a wait short: now, if the scope is cancelled or has expired;
its deadline, where that is ahead; and the times at which timers strike it or a scope above it. -/
inductive CutsShort (t : Timeline Rat) (s : ScopeId) : Rat → Prop
  | now : (t.isCancelled s).1 = true → CutsShort t s t.now
  | deadline {d : Rat} : t.forest.deadline? s = some d → t.now < d → CutsShort t s d
  | strike {time : Rat} : t.Strikes s time → CutsShort t s time

/-- The end of the time that is given to a wait; none is taken back. -/
def timeUp? (t : Timeline Rat) (timeout : Option Rat) : Option Rat :=
  timeout.map fun span => t.now + max 0 span

/-- A wait has stopped at the first of all that can stop it. The time is over only if that is
strictly the first; otherwise the scope is cancelled, and can tell why. -/
structure Stopped (t : Timeline Rat) (s : ScopeId) (timeout : Option Rat) (wake : Wake)
    (t' : Timeline Rat) : Prop where
  first : IsLeast {time | t.CutsShort s time ∨ t.timeUp? timeout = some time} t'.now
  elapsed_iff : wake = .elapsed ↔
    ∃ up, t.timeUp? timeout = some up ∧ ∀ time, t.CutsShort s time → up < time
  cancelled : wake ≠ .elapsed → wake = .cancelled ∧ (t'.error s).1 ≠ none

variable {timeout : Option Rat} {stop : Rat}

/-- A wait that is cut short stops at the first moment that does so. -/
theorem Stopped.of_cut (cut : t.CutsShort s t'.now)
    (least : ∀ time, t.CutsShort s time → t'.now ≤ time)
    (before : ∀ up, t.timeUp? timeout = some up → t'.now ≤ up)
    (known : (t'.forest.cause? s).isSome) : t.Stopped s timeout .cancelled t' where
  first := by
    refine ⟨.inl cut, ?_⟩
    rintro time (cut | up)
    · exact least time cut
    · exact before time up
  elapsed_iff := by
    refine ⟨nofun, ?_⟩
    rintro ⟨up, given, strictly⟩
    exact absurd (strictly _ cut) (not_lt_of_ge (before up given))
  cancelled _ := by
    obtain ⟨cause, known⟩ := Option.isSome_iff_exists.mp known
    refine ⟨rfl, ?_⟩
    rw [fst_error_of_cause? known]
    exact Option.some_ne_none cause

/-- A wait that uses up its time is not cut short by then. -/
theorem Stopped.of_timeUp (up : t.timeUp? timeout = some t'.now)
    (strictly : ∀ time, t.CutsShort s time → t'.now < time) :
    t.Stopped s timeout .elapsed t' where
  first := by
    refine ⟨.inr up, ?_⟩
    rintro time (cut | same)
    · exact (strictly time cut).le
    · exact (Option.some.inj (up.symm.trans same)).le
  elapsed_iff := ⟨fun _ => ⟨_, up, strictly⟩, fun _ => rfl⟩
  cancelled late := absurd rfl late

/-! ### Each way to stop -/

/-- A scope that is found to be cancelled has a cause from then on. -/
theorem isSome_cause?_of_asked {τ : Type} [Clock τ] {t : Timeline τ}
    (asked : (t.isCancelled s).1 = true) : ((t.isCancelled s).2.forest.cause? s).isSome := by
  change (t.forest.isCancelled t.now s).1 = true at asked
  show ((t.forest.isCancelled t.now s).2.cause? s).isSome
  unfold Forest.isCancelled at asked ⊢
  split
  · assumption
  · rename_i live
    rw [if_neg live] at asked
    split
    · rename_i expired
      obtain ⟨d, deadline, -⟩ := (Forest.isExpired_iff ..).mp expired
      exact Forest.isSome_cause?_cancel (Forest.lt_size_of_deadline? deadline) _
    · rename_i ahead
      rw [if_neg ahead] at asked
      cases asked

theorem asked_of_known {τ : Type} [Clock τ] {t : Timeline τ} (known : (t.forest.cause? s).isSome) :
    t.isCancelled s = (true, t) := by
  simp only [isCancelled, Forest.isCancelled, known, if_true]

section Live

variable (live : (t.isCancelled s).1 = false) (ahead : ∀ timer ∈ t.timers, t.now < timer.due)
include live

theorem cause?_of_live : t.forest.cause? s = none := by
  by_contra known
  have asked : (t.isCancelled s).1 = true :=
    (Forest.fst_isCancelled ..).mpr (.inl (Option.isSome_iff_ne_none.mpr known))
  rw [live] at asked
  cases asked

/-- What cuts a wait for a live scope short is ahead. -/
theorem CutsShort.cases_of_live (cut : t.CutsShort s time) :
    t.forest.deadline? s = some time ∨ t.Strikes s time := by
  cases cut with
  | now asked =>
      rw [live] at asked
      cases asked
  | deadline known _ => exact .inl known
  | strike strikes => exact .inr strikes

include ahead

/-- What cuts a wait short on a live scope is still to come. -/
theorem CutsShort.lt_of_live (cut : t.CutsShort s time) : t.now < time := by
  cases cut with
  | now asked =>
      rw [live] at asked
      cases asked
  | deadline _ later => exact later
  | strike strikes =>
      obtain ⟨timer, mem, -, rfl⟩ := strikes
      exact ahead timer mem

end Live

/-- A scope that is cancelled, or has expired, is not waited for. -/
theorem waits_of_asked (ahead : ∀ timer ∈ t.timers, t.now < timer.due)
    (asked : (t.isCancelled s).1 = true) (timeout : Option Rat) :
    Waits s (timeout.map (Clock.add t.now)) 0 t .cancelled (t.isCancelled s).2 ∧
      t.Stopped s timeout .cancelled (t.isCancelled s).2 := by
  refine ⟨.cancelled (Prod.ext asked rfl), .of_cut (.now asked) ?_ ?_ ?_⟩
  · intro time cut
    show t.now ≤ time
    cases cut with
    | now => exact le_rfl
    | deadline _ later => exact later.le
    | strike strikes =>
        obtain ⟨timer, mem, -, rfl⟩ := strikes
        exact (ahead timer mem).le
  · intro up given
    obtain ⟨span, -, rfl⟩ := Option.map_eq_some_iff.mp given
    exact le_add_of_nonneg_right (le_max_left 0 span)
  · exact isSome_cause?_of_asked asked

/-- Without time to wait a live scope is not waited for. -/
theorem waits_of_no_time (live : (t.isCancelled s).1 = false)
    (ahead : ∀ timer ∈ t.timers, t.now < timer.due) {span : Rat} (short : span ≤ 0) :
    Waits s ((some span).map (Clock.add t.now)) 0 t .elapsed t ∧
      t.Stopped s (some span) .elapsed t := by
  refine ⟨.elapsed (isCancelled_of_live live) ?_, .of_timeUp ?_ ?_⟩
  · exact Clock.le_iff.mpr (add_le_of_nonpos_right short)
  · simp [timeUp?, short]
  · exact fun time cut => cut.lt_of_live live ahead

section Blocks

variable (settled : t.forest.Settled) (made : s < t.forest.size)
  (live : (t.isCancelled s).1 = false) (ahead : ∀ timer ∈ t.timers, t.now < timer.due)
include settled made live ahead

/-- The clock is sent to a limit: a timer that strikes the scope stops it on the way, the first that
is due by then, or it arrives and the scope is as it was. -/
theorem advance_first (later : t.now < stop) {u : Timeline Rat}
    (moved : t.advance (Clock.sub stop t.now) (some s) = u) :
    ((u.forest.cause? s).isSome ∧ u.now ≤ stop ∧
      IsLeast {time | t.Strikes s time ∧ time ≤ stop} u.now) ∨
    (u.now = stop ∧ u.forest.cause? s = none ∧
      u.forest.deadline? s = t.forest.deadline? s ∧ ∀ time, t.Strikes s time → stop < time) := by
  have target : Clock.add t.now (Clock.sub stop t.now) = stop := add_sub_cancel t.now stop
  have isDue_iff (time : Rat) : IsDue (some stop) time ↔ time ≤ stop := by simp [IsDue]
  have fired := fireDue_first (some stop) s t settled made (cause?_of_live live)
    (fun timer mem => (ahead timer mem).le) ((isDue_iff _).mpr later.le)
  simp only [isDue_iff] at fired
  rcases fired with ⟨t', fires, known, struck⟩ | ⟨t', fires, live', -, deadline, soon, unstruck⟩
  · obtain rfl : t' = u := by simpa only [advance, target, fires] using moved
    exact .inl ⟨known, struck.1.2, struck⟩
  · obtain rfl : { t' with now := stop } = u := by
      simpa only [advance, target, fires, Clock.later_eq_max, max_eq_right soon] using moved
    exact .inr ⟨rfl, live', deadline, fun time strikes => not_le.mp (unstruck time strikes)⟩

/-- A wait for a live scope that has a limit blocks once. -/
theorem waits_limited (goesOn : ∀ span, timeout = some span → 0 < span)
    (next : Clock.earliest? (timeout.map (Clock.add t.now)) (t.forest.deadline? s) = some stop) :
    ∃ wake t', Waits s (timeout.map (Clock.add t.now)) 1 t wake t' ∧
      t.Stopped s timeout wake t' := by
  obtain ⟨which, byTime, byDeadline⟩ := Clock.earliest?_spec next
  have up (u : Rat) (given : t.timeUp? timeout = some u) : stop ≤ u := by
    obtain ⟨span, rfl, rfl⟩ := Option.map_eq_some_iff.mp given
    rw [max_eq_right (goesOn span rfl).le]
    exact byTime _ rfl
  have notOver : ((timeout.map (Clock.add t.now)).elim false fun limit =>
      Clock.le limit t.now) = false := by
    cases timeout with
    | none => rfl
    | some span =>
        exact decide_eq_false (not_le_of_gt (lt_add_of_pos_right t.now (goesOn span rfl)))
  have later : t.now < stop := by
    rcases which with time | deadline
    · obtain ⟨span, given, rfl⟩ := Option.map_eq_some_iff.mp time
      exact lt_add_of_pos_right t.now (goesOn span given)
    · exact of_decide_eq_true (lt_of_live (t := t) trivial trivial deadline live)
  obtain ⟨u, moved⟩ : ∃ u, t.advance (Clock.sub stop t.now) (some s) = u := ⟨_, rfl⟩
  have blocks {wake : Wake} {t' : Timeline Rat}
      (waits : Waits s (timeout.map (Clock.add t.now)) 0 u wake t') :
      Waits s (timeout.map (Clock.add t.now)) 1 t wake t' :=
    .limited (isCancelled_of_live live) notOver next (moved ▸ waits)
  rcases advance_first settled made live ahead later moved with
    ⟨known, inTime, struck⟩ | ⟨now, live', deadline', beyond⟩
  · -- A timer has struck the scope.
    refine ⟨_, _, blocks (.cancelled (asked_of_known known)), .of_cut (.strike struck.1.1) ?_ ?_
      known⟩
    · intro time cut
      rcases cut.cases_of_live live with deadline | strikes
      · exact inTime.trans (byDeadline time deadline)
      · by_cases soon : time ≤ stop
        · exact struck.2 ⟨strikes, soon⟩
        · exact inTime.trans (le_of_not_ge soon)
    · exact fun u given => inTime.trans (up u given)
  · by_cases reached : t.forest.deadline? s = some stop
    · -- The clock stands at the deadline, be the time over or not.
      have asked : (u.isCancelled s).1 = true := by
        refine (Forest.fst_isCancelled ..).mpr (.inr ((Forest.isExpired_iff ..).mpr ⟨stop, ?_, ?_⟩))
        · exact deadline'.trans reached
        · exact Clock.le_iff.mpr now.ge
      have cut : t.CutsShort s u.now := now ▸ .deadline reached later
      refine ⟨_, _, blocks (.cancelled (Prod.ext asked rfl)), .of_cut cut ?_ ?_
        (isSome_cause?_of_asked asked)⟩
      · intro time cut
        show u.now ≤ time
        rw [now]
        rcases cut.cases_of_live live with deadline | strikes
        · exact byDeadline time deadline
        · exact (beyond time strikes).le
      · intro end_ given
        exact now.le.trans (up end_ given)
    · -- The time is over, and the deadline is still ahead.
      have time := which.resolve_right reached
      have live'' : (u.isCancelled s).1 = false := by
        refine Bool.eq_false_iff.mpr fun asked => ?_
        rcases (Forest.fst_isCancelled ..).mp asked with known | expired
        · rw [live'] at known
          cases known
        · obtain ⟨d, deadline, passed⟩ := (Forest.isExpired_iff ..).mp expired
          have deadline : t.forest.deadline? s = some d := deadline'.symm.trans deadline
          have passed : d ≤ stop := (Clock.le_iff.mp passed).trans now.le
          exact reached (le_antisymm passed (byDeadline d deadline) ▸ deadline)
      refine ⟨_, _, blocks (.elapsed (isCancelled_of_live live'') ?_), .of_timeUp ?_ ?_⟩
      · rw [time]
        exact Clock.le_iff.mpr now.ge
      · obtain ⟨span, rfl, same⟩ := Option.map_eq_some_iff.mp time
        show some (t.now + max 0 span) = some u.now
        rw [max_eq_right (goesOn span rfl).le, now]
        exact congrArg some same
      · intro time cut
        rw [now]
        rcases cut.cases_of_live live with deadline | strikes
        · refine lt_of_le_of_ne (byDeadline time deadline) fun same => reached ?_
          rw [same]
          exact deadline
        · exact beyond time strikes

/-- A wait for a live scope without any limit blocks once, until the first timer that strikes the
scope. -/
theorem waits_unlimited (endless : t.forest.deadline? s = none) (strikes : t.Strikes s time) :
    ∃ t', Waits s none 1 t .cancelled t' ∧ t.Stopped s none .cancelled t' := by
  have noLimit (time : Rat) : IsDue none time := by
    rintro stop ⟨⟩
  rcases fireDue_first none s t settled made (cause?_of_live live)
    (fun timer mem => (ahead timer mem).le) (noLimit _) with
    ⟨t', fires, known, struck⟩ | ⟨t', -, -, -, -, -, unstruck⟩
  · have woken : t.await? s = some t' := by simp only [await?, fires]
    have next : Clock.earliest? none (t.forest.deadline? s) = none := by rw [endless]; rfl
    refine ⟨t', .unlimited (isCancelled_of_live live) rfl next woken
      (.cancelled (asked_of_known known)), .of_cut (.strike struck.1.1) ?_ ?_ known⟩
    · intro time cut
      rcases cut.cases_of_live live with deadline | strikes
      · rw [endless] at deadline
        cases deadline
      · exact struck.2 ⟨strikes, noLimit time⟩
    · rintro up ⟨⟩
  · exact absurd (noLimit time) (unstruck time strikes)

end Blocks

/-- A wait that has something to stop it stops, at the first of all that can, and blocks once at the
most. -/
theorem waits_stopped (settled : t.forest.Settled) (made : s < t.forest.size)
    (ahead : ∀ timer ∈ t.timers, t.now < timer.due)
    (bounded : timeout ≠ none ∨ t.forest.deadline? s ≠ none ∨ (∃ time, t.Strikes s time) ∨
      (t.isCancelled s).1 = true) :
    ∃ n wake t', n ≤ 1 ∧ Waits s (timeout.map (Clock.add t.now)) n t wake t' ∧
      t.Stopped s timeout wake t' := by
  cases live : (t.isCancelled s).1 with
  | true =>
      obtain ⟨waits, stopped⟩ := waits_of_asked ahead live timeout
      exact ⟨0, _, _, Nat.zero_le 1, waits, stopped⟩
  | false =>
      by_cases noTime : ∃ span ≤ 0, timeout = some span
      · obtain ⟨span, short, rfl⟩ := noTime
        obtain ⟨waits, stopped⟩ := waits_of_no_time live ahead short
        exact ⟨0, _, _, Nat.zero_le 1, waits, stopped⟩
      · have goesOn (span : Rat) (given : timeout = some span) : 0 < span :=
          not_le.mp fun short => noTime ⟨span, short, given⟩
        cases next : Clock.earliest? (timeout.map (Clock.add t.now)) (t.forest.deadline? s) with
        | some stop =>
            obtain ⟨wake, t', waits, stopped⟩ := waits_limited settled made live ahead goesOn next
            exact ⟨1, wake, t', Nat.le_refl 1, waits, stopped⟩
        | none =>
            obtain ⟨untimed, endless⟩ := Clock.earliest?_eq_none_iff.mp next
            obtain rfl := Option.map_eq_none_iff.mp untimed
            obtain ⟨time, strikes⟩ : ∃ time, t.Strikes s time := by
              simpa [endless, live] using bounded
            obtain ⟨t', waits, stopped⟩ := waits_unlimited settled made live ahead endless strikes
            exact ⟨1, _, t', Nat.le_refl 1, waits, stopped⟩

/-! ### Timelines that are reached -/

/-- The clock and the scopes of a timeline come from a history; its timers may be any. -/
def IsReached {τ : Type} [Clock τ] [Clock.Ordered τ] (t : Timeline τ) : Prop :=
  ∃ start history timers, Possible start history ∧ t = { play start history with timers }

theorem IsReached.settled {τ : Type} [Clock τ] [Clock.Ordered τ] {t : Timeline τ}
    (reached : t.IsReached) : t.forest.Settled := by
  obtain ⟨start, history, timers, possible, rfl⟩ := reached
  exact (agrees_play possible).settled

/-- A wait for any scope of a forest that is reached, whatever cancels are still to come: if
anything can stop it, it stops, after blocking once at the most, at the first of all that can. It
tells that the time is over only if that is strictly the first, and otherwise the scope is cancelled
and can tell why. -/
theorem wait_stops_first (reached : t.IsReached) (made : s < t.forest.size)
    (ahead : ∀ timer ∈ t.timers, t.now < timer.due) (timeout : Option Rat)
    (bounded : timeout ≠ none ∨ t.forest.deadline? s ≠ none ∨ (∃ time, t.Strikes s time) ∨
      (t.isCancelled s).1 = true) :
    ∃ n wake t', n ≤ 1 ∧ Waits s (timeout.map (Clock.add t.now)) n t wake t' ∧
      t.wait s timeout = (wake, t') ∧ t.Stopped s timeout wake t' := by
  obtain ⟨n, wake, t', once, waits, stopped⟩ := waits_stopped reached.settled made ahead bounded
  have enough : n < waitRounds := Nat.lt_of_le_of_lt once (by decide)
  exact ⟨n, wake, t', once, waits, waitUntil_of_waits waits enough, stopped⟩

/-- A scope whose time, deadline and cancel from above all come at the same moment, after a cancel
elsewhere. -/
def tied : Timeline Rat :=
  { play 0 [.child 0 none, .child 1 none, .child 0 (some 5), .background] with
    timers := [⟨5, 0, .scopeCancelled⟩, ⟨2, 3, .scopeCancelled⟩] }

theorem tied_wait_is_cancelled : tied.IsReached ∧ 2 < tied.forest.size ∧
    (∀ timer ∈ tied.timers, tied.now < timer.due) ∧
    ∃ n wake t', n ≤ 1 ∧ Waits 2 ((some 5).map (Clock.add tied.now)) n tied wake t' ∧
      tied.wait 2 (some 5) = (wake, t') ∧ tied.Stopped 2 (some 5) wake t' ∧ wake = .cancelled ∧
      t'.now = 5 := by
  have reached : tied.IsReached := by
    refine ⟨_, _, _, ?_, rfl⟩
    simp only [Possible, Action.scope?, Action.childTimeout?, Clock.IsTime, Clock.IsSpan,
      Option.some.injEq, forall_eq', reduceCtorEq, false_implies, implies_true, and_true, true_and]
    refine ⟨?_, ?_, ?_⟩ <;> cbv
  have made : 2 < tied.forest.size := by cbv
  have ahead : ∀ timer ∈ tied.timers, tied.now < timer.due := by
    show ∀ timer ∈ ([_, _] : List (Timer Rat)), (0 : Rat) < timer.due
    decide
  obtain ⟨n, wake, t', once, waits, ends, stopped⟩ :=
    wait_stops_first reached made ahead (some 5) (.inl (Option.some_ne_none 5))
  have woken : (tied.wait 2 (some 5)).1 = .cancelled := by cbv
  have now : (tied.wait 2 (some 5)).2.now = 5 := by cbv
  rw [ends] at woken now
  exact ⟨reached, made, ahead, n, wake, t', once, waits, ends, stopped, woken, now⟩

end Timeline

end Checkup
