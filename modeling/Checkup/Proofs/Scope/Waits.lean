import Checkup.Proofs.Clock.Arrives
import Checkup.Proofs.Scope.Between

/-!
Waits that end.

A wait looks at its scope, lets timers fire and moves the clock; what each of these keeps, a wait
keeps (`keeps_wait`). A scope with a deadline is waited for until that at the latest, so where the
clock arrives the wait ends.

Main statements: `Extends.wait` (a wait makes no scope and moves no deadline), `Ready.wait` (scopes
are cancelled only for the causes there are), `wait_ends`.
-/

namespace Checkup

/-- A cause that scopes are cancelled for: a cancellation, or a deadline that has passed. -/
def Fault.IsCancellation (f : Fault) : Prop := f.kind = .scopeCancelled ∨ f.kind = .deadlineExceeded

namespace Timeline

open Clock (IsTime IsMoment MovesTo aim)

variable {τ : Type} [Clock τ] {t t' : Timeline τ} {s p : ScopeId}

/-! ### What waiting keeps -/

section Keeps

variable {P : Timeline τ → Prop}
  (look : ∀ {t : Timeline τ} (s : ScopeId), P t → P (t.isCancelled s).2)
  (fire : ∀ {t : Timeline τ} {timer : Timer τ} {others : List (Timer τ)},
    t.timers.Perm (timer :: others) → P t → P (t.fire timer others))
  (later : ∀ {t : Timeline τ} (now : τ), P t → P { t with now := Clock.later t.now now })
include fire

theorem keeps_fireDue (limit : Option τ) (awaited : Option ScopeId) (t : Timeline τ) (h : P t) :
    P (t.fireDue limit awaited).2 := by
  induction t using fireDue.induct limit awaited with
  | case1 t none => rwa [fireDue_of_none none]
  | case2 t timer others found fired reached =>
      rw [fireDue_of_some found, if_pos reached]
      exact fire (perm_takeDue? found) h
  | case3 t timer others found fired unreached ih =>
      rw [fireDue_of_some found, if_neg unreached]
      exact ih (fire (perm_takeDue? found) h)

include later in
theorem keeps_advance (span : τ) (awaited : Option ScopeId) (h : P t) :
    P (t.advance span awaited) := by
  have fired := keeps_fireDue fire (some (Clock.add t.now span)) awaited t h
  unfold advance
  simp only
  split
  · rename_i reached
    rwa [reached] at fired
  · rename_i unreached
    rw [unreached] at fired
    exact later _ fired

/-- What the passing of time keeps, the way to an awaited cancel keeps. -/
theorem keeps_await? (h : P t) (found : t.await? s = some t') : P t' := by
  have fired := keeps_fireDue fire none (some s) t h
  unfold await? at found
  split at found
  · rename_i reached
    cases found
    rwa [reached] at fired
  · cases found

include look later in
/-- What a look and the passing of time keep, a wait keeps, by induction on its looks. -/
theorem keeps_waitUntil (s : ScopeId) (limit : Option τ) (rounds : Nat) (h : P t) :
    P (waitUntil s limit rounds t).2 := by
  induction rounds generalizing t with
  | zero => exact h
  | succ rounds ih =>
      have looked := look s h
      rw [waitUntil]
      split
      · rename_i asked
        rwa [asked] at looked
      · rename_i asked
        rw [asked] at looked
        split
        · exact looked
        · split
          · exact ih (keeps_advance fire later _ _ looked)
          · split
            · rename_i woken
              exact ih (keeps_await? fire looked woken)
            · exact looked

include look later in
theorem keeps_wait (s : ScopeId) (timeout : Option τ) (h : P t) : P (t.wait s timeout).2 :=
  keeps_waitUntil look fire later s _ _ h

include look later in
theorem keeps_sleep (s : ScopeId) (timeout : Option τ) (h : P t) : P (t.sleep s timeout).2 := by
  have waited := keeps_wait look fire later s timeout h
  have checks {t : Timeline τ} (h : P t) : P (t.check s).2 := by
    rw [check_snd]
    exact look s h
  unfold sleep
  split
  · rename_i woken
    rwa [woken] at waited
  · rename_i woken
    rwa [woken] at waited
  · rename_i t' woken
    rw [woken] at waited
    have checked := checks waited
    split
    · rename_i raised
      rwa [raised] at checked
    · rename_i none
      rwa [none] at checked

end Keeps

/-! ### Scopes that stay -/

/-- All scopes are still there, with their deadlines. -/
structure Extends (t t' : Timeline τ) : Prop where
  size_le : t.forest.size ≤ t'.forest.size
  deadline_eq {i : ScopeId} : i < t.forest.size → t'.forest.deadline? i = t.forest.deadline? i

namespace Extends

omit [Clock τ]

theorem refl (t : Timeline τ) : t.Extends t := ⟨Nat.le_refl _, fun _ => rfl⟩

theorem trans {t'' : Timeline τ} (first : t.Extends t') (second : t'.Extends t'') :
    t.Extends t'' where
  size_le := Nat.le_trans first.size_le second.size_le
  deadline_eq made :=
    (second.deadline_eq (Nat.lt_of_lt_of_le made first.size_le)).trans (first.deadline_eq made)

/-- Neither scopes nor deadlines have changed. -/
theorem of_eq (size : t'.forest.size = t.forest.size)
    (deadline : ∀ i, t'.forest.deadline? i = t.forest.deadline? i) : t.Extends t' :=
  ⟨Nat.le_of_eq size.symm, fun _ => deadline _⟩

theorem close (t : Timeline τ) (s : ScopeId) : t.Extends (t.close s) :=
  of_eq (Forest.size_close ..) fun _ => Forest.deadline?_close ..

theorem cancel (t : Timeline τ) (s : ScopeId) (cause : Fault) : t.Extends (t.cancel s cause) :=
  of_eq (Forest.size_cancel ..) fun _ => Forest.deadline?_cancel ..

variable [Clock τ]

theorem isCancelled (t : Timeline τ) (s : ScopeId) : t.Extends (t.isCancelled s).2 :=
  of_eq (Forest.size_isCancelled ..) fun _ => Forest.deadline?_isCancelled ..

theorem error (t : Timeline τ) (s : ScopeId) : t.Extends (t.error s).2 := by
  rw [error_snd]
  exact isCancelled t s

theorem wait (t : Timeline τ) (s : ScopeId) (timeout : Option τ) :
    t.Extends (t.wait s timeout).2 :=
  keeps_wait (P := fun t' => t.Extends t') (fun s h => h.trans (isCancelled _ s))
    (fun _ h => h.trans (of_eq (Forest.size_cancel ..) fun _ => Forest.deadline?_cancel ..))
    (fun _ h => h.trans (of_eq rfl fun _ => rfl)) s timeout (refl t)

theorem size_child (settled : t.forest.Settled) (made : p < t.forest.size) (timeout : Option τ) :
    (t.child p timeout).2.forest.size = t.forest.size + 1 :=
  (Forest.grown_child settled t.now timeout made).size_eq.trans
    (congrArg (· + 1) (Forest.size_isCancelled ..))

/-- A new scope gets the earlier one of its own deadline and that of the scope above. -/
theorem deadline?_child (settled : t.forest.Settled) (made : p < t.forest.size)
    (timeout : Option τ) (i : ScopeId) : (t.child p timeout).2.forest.deadline? i =
      if i = t.forest.size then
        Clock.earliest? (t.forest.deadline? p) (timeout.map (Clock.add t.now))
      else t.forest.deadline? i := by
  have grown := (Forest.grown_child settled t.now timeout made).deadline?_eq i
  rw [Forest.size_isCancelled, Option.bind_some, Forest.deadline?_isCancelled,
    Forest.deadline?_isCancelled] at grown
  exact grown

theorem child (settled : t.forest.Settled) (made : p < t.forest.size) (timeout : Option τ) :
    t.Extends (t.child p timeout).2 where
  size_le := by
    rw [size_child settled made]
    exact Nat.le_succ _
  deadline_eq older := by rw [deadline?_child settled made, if_neg (Nat.ne_of_lt older)]

end Extends

/-! ### Scopes cancelled for good causes -/

/-- The clock stands at a moment, and scopes are cancelled, or will be by a timer, for cancellations
and deadlines only. -/
structure Ready [Clock.Ordered τ] [Clock.Arrives τ] (t : Timeline τ) : Prop where
  isMoment : IsMoment t.now
  settled : t.forest.Settled
  cause {i : ScopeId} {cause : Fault} : t.forest.cause? i = some cause → cause.IsCancellation
  timer {timer : Timer τ} : timer ∈ t.timers → timer.cause.IsCancellation

namespace Ready

variable [Clock.Ordered τ] [Clock.Arrives τ]

theorem start {now : τ} (moment : IsMoment now) : ({ now } : Timeline τ).Ready where
  isMoment := moment
  settled := Forest.Formed.empty
  cause cancelled := by cases cancelled
  timer mem := absurd mem List.not_mem_nil

theorem isTime (ready : t.Ready) : IsTime t.now := Clock.Arrives.isTime_of_isMoment ready.isMoment

theorem cancel (ready : t.Ready) (s : ScopeId) {cause : Fault} (good : cause.IsCancellation) :
    (t.cancel s cause).Ready := by
  refine { ready with settled := Forest.formed_cancel ready.settled s cause, cause := ?_ }
  intro i known cancelled
  rcases Forest.cause?_cancel_cases ready.settled cancelled with before | ⟨rfl, -⟩
  · exact ready.cause before
  · exact good

theorem isCancelled (ready : t.Ready) (s : ScopeId) : (t.isCancelled s).2.Ready := by
  show Ready { t with forest := (t.forest.isCancelled t.now s).2 }
  rcases t.forest.isCancelled_cases t.now s with same | ⟨-, -, cancels⟩
  · rw [same]
    exact ready
  · rw [cancels]
    exact ready.cancel s (.inr rfl)

theorem error (ready : t.Ready) (s : ScopeId) : (t.error s).2.Ready := by
  rw [error_snd]
  exact ready.isCancelled s

/-- Only a cancellation or a deadline is given as the cause of a scope. -/
theorem isCancellation_error (ready : t.Ready) {cause : Fault}
    (told : (t.error s).1 = some cause) : cause.IsCancellation := by
  rw [error_fst] at told
  split at told
  · exact (ready.isCancelled s).cause told
  · cases told

theorem later (ready : t.Ready) (now : τ) : Ready { t with now := Clock.later t.now now } :=
  { ready with
    isMoment := Clock.Arrives.isMoment_of_le ready.isMoment (Clock.le_later ready.isTime now) }

theorem fire {timer : Timer τ} {others : List (Timer τ)}
    (pending : t.timers.Perm (timer :: others)) (ready : t.Ready) :
    (t.fire timer others).Ready := by
  have good := ready.timer (pending.mem_iff.mpr List.mem_cons_self)
  have fired := (ready.later timer.due).cancel timer.target good
  exact { fired with
    timer := fun mem => ready.timer (pending.mem_iff.mpr (List.mem_cons_of_mem timer mem)) }

theorem wait (ready : t.Ready) (s : ScopeId) (timeout : Option τ) : (t.wait s timeout).2.Ready :=
  keeps_wait (fun s h => h.isCancelled s) fire (fun now h => h.later now) s timeout ready

theorem child (ready : t.Ready) (made : p < t.forest.size) (timeout : Option τ) :
    (t.child p timeout).2.Ready := by
  have grown := Forest.grown_child ready.settled t.now timeout made
  have asked := ready.isCancelled p
  refine { ready with settled := grown.settled, cause := ?_ }
  intro i known cancelled
  by_cases new : i = t.forest.size
  · subst new
    exact asked.cause ((Forest.cause?_child_new timeout ready.settled made).symm.trans cancelled)
  · exact asked.cause ((grown.cause?_eq (by rwa [Forest.size_isCancelled])).symm.trans cancelled)

theorem background (ready : t.Ready) : t.background.2.Ready := by
  have grown := Forest.grown_background ready.settled
  refine { ready with settled := grown.settled, cause := fun {i cause} cancelled => ?_ }
  by_cases new : i = t.forest.size
  · subst new
    obtain ⟨p, above, -⟩ := grown.born (by
      rw [show t.forest.background.2.cause? t.forest.size = some cause from cancelled]
      rfl)
    cases above
  · exact ready.cause ((grown.cause?_eq new).symm.trans cancelled)

theorem setTimer (ready : t.Ready) (after : τ) (target : ScopeId) {cause : Fault}
    (good : cause.IsCancellation) : (t.setTimer after target cause).Ready := by
  refine { ready with timer := fun mem => ?_ }
  rcases List.mem_append.mp mem with before | new
  · exact ready.timer before
  · rw [List.mem_singleton.mp new]
    exact good

theorem close (ready : t.Ready) (s : ScopeId) : (t.close s).Ready := by
  have good : Fault.scopeCancelled.IsCancellation := .inl rfl
  have cancelled := ready.cancel s good
  refine { ready with settled := Forest.settled_close ready.settled s, cause := ?_ }
  intro i known closed
  exact cancelled.cause ((Forest.cause?_close ..).symm.trans closed)

end Ready

/-! ### Waits end -/

section Ends

variable {target : τ}

theorem le_of_takeDue? {timers rest : List (Timer τ)} {timer : Timer τ}
    (found : takeDue? (some target) timers = some (timer, rest)) :
    Clock.le timer.due target = true := by
  induction timers generalizing timer rest with
  | nil => cases found
  | cons head tail ih =>
      simp only [takeDue?, Option.getD_some] at found
      split at found
      · split at found
        · rename_i due
          cases found
          exact due
        · cases found
      · rename_i first others later
        split at found
        · rename_i due
          cases found
          exact (Bool.and_eq_true_iff.mp due).1
        · cases found
          exact ih later

variable [Clock.Ordered τ]

/-- Timers take the clock no farther than the limit by which they are due, or than it was. -/
theorem fireDue_cases (target : τ) {start : τ} (s : ScopeId) (t : Timeline τ)
    (hn : IsTime t.now) (forward : Clock.le start t.now = true)
    (stops : Clock.le t.now start = true ∨ Clock.le t.now target = true) :
    (∃ t', t.fireDue (some target) (some s) = (true, t') ∧ (t'.forest.cause? s).isSome) ∨
      ∃ t', t.fireDue (some target) (some s) = (false, t') ∧ IsTime t'.now ∧
        Clock.le start t'.now = true ∧
        (Clock.le t'.now start = true ∨ Clock.le t'.now target = true) := by
  induction t using fireDue.induct (some target) (some s) with
  | case1 t none =>
      rw [fireDue_of_none none]
      exact .inr ⟨t, rfl, hn, forward, stops⟩
  | case2 t timer others found fired reached =>
      rw [fireDue_of_some found, if_pos reached]
      exact .inl ⟨_, rfl, reached⟩
  | case3 t timer others found fired unreached ih =>
      rw [fireDue_of_some found, if_neg unreached]
      have due := le_of_takeDue? found
      refine ih (Clock.isTime_later hn _) (Clock.Ordered.le_trans forward (Clock.le_later hn _)) ?_
      change Clock.le (Clock.later t.now timer.due) start = true ∨
        Clock.le (Clock.later t.now timer.due) target = true
      unfold Clock.later
      split
      · exact .inr due
      · exact stops

/-- The clock goes where it is sent, unless a timer cancels the scope that is waited for on the
way. -/
theorem advance_cases (hn : IsTime t.now) {span : τ} (ht : IsTime (Clock.add t.now span))
    (s : ScopeId) : ((t.advance span (some s)).forest.cause? s).isSome ∨
      MovesTo (Clock.add t.now span) t.now (t.advance span (some s)).now := by
  have here := Clock.le_refl hn
  rcases fireDue_cases (Clock.add t.now span) s t hn here (.inl here) with
    ⟨t', fires, cancelled⟩ | ⟨t', fires, hn', forward, stops⟩
  · have stopped : t.advance span (some s) = t' := by simp only [advance, fires]
    exact .inl (stopped ▸ cancelled)
  · have moved : t.advance span (some s) =
        { t' with now := Clock.later t'.now (Clock.add t.now span) } := by
      simp only [advance, fires]
    rw [moved]
    exact .inr (Clock.movesTo_later hn' ht forward stops)

variable {until_ : Option τ} {deadline limit : τ} {rounds : Nat}

omit [Clock.Ordered τ] in
/-- A wait for a scope that is cancelled already is over at once. -/
theorem waitUntil_of_cancelled (asked : (t.isCancelled s).1 = true) :
    (waitUntil s until_ (rounds + 1) t).1 = .cancelled := by
  rw [waitUntil]
  split
  · rfl
  · rename_i live
    rw [live] at asked
    cases asked

omit [Clock.Ordered τ] in
theorem isCancelled_of_live (live : (t.isCancelled s).1 = false) :
    t.isCancelled s = (false, t) := by
  rcases t.forest.isCancelled_cases t.now s with same | ⟨-, -, cancels⟩
  · refine Prod.ext live ?_
    show ({ t with forest := (t.forest.isCancelled t.now s).2 } : Timeline τ) = t
    rw [same]
  · have asked : (t.forest.isCancelled t.now s).1 = false := live
    rw [cancels] at asked
    cases asked

/-- The deadline of a scope that is not cancelled is ahead. -/
theorem lt_of_live (hn : IsTime t.now) (hd : IsTime deadline)
    (known : t.forest.deadline? s = some deadline) (live : (t.isCancelled s).1 = false) :
    Clock.lt t.now deadline = true := by
  refine (Clock.Ordered.lt_iff hn hd).mpr fun passed => ?_
  have asked : (t.isCancelled s).1 = true :=
    (Forest.fst_isCancelled ..).mpr (.inr ((Forest.isExpired_iff ..).mpr ⟨deadline, known, passed⟩))
  rw [live] at asked
  cases asked

variable [Clock.Arrives τ]

/-- A look ends the wait, or the clock is sent to the limit that is still ahead. -/
theorem waitUntil_cases (ready : t.Ready) (known : t.forest.deadline? s = some deadline)
    (hd : IsTime deadline) (hu : ∀ u, until_ = some u → IsTime u)
    (next : Clock.earliest? until_ (some deadline) = some limit) :
    (waitUntil s until_ (rounds + 1) t).1 ≠ .never ∨
      Clock.lt t.now limit = true ∧ ∃ t', t'.Ready ∧ t'.forest.deadline? s = some deadline ∧
        waitUntil s until_ (rounds + 1) t = waitUntil s until_ rounds t' ∧
        ((t'.forest.cause? s).isSome ∨ MovesTo (aim limit t.now) t.now t'.now) := by
  cases live : (t.isCancelled s).1 with
  | true =>
      rw [waitUntil_of_cancelled live]
      left
      intro same
      cases same
  | false =>
      rw [waitUntil, isCancelled_of_live live]
      simp only [known, next]
      by_cases elapsed : until_.elim false (fun u => Clock.le u t.now) = true
      · rw [if_pos elapsed]
        left
        intro same
        cases same
      · rw [if_neg elapsed]
        right
        have hn := ready.isTime
        have isTime (d : τ) (h : some deadline = some d) : IsTime d := Option.some.inj h ▸ hd
        have hl : IsTime limit := Clock.isTime_earliest? hu isTime next
        have ahead : Clock.lt t.now limit = true := by
          refine (Clock.Ordered.lt_iff hn hl).mpr fun passed => ?_
          rcases (Clock.earliest?_passed_iff hu isTime).mp ⟨limit, next, passed⟩ with
            ⟨u, rfl, passed⟩ | ⟨d, same, passed⟩
          · exact elapsed passed
          · rw [← Option.some.inj same] at passed
            exact (Clock.Ordered.lt_iff hn hd).mp (lt_of_live hn hd known live) passed
        let t' := t.advance (Clock.sub limit t.now) (some s)
        have extends_ : t.Extends t' :=
          keeps_advance (P := fun t' => t.Extends t') (fun _ h => h.trans
            (.of_eq (Forest.size_cancel ..) fun _ => Forest.deadline?_cancel ..))
            (fun _ h => h.trans (.of_eq rfl fun _ => rfl)) _ _ (.refl t)
        refine ⟨ahead, t', keeps_advance Ready.fire (fun now h => h.later now) _ _ ready, ?_, rfl,
          advance_cases hn (Clock.Arrives.isTime_aim ready.isMoment ahead) s⟩
        rw [extends_.deadline_eq (Forest.lt_size_of_deadline? known), known]

/-- A wait ends if it does from where the clock is sent. -/
theorem waitUntil_ends_of (ready : t.Ready) (known : t.forest.deadline? s = some deadline)
    (hd : IsTime deadline) (hu : ∀ u, until_ = some u → IsTime u)
    (next : Clock.earliest? until_ (some deadline) = some limit)
    (ends : ∀ t', t'.Ready → t'.forest.deadline? s = some deadline →
      MovesTo (aim limit t.now) t.now t'.now → (waitUntil s until_ (rounds + 1) t').1 ≠ .never) :
    (waitUntil s until_ (rounds + 2) t).1 ≠ .never := by
  rcases waitUntil_cases ready known hd hu next with
    done | ⟨-, t', ready', known', same, cancelled | moves⟩
  · exact done
  · rw [same, waitUntil_of_cancelled ((Forest.fst_isCancelled ..).mpr (.inl cancelled))]
    intro never
    cases never
  · rw [same]
    exact ends t' ready' known' moves

/-- A wait on a scope that has a deadline ends. -/
theorem wait_ends (ready : t.Ready) (known : t.forest.deadline? s = some deadline)
    (hd : IsTime deadline) {timeout : Option τ} (ht : ∀ span, timeout = some span → IsTime span) :
    (t.wait s timeout).1 ≠ .never := by
  cases live : (t.isCancelled s).1 with
  | true =>
      rw [wait, waitRounds, waitUntil_of_cancelled live]
      intro same
      cases same
  | false =>
      have ahead := lt_of_live ready.isTime hd known live
      have hu (u : τ) (h : timeout.map (Clock.add t.now) = some u) : IsTime u := by
        obtain ⟨span, given, rfl⟩ := Option.map_eq_some_iff.mp h
        exact Clock.Arrives.isTime_add ready.isMoment ahead (ht span given)
      have isTime (d : τ) (h : some deadline = some d) : IsTime d := Option.some.inj h ▸ hd
      obtain ⟨limit, next⟩ : ∃ limit,
          Clock.earliest? (timeout.map (Clock.add t.now)) (some deadline) = some limit := by
        cases timeout <;> exact ⟨_, rfl⟩
      have hl : IsTime limit := Clock.isTime_earliest? hu isTime next
      rw [wait, waitRounds]
      refine waitUntil_ends_of ready known hd hu next fun t₁ ready₁ known₁ moves₁ => ?_
      refine waitUntil_ends_of ready₁ known₁ hd hu next fun t₂ ready₂ known₂ moves₂ => ?_
      refine waitUntil_ends_of ready₂ known₂ hd hu next fun t₃ ready₃ known₃ moves₃ => ?_
      -- By now the clock has arrived, so the fourth look ends the wait.
      have passed := Clock.Arrives.arrives ready.isMoment hl moves₁ moves₂ moves₃
      rcases waitUntil_cases ready₃ known₃ hd hu next with done | ⟨ahead, -⟩
      · exact done
      · exact absurd passed ((Clock.Ordered.lt_iff ready₃.isTime hl).mp ahead)

end Ends

end Timeline

end Checkup
