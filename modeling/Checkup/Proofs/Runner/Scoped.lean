import Checkup.Proofs.Scope.Waits
import Checkup.World

/-!
Probes that act only through the scope that they are given.

Such a probe asks, waits for, closes and cancels its scope and those it derives from it, and reads
nothing else of the world. So it cannot tell its scope from a twin; and where waits end, it ends.

Main statements: `runProbe_between` (a probe comes to the same under a scope and under its twin) and
`runProbe_ends` (it returns, or raises what it may).
-/

namespace Checkup

variable {τ : Type}

/-- What a probe may wait for, be told as the cause of a scope, and raise. -/
structure Manner (τ : Type) where
  waits : τ → Prop := fun _ => True
  hears : Fault → Prop := fun _ => True
  raises : Fault → Prop := fun _ => True

/-- Waiting for times alone, and raising ordinary faults as long as scopes are cancelled for
cancellations and deadlines. -/
def Manner.orderly [Clock τ] [Clock.Ordered τ] : Manner τ where
  waits := Clock.IsTime
  hears := Fault.IsCancellation
  raises fault := fault.isOrdinary = true

/-- A probe that acts only through the scope that it is given and those that it derives. -/
inductive Probe.IsScoped (manner : Manner τ) : Probe τ → Prop
  | done (value : Value) : IsScoped manner (.done value)
  | fail {fault : Fault} : manner.raises fault → IsScoped manner (.fail fault)
  | isCancelled {h : Handle} {next : Bool → Probe τ} :
      (∀ cancelled, IsScoped manner (next cancelled)) → IsScoped manner (.isCancelled h next)
  | error {h : Handle} {next : Option Fault → Probe τ} :
      (∀ cause, (∀ fault, cause = some fault → manner.hears fault) → IsScoped manner (next cause)) →
      IsScoped manner (.error h next)
  | remaining {h : Handle} {next : Option τ → Probe τ} : (∀ left, IsScoped manner (next left)) →
      IsScoped manner (.remaining h next)
  | wait {h : Handle} {timeout : Option τ} {next : Bool → Probe τ} :
      (∀ span, timeout = some span → manner.waits span) →
      (∀ cancelled, IsScoped manner (next cancelled)) → IsScoped manner (.wait h timeout next)
  | derive {h : Handle} {timeout : Option τ} {next : Probe τ} : IsScoped manner next →
      IsScoped manner (.derive h timeout next)
  | close {h : Handle} {next : Probe τ} : IsScoped manner next → IsScoped manner (.close h next)
  | cancel {h : Handle} {cause : Fault} {next : Probe τ} : manner.hears cause →
      IsScoped manner next → IsScoped manner (.cancel h cause next)

namespace Probe

variable {manner : Manner τ} {h : Handle} {next : Probe τ}

/-- A check acts only through its scope, if its cause, made anew, may be raised. -/
theorem isScoped_check (fresh : ∀ fault, manner.hears fault → manner.raises fault.fresh)
    (goesOn : next.IsScoped manner) : (check h next).IsScoped manner := by
  refine .error fun cause told => ?_
  cases cause with
  | none => exact goesOn
  | some fault => exact .fail (fresh fault (told fault rfl))

/-- A sleep is scoped if the wait is, and what it raises again is what it may raise. -/
theorem isScoped_sleep {timeout : Option τ}
    (waits : ∀ span, timeout = some span → manner.waits span)
    (fresh : ∀ fault, manner.hears fault → manner.raises fault.fresh)
    (goesOn : next.IsScoped manner) : (sleep h timeout next).IsScoped manner := by
  refine .wait waits fun cancelled => ?_
  cases cancelled with
  | true => exact isScoped_check fresh goesOn
  | false => exact goesOn

end Probe

/-- A cancellation or a deadline, made anew, is ordinary. -/
theorem Fault.isOrdinary_fresh {f : Fault} (good : f.IsCancellation) :
    f.fresh.isOrdinary = true := by
  unfold fresh
  split
  · unfold textless
    split <;> rfl
  · rcases good with kind | kind
    · rw [kind]; rfl
    · rw [kind]; rfl

namespace World

open Forest (Twin)

variable {w w' : World τ} {c n s s' : ScopeId} {derived derived' : List ScopeId}

/-! ### Handles -/

theorem scopeOf_nil (own : ScopeId) (h : Handle) : scopeOf own [] h = own := by
  cases h <;> rfl

/-- A new handle stands for the scope last derived, the others for what they stood for. -/
theorem scopeOf_concat (own : ScopeId) (derived : List ScopeId) (new : ScopeId) (h : Handle) :
    scopeOf own (derived ++ [new]) h =
      if h = derived.length + 1 then new else scopeOf own derived h := by
  cases h with
  | zero => rfl
  | succ k =>
      simp only [scopeOf]
      by_cases last : k = derived.length
      · subst last
        simp
      · rw [if_neg fun h => last (Nat.succ.inj h)]
        rcases Nat.lt_or_gt_of_ne last with before | beyond
        · rw [List.getElem?_append_left before]
        · rw [List.getElem?_eq_none (by simpa using Nat.succ_le_of_lt beyond),
            List.getElem?_eq_none (Nat.le_of_lt beyond)]

/-! ### Registries -/

theorem store_setStore (w : World τ) (store : Nat) (r : Registry (Entry τ)) :
    (w.setStore store r).store store = if store < w.stores.size then r else {} := by
  unfold World.store setStore
  by_cases inside : store < w.stores.size
  · simp [inside, Array.getElem_modify]
  · simp [inside]

theorem store_setStore_of_ne {store other : Nat} (apart : other ≠ store) (w : World τ)
    (r : Registry (Entry τ)) : (w.setStore store r).store other = w.store other := by
  unfold World.store setStore
  rw [Array.getElem?_modify, if_neg apart.symm]

/-- What is registered goes into the registry, and is noted. -/
theorem exists_of_register {store : Nat} {entry : Entry τ}
    (registers : w.register store entry = .ok w') : ∃ r,
      (w.store store).register entry.check.category entry.check.name entry = .ok r ∧
        w' = (w.setStore store r).note (.registered entry.check.category entry.check.name) := by
  unfold World.register at registers
  split at registers
  · rename_i r added
    cases registers
    exact ⟨r, added, rfl⟩
  · cases registers

theorem line_register {store : Nat} {entry : Entry τ}
    (registers : w.register store entry = .ok w') : w'.line = w.line := by
  obtain ⟨r, -, rfl⟩ := exists_of_register registers
  rfl

theorem line_unregister (store : Nat) (category name : String) (w : World τ) :
    (w.unregister store category name).2.line = w.line := by
  unfold World.unregister
  split <;> rfl

/-- A registry does not know of time and scopes. -/
theorem register_line (w : World τ) (u : Timeline τ) (store : Nat) (entry : Entry τ) :
    ({ w with line := u } : World τ).register store entry =
      (w.register store entry).map fun v => { v with line := u } := by
  have same : ({ w with line := u } : World τ).store store = w.store store := rfl
  unfold World.register
  rw [same]
  cases (w.store store).register entry.check.category entry.check.name entry <;> rfl

theorem unregister_line (w : World τ) (u : Timeline τ) (store : Nat) (category name : String) :
    ({ w with line := u } : World τ).unregister store category name =
      ((w.unregister store category name).1,
        { (w.unregister store category name).2 with line := u }) := by
  have same : ({ w with line := u } : World τ).store store = w.store store := rfl
  unfold World.unregister
  rw [same]
  cases (w.store store).unregister category name with
  | mk removed r => cases removed <;> rfl

/-! ### Tied worlds -/

variable {B : Timeline τ → Timeline τ → Prop}

/-- Two worlds that differ in nothing but their timelines, which are tied. -/
structure Tied (B : Timeline τ → Timeline τ → Prop) (w w' : World τ) : Prop where
  line : B w.line w'.line
  rest : w' = { w with line := w'.line }

/-- Two runs come to the same and leave tied worlds. -/
structure Agree {α : Type} (B : Timeline τ → Timeline τ → Prop) (run run' : α × World τ) :
    Prop where
  same : run'.1 = run.1
  tied : Tied B run.2 run'.2

namespace Tied

theorem mono {C : Timeline τ → Timeline τ → Prop} (tied : Tied B w w')
    (weaken : ∀ {t u : Timeline τ}, B t u → C t u) : Tied C w w' :=
  ⟨weaken tied.line, tied.rest⟩

/-- What changes the timelines alone. -/
theorem of_line {C : Timeline τ → Timeline τ → Prop} {t u : Timeline τ} (tied : Tied B w w')
    (line : C t u) : Tied C { w with line := t } { w' with line := u } where
  line := line
  rest := by rw [tied.rest]

theorem note (tied : Tied B w w') (e : Event τ) : Tied B (w.note e) (w'.note e) where
  line := tied.line
  rest := by rw [tied.rest]; rfl

theorem issueId (tied : Tied B w w') (source : IdSource) :
    Agree B (w.issueId source) (w'.issueId source) := by
  have rest := tied.rest
  cases source with
  | counted =>
      refine ⟨?_, tied.line, ?_⟩
      · rw [rest]; rfl
      · rw [rest]; rfl
  | timeOrdered =>
      refine ⟨?_, tied.line, ?_⟩
      · rw [rest]; rfl
      · rw [rest]; rfl

end Tied

theorem Agree.mono {α : Type} {C : Timeline τ → Timeline τ → Prop} {run run' : α × World τ}
    (agree : Agree B run run') (weaken : ∀ {t u : Timeline τ}, B t u → C t u) :
    Agree C run run' :=
  ⟨agree.same, agree.tied.mono weaken⟩

/-- Two worlds that differ in nothing but a scope more in between. -/
structure Between (c n : ScopeId) (w w' : World τ) : Prop where
  line : Timeline.Between c n w.line w'.line
  rest : w' = { w with line := w'.line }

theorem Between.tied (b : Between c n w w') : Tied (Timeline.Between c n) w w' := ⟨b.line, b.rest⟩

theorem Tied.between (tied : Tied (Timeline.Between c n) w w') : Between c n w w' :=
  ⟨tied.line, tied.rest⟩

/-- What changes the timelines alone. -/
theorem Between.of_line {t u : Timeline τ} (b : Between c n w w')
    (line : Timeline.Between c n t u) : Between c n { w with line := t } { w' with line := u } :=
  (b.tied.of_line line).between

variable [Clock τ]

/-- A probe that acts only through its scope comes to the same under a twin of that scope. -/
theorem runProbe_between {p : Probe τ} (acts : p.IsScoped {}) (setting : Setting τ) (s s' : ScopeId)
    (b : Between c n w w') (length : derived'.length = derived.length)
    (twins : ∀ h, Twin c n (scopeOf s derived h) (scopeOf s' derived' h))
    (made : ∀ h, scopeOf s derived h < w.line.forest.size) :
    (runProbe setting s' p derived' w').1 = (runProbe setting s p derived w).1 ∧
      Between c n (runProbe setting s p derived w).2 (runProbe setting s' p derived' w').2 := by
  -- What a probe does next changes the timeline, and leaves the scopes that there are.
  have stay {t : Timeline τ} {derived : List ScopeId} {w : World τ} (grows : w.line.Extends t)
      (made : ∀ h, scopeOf s derived h < w.line.forest.size) (h : Handle) :
      scopeOf s derived h < t.forest.size := Nat.lt_of_lt_of_le (made h) grows.size_le
  induction acts generalizing derived derived' w w' with
  | done value => exact ⟨rfl, b⟩
  | fail raises => exact ⟨rfl, b⟩
  | @isCancelled h next _ ih =>
      obtain ⟨same, still⟩ := b.line.isCancelled (twins h)
      simp only [runProbe, same]
      exact ih _ (b.of_line still) length twins (stay (.isCancelled w.line _) made)
  | @error h next _ ih =>
      obtain ⟨same, still⟩ := b.line.error (twins h)
      simp only [runProbe, same]
      exact ih _ (fun _ _ => trivial) (b.of_line still) length twins (stay (.error w.line _) made)
  | @remaining h next _ ih =>
      simp only [runProbe, b.line.remaining (twins h)]
      exact ih _ b length twins made
  | @wait h timeout next _ _ ih =>
      obtain ⟨same, still⟩ := b.line.wait (twins h) timeout
      have stays := stay (.wait w.line (scopeOf s derived h) timeout) made
      simp only [runProbe]
      cases waits : w.line.wait (scopeOf s derived h) timeout with
      | mk woken t =>
          cases waits' : w'.line.wait (scopeOf s' derived' h) timeout with
          | mk woken' u =>
              rw [waits] at stays
              rw [waits, waits'] at same still
              obtain rfl : woken' = woken := same
              cases woken' with
              | cancelled => exact ih _ (b.of_line still) length twins stays
              | elapsed => exact ih _ (b.of_line still) length twins stays
              | never => exact ⟨rfl, b.of_line still⟩
  | @derive h timeout next _ ih =>
      have still := b.line.child (twins h) (made h) timeout
      have grows := Timeline.Extends.child b.line.forest.settled (made h) timeout
      have new : (w.line.child (scopeOf s derived h) timeout).1 = w.line.forest.size :=
        Forest.fst_child ..
      have new' : (w'.line.child (scopeOf s' derived' h) timeout).1 = w'.line.forest.size :=
        Forest.fst_child ..
      simp only [runProbe, new, new']
      refine ih (b.of_line still) (by simp [length]) (fun h => ?_) (fun h => ?_)
      · rw [scopeOf_concat, scopeOf_concat, length]
        split
        · exact b.line.forest.twin_new
        · exact twins h
      · rw [scopeOf_concat]
        split
        · rw [Timeline.Extends.size_child b.line.forest.settled (made _)]
          exact Nat.lt_succ_self _
        · exact stay grows made h
  | @close h next _ ih =>
      simp only [runProbe]
      exact ih (b.of_line (b.line.close (twins h))) length twins
        (stay (.close w.line _) made)
  | @cancel h cause next _ _ ih =>
      simp only [runProbe]
      exact ih (b.of_line (b.line.cancel (twins h) cause)) length twins
        (stay (.cancel w.line _ cause) made)

/-! ### Probes that end -/

variable [Clock.Ordered τ] [Clock.Arrives τ]

/-- Every handle of a probe stands for a scope that has a deadline. -/
def Held (t : Timeline τ) (s : ScopeId) (derived : List ScopeId) : Prop :=
  ∀ h, ∃ deadline,
    t.forest.deadline? (scopeOf s derived h) = some deadline ∧ Clock.IsTime deadline

variable {t : Timeline τ}

omit [Clock.Arrives τ] in
theorem Held.extends (held : Held w.line s derived) (grows : w.line.Extends t) :
    Held t s derived := by
  intro h
  obtain ⟨deadline, known, isTime⟩ := held h
  exact ⟨deadline, (grows.deadline_eq (Forest.lt_size_of_deadline? known)).trans known, isTime⟩

/-- A scope that is derived has the deadline of the one it is derived from, or an earlier one. -/
theorem Held.child (held : Held w.line s derived) (ready : w.line.Ready) (h : Handle)
    (timeout : Option τ) : Held (w.line.child (scopeOf s derived h) timeout).2 s
      (derived ++ [w.line.forest.size]) := by
  intro h'
  obtain ⟨deadline, known, isTime⟩ := held h
  have made := Forest.lt_size_of_deadline? known
  rw [scopeOf_concat]
  split
  · rw [Timeline.Extends.deadline?_child ready.settled made, if_pos rfl, known]
    cases timeout with
    | none => exact ⟨deadline, rfl, isTime⟩
    | some span => exact ⟨_, rfl, Clock.isTime_earlier_left isTime _⟩
  · exact held.extends (.child ready.settled made timeout) h'

/-- A probe has returned, or has raised something ordinary. -/
structure Ends (w : World τ) (run : Outcome Value × World τ) : Prop where
  ends : (∃ value, run.1 = .returned value) ∨
    ∃ fault, run.1 = .raised fault ∧ fault.isOrdinary = true
  ready : run.2.line.Ready
  grows : w.line.Extends run.2.line

/-- Time that has passed at the beginning does not matter to how a run ends. -/
theorem Ends.of_line {run : Outcome Value × World τ} (grows : w.line.Extends t)
    (later : Ends { w with line := t } run) : Ends w run :=
  ⟨later.ends, later.ready, grows.trans later.grows⟩

/-- A probe that acts only through its scope, which has a deadline, and waits for times alone
returns, or raises something ordinary. -/
theorem runProbe_ends {p : Probe τ} (acts : p.IsScoped .orderly) (setting : Setting τ)
    (ready : w.line.Ready) (held : Held w.line s derived) :
    Ends w (runProbe setting s p derived w) := by
  induction acts generalizing derived w with
  | done value => exact ⟨.inl ⟨value, rfl⟩, ready, .refl _⟩
  | fail raises => exact ⟨.inr ⟨_, rfl, raises⟩, ready, .refl _⟩
  | @isCancelled h next _ ih =>
      have grows := Timeline.Extends.isCancelled w.line (scopeOf s derived h)
      exact .of_line grows (ih _ (ready.isCancelled _) (held.extends grows))
  | @error h next _ ih =>
      have grows := Timeline.Extends.error w.line (scopeOf s derived h)
      exact .of_line grows (ih _ (fun _ told => ready.isCancellation_error told) (ready.error _)
        (held.extends grows))
  | @remaining h next _ ih => exact ih _ ready held
  | @wait h timeout next waits _ ih =>
      obtain ⟨deadline, known, isTime⟩ := held h
      have ends := Timeline.wait_ends ready known isTime waits
      have grows := Timeline.Extends.wait w.line (scopeOf s derived h) timeout
      have ready' := ready.wait (scopeOf s derived h) timeout
      simp only [runProbe]
      cases waits : w.line.wait (scopeOf s derived h) timeout with
      | mk woken t =>
          rw [waits] at ends grows ready'
          cases woken with
          | cancelled => exact .of_line grows (ih true ready' (held.extends grows))
          | elapsed => exact .of_line grows (ih false ready' (held.extends grows))
          | never => exact absurd rfl ends
  | @derive h timeout next _ ih =>
      obtain ⟨deadline, known, -⟩ := held h
      have made := Forest.lt_size_of_deadline? known
      have new : (w.line.child (scopeOf s derived h) timeout).1 = w.line.forest.size :=
        Forest.fst_child ..
      simp only [runProbe, new]
      exact .of_line (.child ready.settled made timeout)
        (ih (ready.child made timeout) (held.child ready h timeout))
  | @close h next _ ih =>
      have grows := Timeline.Extends.close w.line (scopeOf s derived h)
      exact .of_line grows (ih (ready.close _) (held.extends grows))
  | @cancel h cause next good _ ih =>
      have grows := Timeline.Extends.cancel w.line (scopeOf s derived h) cause
      exact .of_line grows (ih (ready.cancel _ good) (held.extends grows))

end World

end Checkup
