import Checkup.Proofs.Scope.Spared

/-!
What scopes keep as time goes on.

Whatever is done to scopes, those there are stay where they hang, with their deadlines and with the
causes that they have, and none of them is linked below another again. `Follows` says so of a
timeline and a later one. It holds whoever acts on whatever scopes, so it is what remains to be said
of one job of a batch while others act on the same scopes.

Main statements: `Touch.follows` and `follows_of_touches` (every action on scopes is followed so),
`Follows.closed` (a closed scope stays closed) and `Closed.unlinked_below` (neither it nor anything
below it is linked).
-/

namespace Checkup.Timeline

open Clock (IsTime)

variable {τ : Type} [Clock τ] [Clock.Ordered τ] {t t' t'' : Timeline τ} {n s p i : ScopeId}

/-- A later timeline: nothing is owed in its forest, the clock shows a time that is no earlier, and
the scopes that there were have stayed. -/
structure Follows (t t' : Timeline τ) : Prop extends t.Extends t' where
  settled : t'.forest.Settled
  isTime : IsTime t'.now
  forward : Clock.le t.now t'.now = true
  parent?_eq {i : ScopeId} : i < t.forest.size → t'.forest.parent? i = t.forest.parent? i
  cause?_of_some {i : ScopeId} {known : Fault} :
    t.forest.cause? i = some known → t'.forest.cause? i = some known
  /-- Of the scopes that there were, none is linked that was not. -/
  mem_children {p i : ScopeId} :
    i < t.forest.size → i ∈ t'.forest.children p → i ∈ t.forest.children p

namespace Follows

theorem refl (settled : t.forest.Settled) (isTime : IsTime t.now) : t.Follows t where
  toExtends := .refl t
  settled := settled
  isTime := isTime
  forward := Clock.le_refl isTime
  parent?_eq _ := rfl
  cause?_of_some := id
  mem_children _ := id

theorem trans (first : t.Follows t') (second : t'.Follows t'') : t.Follows t'' where
  toExtends := first.toExtends.trans second.toExtends
  settled := second.settled
  isTime := second.isTime
  forward := Clock.Ordered.le_trans first.forward second.forward
  parent?_eq old :=
    (second.parent?_eq (Nat.lt_of_lt_of_le old first.size_le)).trans (first.parent?_eq old)
  cause?_of_some known := second.cause?_of_some (first.cause?_of_some known)
  mem_children old mem :=
    first.mem_children old (second.mem_children (Nat.lt_of_lt_of_le old first.size_le) mem)

/-! ### Actions -/

theorem cancel (settled : t.forest.Settled) (isTime : IsTime t.now) (s : ScopeId) (cause : Fault) :
    t.Follows (t.cancel s cause) where
  toExtends := .cancel t s cause
  settled := Forest.formed_cancel settled s cause
  isTime := isTime
  forward := Clock.le_refl isTime
  parent?_eq _ := Forest.parent?_cancel ..
  cause?_of_some known := Forest.cause?_cancel_of_some known s cause
  mem_children _ mem := Forest.mem_children_of_cancel mem

theorem close (settled : t.forest.Settled) (isTime : IsTime t.now) (s : ScopeId) :
    t.Follows (t.close s) where
  toExtends := .close t s
  settled := Forest.settled_close settled s
  isTime := isTime
  forward := Clock.le_refl isTime
  parent?_eq _ := Forest.parent?_close ..
  cause?_of_some known := by
    show (t.forest.close s).cause? _ = _
    rw [Forest.cause?_close]
    exact Forest.cause?_cancel_of_some known ..
  mem_children _ mem := Forest.mem_children_of_close mem

theorem isCancelled (settled : t.forest.Settled) (isTime : IsTime t.now) (s : ScopeId) :
    t.Follows (t.isCancelled s).2 := by
  show t.Follows { t with forest := (t.forest.isCancelled t.now s).2 }
  rcases t.forest.isCancelled_cases t.now s with same | ⟨-, -, cancels⟩
  · rw [same]
    exact refl settled isTime
  · rw [cancels]
    exact cancel settled isTime s _

theorem later (settled : t.forest.Settled) (isTime : IsTime t.now) (now : τ) :
    t.Follows { t with now := Clock.later t.now now } :=
  { refl settled isTime with
    toExtends := .of_eq rfl fun _ => rfl
    isTime := Clock.isTime_later isTime now
    forward := Clock.le_later isTime now }

theorem fire (settled : t.forest.Settled) (isTime : IsTime t.now) (timer : Timer τ)
    (others : List (Timer τ)) : t.Follows (t.fire timer others) := by
  have cancels := cancel settled isTime timer.target timer.cause
  exact { cancels with
    toExtends := .of_eq (Forest.size_cancel ..) fun _ => Forest.deadline?_cancel ..
    isTime := Clock.isTime_later isTime timer.due
    forward := Clock.le_later isTime timer.due }

/-- A scope that is made leaves those there are, once the one above has been asked. -/
theorem child (settled : t.forest.Settled) (isTime : IsTime t.now) (made : p < t.forest.size)
    (timeout : Option τ) : t.Follows (t.child p timeout).2 := by
  have asked := isCancelled settled isTime p
  have grown := Forest.grown_child settled t.now timeout made
  have size : (t.forest.isCancelled t.now p).2.size = t.forest.size := Forest.size_isCancelled ..
  refine ⟨.child settled made timeout, grown.settled, isTime, Clock.le_refl isTime, fun old => ?_,
    fun known => ?_, ?_⟩
  · refine (grown.parent?_eq _).trans ?_
    rw [size, if_neg (Nat.ne_of_lt old), Forest.parent?_isCancelled]
  · refine (grown.cause?_eq ?_).trans (asked.cause?_of_some known)
    rw [size]
    exact Nat.ne_of_lt (Forest.lt_size_of_cause? known)
  · intro q i old mem
    have hangs := grown.settled.parent?_of_mem mem
    rw [grown.parent?_eq, size, if_neg (Nat.ne_of_lt old), Forest.parent?_isCancelled] at hangs
    have older : q < t.forest.size := Nat.lt_trans (settled.parent_lt hangs) old
    rcases Forest.mem_children_of_child mem older with before | ⟨-, rfl⟩
    · exact before
    · exact absurd old (Nat.lt_irrefl _)

theorem background (settled : t.forest.Settled) (isTime : IsTime t.now) :
    t.Follows t.background.2 := by
  have grown := Forest.grown_background settled
  have old {i : ScopeId} (made : i < t.forest.size) : i ≠ t.forest.size := Nat.ne_of_lt made
  refine ⟨⟨?_, fun made => ?_⟩, grown.settled, isTime, Clock.le_refl isTime, fun made => ?_,
    fun known => ?_, ?_⟩
  · exact Nat.le_trans (Nat.le_succ _) (Nat.le_of_eq grown.size_eq.symm)
  · exact (grown.deadline?_eq _).trans (if_neg (old made))
  · exact (grown.parent?_eq _).trans (if_neg (old made))
  · exact (grown.cause?_eq (old (Forest.lt_size_of_cause? known))).trans known
  · intro q i _ mem
    have pushed : i ∈ (t.forest.push {}).children q := mem
    rw [Forest.children_push] at pushed
    split at pushed
    · cases pushed
    · exact pushed

/-! ### Time -/

theorem advance (settled : t.forest.Settled) (isTime : IsTime t.now) (span : τ)
    (awaited : Option ScopeId) : t.Follows (t.advance span awaited) :=
  keeps_advance (fun _ before => before.trans (.fire before.settled before.isTime _ _))
    (fun now before => before.trans (.later before.settled before.isTime now)) span awaited
    (.refl settled isTime)

theorem wait (settled : t.forest.Settled) (isTime : IsTime t.now) (s : ScopeId)
    (timeout : Option τ) : t.Follows (t.wait s timeout).2 :=
  keeps_wait (fun s before => before.trans (.isCancelled before.settled before.isTime s))
    (fun _ before => before.trans (.fire before.settled before.isTime _ _))
    (fun now before => before.trans (.later before.settled before.isTime now)) s timeout
    (.refl settled isTime)

/-- A scope that is found cancelled is found so later. -/
theorem asked (follows : t.Follows t') (asked : (t.isCancelled s).1 = true) :
    (t'.isCancelled s).1 = true := by
  apply (Forest.fst_isCancelled ..).mpr
  rcases (Forest.fst_isCancelled ..).mp asked with cancelled | expired
  · obtain ⟨known, cancelled⟩ := Option.isSome_iff_exists.mp cancelled
    exact .inl (Option.isSome_iff_exists.mpr ⟨known, follows.cause?_of_some cancelled⟩)
  · obtain ⟨deadline, here, passed⟩ := (Forest.isExpired_iff ..).mp expired
    refine .inr ((Forest.isExpired_iff ..).mpr ⟨deadline, ?_, ?_⟩)
    · exact (follows.deadline_eq (Forest.lt_size_of_deadline? here)).trans here
    · exact Clock.Ordered.le_trans passed follows.forward

end Follows

theorem Touch.follows (touch : Touch n t t') (settled : t.forest.Settled) (isTime : IsTime t.now) :
    t.Follows t' := by
  cases touch with
  | isCancelled => exact .isCancelled settled isTime _
  | cancel cause => exact .cancel settled isTime _ cause
  | close => exact .close settled isTime _
  | child timeout _ made => exact .child settled isTime made timeout
  | later now => exact .later settled isTime now
  | @fire timer others => exact .fire settled isTime timer others

theorem follows_of_touches (touches : Touches n t t') (settled : t.forest.Settled)
    (isTime : IsTime t.now) : t.Follows t' := by
  induction touches with
  | refl => exact .refl settled isTime
  | tail _ touch ih => exact ih.trans (touch.follows ih.settled ih.isTime)

/-! ### Closed scopes -/

namespace Follows

/-- A closed scope stays closed. -/
theorem closed (follows : t.Follows t') (made : n < t.forest.size) (closed : t.Closed p n) :
    t'.Closed p n := by
  obtain ⟨known, cancelled⟩ := Option.isSome_iff_exists.mp closed.cancelled
  refine ⟨?_, fun mem => closed.unlinked (follows.mem_children made mem)⟩
  rw [follows.cause?_of_some cancelled]
  rfl

end Follows

omit [Clock τ] [Clock.Ordered τ]

/-- Closing a scope leaves it closed. -/
theorem Closed.of_close (settled : t.forest.Settled) (hangs : t.forest.parent? n = some p) :
    (t.close n).Closed p n where
  cancelled := by
    show ((t.forest.close n).cause? n).isSome
    rw [Forest.cause?_close]
    exact Forest.isSome_cause?_cancel (Forest.lt_size_of_parent? hangs) _
  unlinked := Forest.not_mem_children_close settled hangs

/-- All that hangs below a closed scope is cancelled. -/
theorem Closed.cancelled_below (closed : t.Closed p n) (settled : t.forest.Settled)
    (above : t.forest.Above n i) : (t.forest.cause? i).isSome :=
  settled.cancelled_of_above above closed.cancelled

/-- Neither a closed scope nor anything below it is linked anywhere. -/
theorem Closed.unlinked_below (closed : t.Closed p n) (settled : t.forest.Settled)
    (hangs : t.forest.parent? n = some p) (above : t.forest.Above n i) (q : ScopeId) :
    i ∉ t.forest.children q := by
  intro mem
  have here := settled.parent?_of_mem mem
  cases above with
  | self =>
      obtain rfl : p = q := Option.some.inj (hangs.symm.trans here)
      exact closed.unlinked mem
  | ofParent hangs' above =>
      obtain rfl : _ = q := Option.some.inj (hangs'.symm.trans here)
      obtain ⟨cause, cancelled⟩ :=
        Option.isSome_iff_exists.mp (closed.cancelled_below settled above)
      rw [settled.children_of_cause cancelled] at mem
      cases mem

end Checkup.Timeline
