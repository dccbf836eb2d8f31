import Checkup.Proofs.Scope.Lockstep

/-!
One scope more in between.

A scope `c` may be handed on as it is, or a scope below it that has no deadline of its own. What is
then made below the one or the other cannot tell them apart: the two go by different numbers, expire
at the same time, and are cancelled for the same cause, be it by their own deadline or from above.
That the scope between is marked where otherwise `c` itself would be makes no difference to anything
that hangs below it.

`Between` ties a forest to one with a scope more. It says nothing of the scopes that were made
before and hang elsewhere, which need not agree.

Main statements: `Between.cancel`, `Between.child` and `Between.close` (what is done to a scope and
to its twin keeps them twins), `Timeline.Between.wait` (a wait ends alike, at the same time).
-/

namespace Checkup

namespace Forest

variable {τ : Type} {f g : Forest τ} {c n s s' i j p q : ScopeId} {cause : Fault}

/-! ### Causes after a cancel -/

/-- A cancel gives its cause to what is live at or below the scope it is called on. -/
theorem cause?_cancel_of_above (settled : f.Settled) (made : s < f.size) (above : f.Above s i)
    (live : f.cause? i = none) (cause : Fault) : (f.cancel s cause).cause? i = some cause := by
  have still : (f.cancel s cause).Above s i := above.of_parent?_eq fun _ _ => by simp
  obtain ⟨known, cancelled⟩ := Option.isSome_iff_exists.mp
    ((formed_cancel settled s cause).cancelled_of_above still (isSome_cause?_cancel made cause))
  rcases cause?_cancel_cases settled cancelled with before | ⟨rfl, -⟩
  · rw [live] at before
    cases before
  · exact cancelled

/-- A cancel changes nothing elsewhere. -/
theorem cause?_cancel_of_not_above (settled : f.Settled) (apart : ¬ f.Above s i) (cause : Fault) :
    (f.cancel s cause).cause? i = f.cause? i := by
  refine cause?_spread_of_not_above (settled.mono fun _ h => .inr h) fun t mem => ?_
  rwa [List.mem_singleton.mp mem]

theorem cause?_eq_none_of_le (unmade : f.size ≤ s) : f.cause? s = none := by
  simp [cause?, get?_eq_none_iff.mpr unmade]

theorem deadline?_eq_none_of_le (unmade : f.size ≤ s) : f.deadline? s = none := by
  simp [deadline?, get?_eq_none_iff.mpr unmade]

section Child

variable [Clock τ] {now : τ} (f : Forest τ) (timeout : Option τ)

/-- Asking twice is asking once. -/
theorem isCancelled_isCancelled (now : τ) (s : ScopeId) :
    (f.isCancelled now s).2.isCancelled now s = f.isCancelled now s := by
  rcases f.isCancelled_cases now s with same | ⟨-, expired, cancels⟩
  · rw [same]
  · obtain ⟨d, deadline, -⟩ := (isExpired_iff ..).mp expired
    rw [cancels, isCancelled,
      if_pos (isSome_cause?_cancel (lt_size_of_deadline? deadline) .deadlineExceeded)]

/-- Making a scope asks the one above it first. -/
theorem child_isCancelled :
    (f.isCancelled now p).2.child now p timeout = f.child now p timeout := by
  simp only [child, deadline?_isCancelled, isCancelled_isCancelled]

theorem fst_child : (f.child now p timeout).1 = f.size := by
  cases known : (f.isCancelled now p).2.cause? p with
  | none => rw [child_of_live known]
  | some cause => rw [child_of_cancelled known]

theorem size_child : (f.child now p timeout).2.size = f.size + 1 := by
  cases known : (f.isCancelled now p).2.cause? p with
  | none => simp [child_of_live known, withChild]
  | some cause => simp [child_of_cancelled known, withChild]

variable {f} in
/-- A new scope is born with the cause of the one that it is made below. -/
theorem cause?_child_new (settled : f.Settled) (made : p < f.size) :
    (f.child now p timeout).2.cause? f.size = (f.isCancelled now p).2.cause? p := by
  have size : (f.isCancelled now p).2.size = f.size := size_isCancelled ..
  have unborn : (f.withChild now p timeout).cause? f.size = none := by
    rw [withChild, cause?_push, size, if_pos rfl]
  cases known : (f.isCancelled now p).2.cause? p with
  | none => rw [child_of_live known, cause?_link, unborn]
  | some cause =>
      have new : f.size < (f.withChild now p timeout).size := by simp [withChild]
      have formed : (f.withChild now p timeout).Formed fun i => i ∈ [f.size] ∨ False :=
        (formed_withChild settled now timeout made).mono fun i h =>
          .inl (List.mem_singleton.mpr h)
      rw [child_of_cancelled known]
      obtain ⟨given, born⟩ := Option.isSome_iff_exists.mp (isSome_cause?_cancel new cause)
      rcases cause?_spread_cases formed born with before | ⟨rfl, -⟩
      · rw [unborn] at before
        cases before
      · exact born

end Child

/-- To cancel what was not made changes nothing. -/
theorem cancel_of_le (unmade : f.size ≤ s) (cause : Fault) : f.cancel s cause = f := by
  have notLive : ¬ f.IsLive s := fun live => Nat.not_le_of_lt live.1 unmade
  rw [cancel, spread_cons, claim_of_not_live notLive]
  simp

/-! Closing cancels, and touches nothing else but links. -/

section Close

variable (f : Forest τ) (s i : ScopeId)

/-- To close a scope is to cancel it and then, maybe, to take its link away. -/
theorem close_cases : f.close s = f.cancel s .scopeCancelled ∨
    ∃ p, f.close s = (f.cancel s .scopeCancelled).detach p s := by
  unfold close
  simp only
  split
  · exact .inl rfl
  · exact .inr ⟨_, rfl⟩

@[simp] theorem size_close : (f.close s).size = f.size := by
  rcases f.close_cases s with same | ⟨p, same⟩ <;> simp [same]

@[simp] theorem parent?_close : (f.close s).parent? i = f.parent? i := by
  rcases f.close_cases s with same | ⟨p, same⟩ <;> simp [same]

@[simp] theorem deadline?_close : (f.close s).deadline? i = f.deadline? i := by
  rcases f.close_cases s with same | ⟨p, same⟩ <;> simp [same]

theorem cause?_close : (f.close s).cause? i = (f.cancel s .scopeCancelled).cause? i := by
  rcases f.close_cases s with same | ⟨p, same⟩ <;> simp [same]

end Close

theorem settled_close (settled : f.Settled) (s : ScopeId) : (f.close s).Settled := by
  by_cases made : s < f.size
  · exact formed_close settled made
  · have unmade := Nat.not_lt.mp made
    have rootless : f.parent? s = none := by simp [parent?, get?_eq_none_iff.mpr unmade]
    rwa [close, cancel_of_le unmade, rootless]

/-! ### Twins -/

/-- The scope that stands for another where one more was made at `n` below `c`: that scope for `c`,
and for each made from then on the one that comes a place later. -/
inductive Twin (c n : ScopeId) : ScopeId → ScopeId → Prop
  | between : Twin c n c n
  | later {i : ScopeId} : n ≤ i → Twin c n i (i + 1)

namespace Twin

variable {i' j' : ScopeId}

theorem le (twin : Twin c n i j) : n ≤ j := by
  cases twin with
  | between => exact Nat.le_refl n
  | later late => exact Nat.le_succ_of_le late

theorem right_unique (lt : c < n) (twin : Twin c n i j) (other : Twin c n i j') : j = j' := by
  cases twin with
  | between => cases other with
    | between => rfl
    | later late => exact absurd late (Nat.not_le_of_lt lt)
  | later late => cases other with
    | between => exact absurd late (Nat.not_le_of_lt lt)
    | later => rfl

theorem left_unique (twin : Twin c n i j) (other : Twin c n i' j) : i = i' := by
  cases twin with
  | between => cases other with
    | between => rfl
    | later late => exact absurd late (Nat.not_succ_le_self _)
  | later late => cases other with
    | between => exact absurd late (Nat.not_succ_le_self _)
    | later => rfl

end Twin

/-- What is done to the one of two scopes is done to the other: they are twins, or the same scope
made before. -/
inductive Struck (c n : ScopeId) : ScopeId → ScopeId → Prop
  | twin {i j : ScopeId} : Twin c n i j → Struck c n i j
  | before {i : ScopeId} : i < n → Struck c n i i

/-- `g` is `f` with one scope more, made at `n` below `c`; all that was made below `c` from then on
hangs below it. -/
structure Between (c n : ScopeId) (f g : Forest τ) : Prop where
  settled : f.Settled
  settled' : g.Settled
  lt : c < n
  le_size : n ≤ f.size
  size_eq : g.size = f.size + 1
  parent_before {i : ScopeId} : i < n → g.parent? i = f.parent? i
  parent_between : g.parent? n = some c
  parent_later {i : ScopeId} : n ≤ i → i < f.size →
    ∃ p q, Twin c n p q ∧ f.parent? i = some p ∧ g.parent? (i + 1) = some q
  deadline_eq {i j : ScopeId} : Twin c n i j → g.deadline? j = f.deadline? i
  cause_eq {i j : ScopeId} : Twin c n i j → g.cause? j = f.cause? i

namespace Between

variable (b : Between c n f g)
include b

/-- Of two scopes that are struck alike both are made, or neither. -/
theorem lt_size_iff (struck : Struck c n s s') : s' < g.size ↔ s < f.size := by
  rw [b.size_eq]
  cases struck with
  | twin twin => cases twin with
    | between => exact iff_of_true (Nat.lt_succ_of_le b.le_size) (Nat.lt_of_lt_of_le b.lt b.le_size)
    | later late => exact Nat.succ_lt_succ_iff
  | before old =>
      have made := Nat.lt_of_lt_of_le old b.le_size
      exact iff_of_true (Nat.lt_succ_of_lt made) made

theorem twin_new : Twin c n f.size g.size := by
  rw [b.size_eq]
  exact .later b.le_size

/-! ### What hangs below twins -/

/-- The scopes above an old one are the same with the new scope in between. -/
theorem above_before (old : i < n) : g.Above s i ↔ f.Above s i := by
  constructor
  · intro above
    induction above with
    | self => exact .self
    | @ofParent i p hangs _ ih =>
        have older := Nat.lt_trans (b.settled'.parent_lt hangs) old
        rw [b.parent_before old] at hangs
        exact .ofParent hangs (ih older)
  · intro above
    induction above with
    | self => exact .self
    | @ofParent i p hangs _ ih =>
        have older := Nat.lt_trans (b.settled.parent_lt hangs) old
        rw [← b.parent_before old] at hangs
        exact .ofParent hangs (ih older)

/-- What hangs below a scope has its twin below the twin of that scope. -/
theorem above (struck : Struck c n s s') (twin : Twin c n i j) (above : f.Above s i) :
    g.Above s' j := by
  induction above generalizing j with
  | self =>
      cases struck with
      | twin same =>
          rw [same.right_unique b.lt twin]
          exact .self
      | before old =>
          cases twin with
          | between => exact .ofParent b.parent_between .self
          | later late => exact absurd late (Nat.not_le_of_lt old)
  | @ofParent i p hangs above ih =>
      cases twin with
      | between =>
          have higher := Nat.lt_of_le_of_lt (b.settled.le_of_above above)
            (b.settled.parent_lt hangs)
          cases struck with
          | twin same => cases same with
            | between => exact absurd higher (Nat.lt_irrefl _)
            | later late => exact absurd (Nat.lt_trans higher b.lt) (Nat.not_lt_of_le late)
          | before old =>
              exact .ofParent b.parent_between ((b.above_before b.lt).mpr (.ofParent hangs above))
      | later late =>
          obtain ⟨p', q, twins, parent, parent'⟩ := b.parent_later late (lt_size_of_parent? hangs)
          obtain rfl : p = p' := Option.some.inj (hangs.symm.trans parent)
          exact .ofParent parent' (ih twins)

/-- Only what has its twin there hangs below a scope. -/
theorem of_above (struck : Struck c n s s') (twin : Twin c n i j) (above : g.Above s' j) :
    f.Above s i := by
  induction above generalizing i with
  | self =>
      cases struck with
      | twin same =>
          rw [same.left_unique twin]
          exact .self
      | before old => exact absurd twin.le (Nat.not_le_of_lt old)
  | @ofParent j q hangs above ih =>
      cases twin with
      | between =>
          obtain rfl : c = q := Option.some.inj (b.parent_between.symm.trans hangs)
          have higher := b.settled'.le_of_above above
          cases struck with
          | twin same => exact absurd (Nat.le_trans same.le higher) (Nat.not_le_of_lt b.lt)
          | before old => exact (b.above_before b.lt).mp above
      | later late =>
          have made : i < f.size := by
            have := lt_size_of_parent? hangs
            rw [b.size_eq] at this
            exact Nat.lt_of_succ_lt_succ this
          obtain ⟨p, q', twins, parent, parent'⟩ := b.parent_later late made
          obtain rfl : q = q' := Option.some.inj (hangs.symm.trans parent')
          exact .ofParent parent (ih twins)

/-! ### What is done to twins -/

/-- Causes and links may change, of twins alike. -/
theorem of_causes {f' g' : Forest τ} (settled : f'.Settled) (settled' : g'.Settled)
    (size : f'.size = f.size) (size' : g'.size = g.size)
    (parent : ∀ i, f'.parent? i = f.parent? i) (parent' : ∀ i, g'.parent? i = g.parent? i)
    (deadline : ∀ i, f'.deadline? i = f.deadline? i)
    (deadline' : ∀ i, g'.deadline? i = g.deadline? i)
    (cause : ∀ i j, Twin c n i j → g'.cause? j = f'.cause? i) : Between c n f' g' where
  settled := settled
  settled' := settled'
  lt := b.lt
  le_size := size ▸ b.le_size
  size_eq := by rw [size, size', b.size_eq]
  parent_before old := by rw [parent, parent', b.parent_before old]
  parent_between := by rw [parent', b.parent_between]
  parent_later late made := by
    rw [size] at made
    simpa only [parent, parent'] using b.parent_later late made
  deadline_eq twin := by rw [deadline, deadline', b.deadline_eq twin]
  cause_eq := cause _ _

theorem cancel (struck : Struck c n s s') (cause : Fault) :
    Between c n (f.cancel s cause) (g.cancel s' cause) := by
  by_cases made : s < f.size
  case neg =>
    have unmade' : ¬ s' < g.size := fun made' => made ((b.lt_size_iff struck).mp made')
    rwa [cancel_of_le (Nat.not_lt.mp made), cancel_of_le (Nat.not_lt.mp unmade')]
  refine b.of_causes (formed_cancel b.settled s cause) (formed_cancel b.settled' s' cause)
    (size_cancel ..) (size_cancel ..) (parent?_cancel f s cause) (parent?_cancel g s' cause)
    (deadline?_cancel f s cause) (deadline?_cancel g s' cause) fun i j twin => ?_
  have same := b.cause_eq twin
  cases known : f.cause? i with
  | some fault =>
      rw [known] at same
      rw [cause?_cancel_of_some known, cause?_cancel_of_some same]
  | none =>
      rw [known] at same
      by_cases above : f.Above s i
      · rw [cause?_cancel_of_above b.settled made above known,
          cause?_cancel_of_above b.settled' ((b.lt_size_iff struck).mpr made)
            (b.above struck twin above) same]
      · rw [cause?_cancel_of_not_above b.settled above, known, cause?_cancel_of_not_above b.settled'
          fun above' => above (b.of_above struck twin above'), same]

theorem close (twin : Twin c n s s') : Between c n (f.close s) (g.close s') := by
  have cancelled := b.cancel (.twin twin) .scopeCancelled
  refine b.of_causes (settled_close b.settled s) (settled_close b.settled' s') (size_close ..)
    (size_close ..) (parent?_close f s) (parent?_close g s') (deadline?_close f s)
    (deadline?_close g s') fun i j twin => ?_
  rw [cause?_close, cause?_close, cancelled.cause_eq twin]

variable [Clock τ] {now : τ}

theorem isExpired_eq (twin : Twin c n s s') : g.isExpired now s' = f.isExpired now s := by
  simp only [isExpired, b.deadline_eq twin]

/-- A scope and its twin are cancelled or not alike, and are noticed to be alike. -/
theorem isCancelled (now : τ) (twin : Twin c n s s') :
    (g.isCancelled now s').1 = (f.isCancelled now s).1 ∧
      Between c n (f.isCancelled now s).2 (g.isCancelled now s').2 := by
  simp only [Forest.isCancelled, b.cause_eq twin, b.isExpired_eq twin]
  split
  · exact ⟨rfl, b⟩
  · split
    · exact ⟨rfl, b.cancel (.twin twin) _⟩
    · exact ⟨rfl, b⟩

/-- A scope more on either side, below a scope and its twin, makes twins. -/
theorem grow {f' g' : Forest τ} {own : Option τ} (twin : Twin c n p q)
    (grown : f.Grown f' (some p) own) (grown' : g.Grown g' (some q) own)
    (born : g'.cause? g.size = f'.cause? f.size) : Between c n f' g' := by
  have ltSize : n < g.size := b.size_eq ▸ Nat.lt_succ_of_le b.le_size
  have new {i j : ScopeId} (twins : Twin c n i j) : i = f.size ↔ j = g.size :=
    ⟨fun h => (h ▸ twins).right_unique b.lt b.twin_new,
      fun h => (h ▸ twins).left_unique b.twin_new⟩
  constructor
  · exact grown.settled
  · exact grown'.settled
  · exact b.lt
  · rw [grown.size_eq]
    exact Nat.le_succ_of_le b.le_size
  · rw [grown.size_eq, grown'.size_eq, b.size_eq]
  · intro i old
    rw [grown.parent?_eq, if_neg (Nat.ne_of_lt (Nat.lt_of_lt_of_le old b.le_size)),
      grown'.parent?_eq, if_neg (Nat.ne_of_lt (Nat.lt_trans old ltSize)), b.parent_before old]
  · rw [grown'.parent?_eq, if_neg (Nat.ne_of_lt ltSize), b.parent_between]
  · intro i late made
    rw [grown.parent?_eq, grown'.parent?_eq]
    by_cases last : i = f.size
    · rw [if_pos last, if_pos ((new (.later late)).mp last)]
      exact ⟨p, q, twin, rfl, rfl⟩
    · rw [if_neg last, if_neg fun h => last ((new (.later late)).mpr h)]
      rw [grown.size_eq] at made
      exact b.parent_later late (Nat.lt_of_le_of_ne (Nat.le_of_lt_succ made) last)
  · intro i j twins
    rw [grown.deadline?_eq, grown'.deadline?_eq]
    by_cases last : i = f.size
    · rw [if_pos last, if_pos ((new twins).mp last), Option.bind_some, Option.bind_some,
        b.deadline_eq twin]
    · rw [if_neg last, if_neg fun h => last ((new twins).mpr h), b.deadline_eq twins]
  · intro i j twins
    by_cases last : i = f.size
    · rw [last, (new twins).mp last, born]
    · rw [grown.cause?_eq last, grown'.cause?_eq fun h => last ((new twins).mpr h),
        b.cause_eq twins]

/-- Below a scope and its twin, twins are made. -/
theorem child (twin : Twin c n p q) (made : p < f.size) (timeout : Option τ) :
    Between c n (f.child now p timeout).2 (g.child now q timeout).2 := by
  have made' := (b.lt_size_iff (.twin twin)).mpr made
  have asked := (b.isCancelled now twin).2
  refine asked.grow twin (grown_child b.settled now timeout made)
    (grown_child b.settled' now timeout made') ?_
  rw [size_isCancelled, size_isCancelled, cause?_child_new timeout b.settled made,
    cause?_child_new timeout b.settled' made', asked.cause_eq twin]

end Between

/-- A scope without a deadline of its own, made below another that has been looked at: what is made
below the one is as what is made below the other. -/
theorem between_child [Clock τ] {now : τ} (settled : f.Settled) (made : c < f.size) :
    Between c f.size (f.isCancelled now c).2 (f.child now c none).2 := by
  have grown := grown_child settled now none made
  have size : (f.isCancelled now c).2.size = f.size := size_isCancelled ..
  have size' : (f.child now c none).2.size = f.size + 1 := by rw [grown.size_eq, size]
  constructor
  · exact formed_isCancelled settled now c
  · exact grown.settled
  · exact made
  · exact Nat.le_of_eq size.symm
  · rw [grown.size_eq]
  · intro i old
    rw [grown.parent?_eq, size, if_neg (Nat.ne_of_lt old)]
  · rw [grown.parent?_eq, size, if_pos rfl]
  · intro i late early
    exact absurd late (Nat.not_le_of_lt (size ▸ early))
  · intro i j twin
    cases twin with
    | between =>
        rw [grown.deadline?_eq, size, if_pos rfl, Option.bind_some]
        cases (f.isCancelled now c).2.deadline? c <;> rfl
    | later late =>
        rw [deadline?_eq_none_of_le (Nat.le_trans (Nat.le_of_eq size) late),
          deadline?_eq_none_of_le (Nat.le_trans (Nat.le_of_eq size') (Nat.succ_le_succ late))]
  · intro i j twin
    cases twin with
    | between => exact cause?_child_new none settled made
    | later late =>
        rw [cause?_eq_none_of_le (Nat.le_trans (Nat.le_of_eq size) late),
          cause?_eq_none_of_le (Nat.le_trans (Nat.le_of_eq size') (Nat.succ_le_succ late))]

end Forest

namespace Timeline

open Forest (Twin Struck)

variable {τ : Type} {t u : Timeline τ} {c n s s' : ScopeId}

/-- The same in time: the clock stands alike, and the same timers are pending, on scopes made
before. -/
structure Between (c n : ScopeId) (t u : Timeline τ) : Prop where
  now_eq : u.now = t.now
  timers_eq : u.timers = t.timers
  target_lt {timer : Timer τ} : timer ∈ t.timers → timer.target < n
  forest : Forest.Between c n t.forest u.forest

theorem child_isCancelled [Clock τ] (t : Timeline τ) (s : ScopeId) (timeout : Option τ) :
    (t.isCancelled s).2.child s timeout = t.child s timeout := by
  simp only [Timeline.child, Timeline.isCancelled, Forest.child_isCancelled]

namespace Between

variable (b : Between c n t u)
include b

theorem later [Clock τ] (now : τ) : Between c n { t with now := Clock.later t.now now }
    { u with now := Clock.later u.now now } :=
  { b with now_eq := congrArg (Clock.later · now) b.now_eq }

theorem close (twin : Twin c n s s') : Between c n (t.close s) (u.close s') :=
  { b with forest := b.forest.close twin }

theorem cancel (twin : Twin c n s s') (cause : Fault) :
    Between c n (t.cancel s cause) (u.cancel s' cause) :=
  { b with forest := b.forest.cancel (.twin twin) cause }

variable [Clock τ]

theorem fire {timer : Timer τ} {others : List (Timer τ)}
    (pending : t.timers.Perm (timer :: others)) :
    Between c n (t.fire timer others) (u.fire timer others) := by
  have old := b.target_lt (pending.mem_iff.mpr List.mem_cons_self)
  constructor
  · simp only [Timeline.fire, b.now_eq]
  · rfl
  · exact fun mem => b.target_lt (pending.mem_iff.mpr (List.mem_cons_of_mem timer mem))
  · exact b.forest.cancel (.before old) timer.cause

theorem isCancelled (twin : Twin c n s s') : (u.isCancelled s').1 = (t.isCancelled s).1 ∧
    Between c n (t.isCancelled s).2 (u.isCancelled s').2 := by
  obtain ⟨same, still⟩ := b.forest.isCancelled t.now twin
  simp only [Timeline.isCancelled, b.now_eq]
  exact ⟨same, rfl, b.timers_eq, b.target_lt, still⟩

theorem child (twin : Twin c n s s') (made : s < t.forest.size) (timeout : Option τ) :
    Between c n (t.child s timeout).2 (u.child s' timeout).2 := by
  simp only [Timeline.child, b.now_eq]
  exact ⟨rfl, b.timers_eq, b.target_lt, b.forest.child twin made timeout⟩

omit b in
/-- A scope in between goes in lockstep with the clock and the timers. -/
theorem lockstep : Lockstep (Between (τ := τ) c n) where
  now_eq b := b.now_eq
  timers_eq b := b.timers_eq
  later now b := b.later now
  fire b pending := b.fire pending

omit b in
theorem twins (twin : Twin c n s s') : Twins (Between (τ := τ) c n) s s' where
  deadline_eq b := b.forest.deadline_eq twin
  cause_eq b := b.forest.cause_eq twin
  isCancelled b := (b.isCancelled twin).2

theorem error (twin : Twin c n s s') : (u.error s').1 = (t.error s).1 ∧
    Between c n (t.error s).2 (u.error s').2 :=
  lockstep.error (twins twin) b

theorem remaining (twin : Twin c n s s') : u.remaining s' = t.remaining s :=
  lockstep.remaining (twins twin) b

/-- A wait on a scope and one on its twin end alike, at the same time. -/
theorem wait (twin : Twin c n s s') (timeout : Option τ) :
    (u.wait s' timeout).1 = (t.wait s timeout).1 ∧
      Between c n (t.wait s timeout).2 (u.wait s' timeout).2 :=
  lockstep.wait (twins twin) timeout b

end Between

end Timeline

end Checkup
