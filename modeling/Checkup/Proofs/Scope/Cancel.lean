import Checkup.Proofs.Scope.Formed

/-!
What cancelling does to a forest.

`spread` claims scope after scope, always the first that is owed a cancel, and what was linked below
a claimed scope comes before the rest. So one claim says what a whole `spread` does, by induction
on the scopes owed.

Main statements: `formed_spread` (a spread settles what it was to do), `cause?_spread_cases` (a
cause appears only at or below a scope that was to be cancelled, and is the one that was given),
`isSome_cause?_spread` (each scope that was to be cancelled is), `formed_cancel`,
`formed_isCancelled`, `formed_child` and `formed_close` (the operations keep a forest formed).
-/

namespace Checkup.Forest

variable {τ : Type} {f : Forest τ} {s p i : ScopeId} {todo : List ScopeId} {cause known : Fault}
  {owed : ScopeId → Prop}

/-! ### A spread, claim by claim -/

@[simp] theorem spread_nil (cause : Fault) (f : Forest τ) : spread cause [] f = ([], f) := by
  rw [spread]

theorem spread_cons (cause : Fault) (s : ScopeId) (rest : List ScopeId) (f : Forest τ) :
    spread cause (s :: rest) f =
      (s :: (spread cause ((f.claim s cause).1 ++ rest) (f.claim s cause).2).1,
        (spread cause ((f.claim s cause).1 ++ rest) (f.claim s cause).2).2) := by
  rw [spread]

/-- Induction on the claims that a spread makes. -/
theorem spread_induction (cause : Fault) {motive : List ScopeId → Forest τ → Prop}
    (nil : ∀ f, motive [] f)
    (cons : ∀ s rest f, motive ((f.claim s cause).1 ++ rest) (f.claim s cause).2 →
      motive (s :: rest) f)
    (todo : List ScopeId) (f : Forest τ) : motive todo f := by
  induction todo, f using spread.induct cause with
  | case1 f => exact nil f
  | case2 f s rest below claimed claims _ _ _ ih =>
      refine cons s rest f ?_
      rw [claims]
      exact ih

@[simp] theorem size_spread (cause : Fault) (todo : List ScopeId) (f : Forest τ) :
    (spread cause todo f).2.size = f.size := by
  induction todo, f using spread_induction cause with
  | nil f => simp
  | cons s rest f ih => rw [spread_cons, ih, size_claim]

@[simp] theorem parent?_spread (cause : Fault) (todo : List ScopeId) (f : Forest τ) (i : ScopeId) :
    (spread cause todo f).2.parent? i = f.parent? i := by
  induction todo, f using spread_induction cause with
  | nil f => simp
  | cons s rest f ih => rw [spread_cons, ih, parent?_claim]

@[simp] theorem deadline?_spread (cause : Fault) (todo : List ScopeId) (f : Forest τ)
    (i : ScopeId) : (spread cause todo f).2.deadline? i = f.deadline? i := by
  induction todo, f using spread_induction cause with
  | nil f => simp
  | cons s rest f ih => rw [spread_cons, ih, deadline?_claim]

/-- A cause once set stays. -/
theorem cause?_spread_of_some (h : f.cause? i = some known) :
    (spread cause todo f).2.cause? i = some known := by
  induction todo, f using spread_induction cause with
  | nil f => simpa using h
  | cons s rest f ih =>
      rw [spread_cons]
      exact ih (cause?_claim_of_some h s cause)

/-- Claiming the first of the scopes owed a cancel puts those linked below it in its place. -/
theorem formed_claim_cons {rest : List ScopeId} (formed : f.Formed fun c => c ∈ s :: rest ∨ owed c)
    (cause : Fault) :
    (f.claim s cause).2.Formed fun c => c ∈ (f.claim s cause).1 ++ rest ∨ owed c := by
  refine (formed.formed_claim s cause).mono fun c h => ?_
  rcases h with below | ⟨mem | other, ne⟩
  · exact .inl (List.mem_append_left _ below)
  · exact .inl (List.mem_append_right _ ((List.mem_cons.mp mem).resolve_left ne))
  · exact .inr other

/-- A spread settles what it was to do, and leaves nothing new to be done. -/
theorem formed_spread (formed : f.Formed fun c => c ∈ todo ∨ owed c) :
    (spread cause todo f).2.Formed owed := by
  induction todo, f using spread_induction cause with
  | nil f =>
      rw [spread_nil]
      exact formed.mono fun c h => h.resolve_left List.not_mem_nil
  | cons s rest f ih =>
      rw [spread_cons]
      exact ih (formed_claim_cons formed cause)

/-- Every scope that a spread was to cancel has a cause afterwards. -/
theorem isSome_cause?_spread (mem : i ∈ todo) (made : i < f.size) :
    ((spread cause todo f).2.cause? i).isSome := by
  induction todo, f using spread_induction cause with
  | nil f => exact absurd mem List.not_mem_nil
  | cons s rest f ih =>
      rw [spread_cons]
      rcases List.mem_cons.mp mem with rfl | later
      · obtain ⟨known, claimed⟩ := Option.isSome_iff_exists.mp (isSome_cause?_claim made cause)
        rw [cause?_spread_of_some claimed]
        rfl
      · exact ih (List.mem_append_right _ later) (by simpa using made)

/-- A cause appears only at or below a scope that was to be cancelled, and is the one given. -/
theorem cause?_spread_cases (formed : f.Formed fun c => c ∈ todo ∨ owed c)
    (h : (spread cause todo f).2.cause? i = some known) :
    f.cause? i = some known ∨ known = cause ∧ ∃ t ∈ todo, f.Above t i := by
  induction todo, f using spread_induction cause with
  | nil f => exact .inl (by simpa using h)
  | cons s rest f ih =>
      rw [spread_cons] at h
      rcases ih (formed_claim_cons formed cause) h with before | ⟨given, t, mem, above⟩
      · by_cases same : i = s
        · subst same
          cases live : f.cause? i with
          | some first =>
              rw [cause?_claim_of_some live] at before
              exact .inl before
          | none =>
              have made : i < f.size := by simpa using lt_size_of_cause? before
              rw [cause?_claim_self ⟨made, live⟩] at before
              exact .inr ⟨(Option.some.inj before).symm, i, List.mem_cons_self, .self⟩
        · rw [cause?_claim_of_ne same] at before
          exact .inl before
      · have above : f.Above t i := above.of_parent?_eq fun i _ => (parent?_claim f s cause i).symm
        refine .inr ⟨given, ?_⟩
        rcases List.mem_append.mp mem with below | later
        · refine ⟨s, List.mem_cons_self, ?_⟩
          have hangs := formed.parent?_of_mem (mem_children_of_mem_claim below)
          exact (Above.ofParent hangs .self).trans above
        · exact ⟨t, List.mem_cons_of_mem s later, above⟩

/-- Outside of what hangs below the scopes to be cancelled nothing is cancelled. -/
theorem cause?_spread_of_not_above (formed : f.Formed fun c => c ∈ todo ∨ owed c)
    (outside : ∀ t ∈ todo, ¬ f.Above t i) : (spread cause todo f).2.cause? i = f.cause? i := by
  cases before : f.cause? i with
  | some known => exact cause?_spread_of_some before
  | none =>
      cases after : (spread cause todo f).2.cause? i with
      | none => rfl
      | some known =>
          rcases cause?_spread_cases formed after with old | ⟨-, t, mem, above⟩
          · rw [before] at old
            cases old
          · exact absurd above (outside t mem)

/-! ### The operations

Between two operations nothing is owed. -/

/-- A forest in which nothing is owed a cancel or a link. -/
abbrev Settled (f : Forest τ) : Prop := f.Formed fun _ => False

/-- A cancel owes nothing: every scope it unlinks it cancels. -/
theorem formed_cancel (settled : f.Settled) (s : ScopeId) (cause : Fault) :
    (f.cancel s cause).Settled :=
  formed_spread (settled.mono fun _ h => .inr h)

/-- A cancel gives its cause to scopes at or below the one it is called on, and to no others. -/
theorem cause?_cancel_cases (settled : f.Settled) (h : (f.cancel s cause).cause? i = some known) :
    f.cause? i = some known ∨ known = cause ∧ f.Above s i := by
  have formed : f.Formed fun c => c ∈ [s] ∨ False := settled.mono fun _ h => .inr h
  rcases cause?_spread_cases formed h with before | ⟨given, t, mem, above⟩
  · exact .inl before
  · rw [List.mem_singleton.mp mem] at above
    exact .inr ⟨given, above⟩

/-- A scope that was made is cancelled by a cancel. -/
theorem isSome_cause?_cancel (made : s < f.size) (cause : Fault) :
    ((f.cancel s cause).cause? s).isSome :=
  isSome_cause?_spread List.mem_cons_self made

/-- A cancel keeps the causes that are there. -/
theorem cause?_cancel_of_some (h : f.cause? i = some known) (s : ScopeId) (cause : Fault) :
    (f.cancel s cause).cause? i = some known :=
  cause?_spread_of_some h

@[simp] theorem size_cancel (f : Forest τ) (s : ScopeId) (cause : Fault) :
    (f.cancel s cause).size = f.size := size_spread ..

@[simp] theorem parent?_cancel (f : Forest τ) (s : ScopeId) (cause : Fault) (i : ScopeId) :
    (f.cancel s cause).parent? i = f.parent? i := parent?_spread ..

@[simp] theorem deadline?_cancel (f : Forest τ) (s : ScopeId) (cause : Fault) (i : ScopeId) :
    (f.cancel s cause).deadline? i = f.deadline? i := deadline?_spread ..

section Clocked

variable [Clock τ] {now : τ}

/-- Asking a scope changes nothing, or cancels it because its deadline has passed. -/
theorem isCancelled_cases (f : Forest τ) (now : τ) (s : ScopeId) :
    (f.isCancelled now s).2 = f ∨
      f.cause? s = none ∧ f.isExpired now s = true ∧
        f.isCancelled now s = (true, f.cancel s .deadlineExceeded) := by
  unfold isCancelled
  split
  · exact .inl rfl
  · rename_i live
    split
    · rename_i expired
      exact .inr ⟨Option.not_isSome_iff_eq_none.mp live, expired, rfl⟩
    · exact .inl rfl

/-- The answer: the scope has a cause, or its deadline has passed. -/
theorem fst_isCancelled (f : Forest τ) (now : τ) (s : ScopeId) :
    (f.isCancelled now s).1 = true ↔ (f.cause? s).isSome ∨ f.isExpired now s = true := by
  unfold isCancelled
  split
  · simp [*]
  · split <;> simp [*]

/-- A scope has expired if its deadline is not later than now. -/
theorem isExpired_iff (f : Forest τ) (now : τ) (s : ScopeId) :
    f.isExpired now s = true ↔ ∃ d, f.deadline? s = some d ∧ Clock.le d now = true := by
  unfold isExpired
  cases f.deadline? s <;> simp

theorem formed_isCancelled (settled : f.Settled) (now : τ) (s : ScopeId) :
    (f.isCancelled now s).2.Settled := by
  rcases f.isCancelled_cases now s with same | ⟨-, -, cancels⟩
  · rw [same]
    exact settled
  · rw [cancels]
    exact formed_cancel settled s _

@[simp] theorem size_isCancelled (f : Forest τ) (now : τ) (s : ScopeId) :
    (f.isCancelled now s).2.size = f.size := by
  rcases f.isCancelled_cases now s with same | ⟨-, -, cancels⟩
  · rw [same]
  · rw [cancels, size_cancel]

@[simp] theorem parent?_isCancelled (f : Forest τ) (now : τ) (s i : ScopeId) :
    (f.isCancelled now s).2.parent? i = f.parent? i := by
  rcases f.isCancelled_cases now s with same | ⟨-, -, cancels⟩
  · rw [same]
  · rw [cancels, parent?_cancel]

@[simp] theorem deadline?_isCancelled (f : Forest τ) (now : τ) (s i : ScopeId) :
    (f.isCancelled now s).2.deadline? i = f.deadline? i := by
  rcases f.isCancelled_cases now s with same | ⟨-, -, cancels⟩
  · rw [same]
  · rw [cancels, deadline?_cancel]

/-- Asking whether and asking why leave the same forest. -/
theorem error_snd (f : Forest τ) (now : τ) (s : ScopeId) :
    (f.error now s).2 = (f.isCancelled now s).2 := by
  unfold error
  split <;> simp [*]

/-- Asking why tells the cause of a scope that is found to be cancelled. -/
theorem error_fst (f : Forest τ) (now : τ) (s : ScopeId) : (f.error now s).1 =
    if (f.isCancelled now s).1 then (f.isCancelled now s).2.cause? s else none := by
  unfold error
  split <;> simp [*]

/-- A forest with a new scope below `p` that is not linked yet. -/
def withChild (f : Forest τ) (now : τ) (p : ScopeId) (timeout : Option τ) : Forest τ :=
  (f.isCancelled now p).2.push
    { parent := some p
      deadline := Clock.earliest? (f.deadline? p) (timeout.map (Clock.add now)) }

/-- Below a live scope a new one is linked. -/
theorem child_of_live (live : (f.isCancelled now p).2.cause? p = none) (timeout : Option τ) :
    f.child now p timeout = (f.size, (f.withChild now p timeout).link p f.size) := by
  simp only [child, live, size_isCancelled]
  rfl

/-- Below a cancelled scope a new one is cancelled for the same cause. -/
theorem child_of_cancelled (cancelled : (f.isCancelled now p).2.cause? p = some known)
    (timeout : Option τ) :
    f.child now p timeout = (f.size, (f.withChild now p timeout).cancel f.size known) := by
  simp only [child, cancelled, size_isCancelled]
  rfl

/-- Before it is linked, a new scope is owed its link, and nothing else is owed. -/
theorem formed_withChild (settled : f.Settled) (now : τ) (timeout : Option τ) (made : p < f.size) :
    (f.withChild now p timeout).Formed fun c => c = f.size := by
  have asked := formed_isCancelled settled now p
  refine (asked.formed_push _ fun q h => ?_).mono fun c h => ?_
  · rw [size_isCancelled, ← Option.some.inj h]
    exact made
  · simpa using h

theorem formed_child (settled : f.Settled) (now : τ) (timeout : Option τ) (made : p < f.size) :
    (f.child now p timeout).2.Settled := by
  have formed := formed_withChild settled now timeout made
  cases known : (f.isCancelled now p).2.cause? p with
  | some cause =>
      rw [child_of_cancelled known]
      exact formed_spread (formed.mono fun c h => .inl (List.mem_singleton.mpr h))
  | none =>
      rw [child_of_live known]
      have older : p ≠ (f.isCancelled now p).2.size := by
        rw [size_isCancelled]
        exact Nat.ne_of_lt made
      refine (formed.formed_link ?_ ?_ ?_).mono fun c h => h.2 h.1
      · simp [withChild, parent?_push]
      · rw [withChild, cause?_push, if_neg older]
        exact known
      · rw [withChild, children_push, if_neg older]
        intro mem
        have := lt_size_of_parent? ((formed_isCancelled settled now p).parent?_of_mem mem)
        rw [size_isCancelled] at this
        exact Nat.lt_irrefl _ this

/-- `g` is `f` with one scope more, of which is known where it hangs, when it expires by itself,
and that it is born cancelled only below a cancelled one. -/
structure Grown (f g : Forest τ) (parent : Option ScopeId) (own : Option τ) : Prop where
  settled : g.Settled
  older {p : ScopeId} : parent = some p → p < f.size
  size_eq : g.size = f.size + 1
  parent?_eq (i : ScopeId) : g.parent? i = if i = f.size then parent else f.parent? i
  deadline?_eq (i : ScopeId) : g.deadline? i =
    if i = f.size then Clock.earliest? (parent.bind f.deadline?) own else f.deadline? i
  cause?_eq {i : ScopeId} : i ≠ f.size → g.cause? i = f.cause? i
  born : (g.cause? f.size).isSome → ∃ p, parent = some p ∧ (f.cause? p).isSome

namespace Grown

variable {g : Forest τ} {parent : Option ScopeId} {own : Option τ} {a : ScopeId}

theorem above_of_lt (grown : f.Grown g parent own) (settled : f.Settled) (old : i < f.size) :
    g.Above a i ↔ f.Above a i := by
  refine settled.above_iff (fun i old => ?_) old
  rw [grown.parent?_eq, if_neg (Nat.ne_of_lt old)]

/-- A new scope is below itself, and below what the scope above it is below. -/
theorem above_new (grown : f.Grown g parent own) (settled : f.Settled) :
    g.Above a f.size ↔ a = f.size ∨ ∃ p, parent = some p ∧ f.Above a p := by
  have hangs : g.parent? f.size = parent := by rw [grown.parent?_eq, if_pos rfl]
  constructor
  · intro above
    cases above with
    | self => exact .inl rfl
    | @ofParent _ p here above =>
        have mine := hangs.symm.trans here
        exact .inr ⟨p, mine, (grown.above_of_lt settled (grown.older mine)).mp above⟩
  · rintro (rfl | ⟨p, mine, above⟩)
    · exact .self
    · exact .ofParent (hangs.trans mine) ((grown.above_of_lt settled (grown.older mine)).mpr above)

end Grown

theorem grown_background (settled : f.Settled) : f.Grown f.background.2 none none := by
  have formed : f.background.2.Settled := by
    refine (settled.formed_push none (by simp)).mono fun c h => ?_
    simp at h
  refine ⟨formed, by simp, size_push .., fun i => parent?_push .., fun i => deadline?_push ..,
    fun ne => ?_, fun known => ?_⟩
  · exact (cause?_push ..).trans (if_neg ne)
  · rw [show f.background.2.cause? f.size = none from (cause?_push ..).trans (if_pos rfl)] at known
    simp at known

theorem grown_child (settled : f.Settled) (now : τ) (timeout : Option τ) (made : p < f.size) :
    (f.isCancelled now p).2.Grown (f.child now p timeout).2 (some p)
      (timeout.map (Clock.add now)) := by
  have formed := formed_withChild settled now timeout made
  have child := formed_child settled now timeout made
  have older {q : ScopeId} (h : some p = some q) : q < (f.isCancelled now p).2.size := by
    rw [size_isCancelled, ← Option.some.inj h]
    exact made
  have deadline (i : ScopeId) : (f.withChild now p timeout).deadline? i =
      if i = (f.isCancelled now p).2.size then Clock.earliest?
        ((some p).bind (f.isCancelled now p).2.deadline?) (timeout.map (Clock.add now))
      else (f.isCancelled now p).2.deadline? i := by
    simp [withChild, deadline?_push]
  cases known : (f.isCancelled now p).2.cause? p with
  | none =>
      rw [child_of_live known] at child ⊢
      refine ⟨child, older, by simp [withChild], fun i => ?_, fun i => ?_, fun ne => ?_,
        fun born => ?_⟩
      · rw [parent?_link, withChild, parent?_push]
      · rw [deadline?_link, deadline]
      · rw [cause?_link, withChild, cause?_push, if_neg ne]
      · rw [cause?_link, withChild, cause?_push, if_pos rfl] at born
        simp at born
  | some cause =>
      rw [child_of_cancelled known] at child ⊢
      constructor
      · exact child
      · exact older
      · simp [withChild]
      · intro i
        rw [parent?_cancel, withChild, parent?_push]
      · intro i
        rw [deadline?_cancel, deadline]
      · intro i ne
        have made : (f.withChild now p timeout).cause? i = (f.isCancelled now p).2.cause? i := by
          rw [withChild, cause?_push, if_neg ne]
        rw [← made]
        by_cases inside : i < f.size
        · -- nothing that is older hangs below the new scope
          refine cause?_spread_of_not_above
            (formed.mono fun c h => Or.inl (b := False) (List.mem_singleton.mpr h)) ?_
          intro t mem above
          rw [List.mem_singleton.mp mem] at above
          exact Nat.not_le_of_lt inside (formed.le_of_above above)
        · rw [size_isCancelled] at ne
          have beyond : f.size < i := Nat.lt_of_le_of_ne (Nat.not_lt.mp inside) (Ne.symm ne)
          have unmade {g : Forest τ} (size : g.size = f.size + 1) : g.cause? i = none := by
            by_contra known
            obtain ⟨cause, known⟩ := Option.ne_none_iff_exists'.mp known
            have inRange := lt_size_of_cause? known
            rw [size] at inRange
            exact Nat.not_lt_of_le (Nat.le_of_lt_succ inRange) beyond
          rw [unmade (by simp [withChild]), unmade (by simp [withChild])]
      · intro _
        exact ⟨p, rfl, by rw [known]; rfl⟩

end Clocked

theorem formed_close (settled : f.Settled) (made : s < f.size) : (f.close s).Settled := by
  unfold close
  simp only
  split
  · exact formed_cancel settled s _
  · exact (formed_cancel settled s _).formed_detach _ (.inl (isSome_cause?_cancel made _))

end Checkup.Forest
