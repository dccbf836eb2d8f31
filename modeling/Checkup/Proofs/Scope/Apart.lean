import Checkup.Proofs.Scope.Spared

/-!
Scopes that hang apart from what differs.

Two forests of as many scopes may differ in the scopes made before some `n`, and yet agree in all
that were made from then on (`Alike n`). If these hang among themselves, nothing that is done to one
of them tells the two forests apart, and whatever is done to a scope made before leaves them
agreeing. Two forests that have nothing in common but the number of their scopes (`Level`) agree in
what is yet to be made below none of these.

Main statements: `Alike.cancel`, `Alike.child` and `Alike.background` (whatever is done keeps
forests alike), `Abreast.alike` and `Abreast.twins` (by asking or waiting for a scope made from then
on they cannot be told apart).
-/

namespace Checkup

namespace Forest

variable {τ : Type} {f g : Forest τ} {n m m' s s' i p p' : ScopeId} {cause : Fault}

/-! ### Forests of as many scopes -/

/-- Two forests of as many scopes, at least `m`, in which nothing is owed. -/
structure Level (m : ScopeId) (f g : Forest τ) : Prop where
  settled : f.Settled
  settled' : g.Settled
  size_eq : g.size = f.size
  le_size : m ≤ f.size

/-- Two forests that agree in what was made from `n` on, which hangs below nothing made before. -/
structure Alike (n m : ScopeId) (f g : Forest τ) : Prop extends Level m f g where
  parent_eq {i : ScopeId} : n ≤ i → g.parent? i = f.parent? i
  within {i p : ScopeId} : n ≤ i → f.parent? i = some p → n ≤ p
  deadline_eq {i : ScopeId} : n ≤ i → g.deadline? i = f.deadline? i
  cause_eq {i : ScopeId} : n ≤ i → g.cause? i = f.cause? i

namespace Level

variable (level : Level m f g)
include level

theorem mono (le : m' ≤ m) : Level m' f g :=
  { level with le_size := Nat.le_trans le level.le_size }

theorem cancel (s s' : ScopeId) (cause cause' : Fault) :
    Level m (f.cancel s cause) (g.cancel s' cause') where
  settled := formed_cancel level.settled s cause
  settled' := formed_cancel level.settled' s' cause'
  size_eq := by rw [size_cancel, size_cancel, level.size_eq]
  le_size := by rw [size_cancel]; exact level.le_size

theorem close (s s' : ScopeId) : Level m (f.close s) (g.close s') where
  settled := settled_close level.settled s
  settled' := settled_close level.settled' s'
  size_eq := by rw [size_close, size_close, level.size_eq]
  le_size := by rw [size_close]; exact level.le_size

/-- A scope more on either side. -/
theorem child [Clock τ] (now : τ) (made : p < m) (made' : p' < m) (timeout : Option τ) :
    Level (f.size + 1) (f.child now p timeout).2 (g.child now p' timeout).2 where
  settled := formed_child level.settled now timeout (Nat.lt_of_lt_of_le made level.le_size)
  settled' := formed_child level.settled' now timeout
    (level.size_eq ▸ Nat.lt_of_lt_of_le made' level.le_size)
  size_eq := by rw [size_child, size_child, level.size_eq]
  le_size := by rw [size_child]

/-- They agree in what is not yet made. -/
theorem alike : Alike f.size f.size f g where
  toLevel := { level with le_size := Nat.le_refl _ }
  parent_eq := by
    intro i unmade
    have unmade' : g.size ≤ i := level.size_eq ▸ unmade
    simp only [parent?, get?_eq_none_iff.mpr unmade, get?_eq_none_iff.mpr unmade']
  within unmade hangs := absurd (lt_size_of_parent? hangs) (Nat.not_lt_of_le unmade)
  deadline_eq unmade := by
    rw [deadline?_eq_none_of_le unmade, deadline?_eq_none_of_le (level.size_eq ▸ unmade)]
  cause_eq unmade := by
    rw [cause?_eq_none_of_le unmade, cause?_eq_none_of_le (level.size_eq ▸ unmade)]

end Level

/-! ### Forests that agree from a scope on -/

namespace Alike

variable (alike : Alike n m f g)
include alike

theorem mono (le : m' ≤ m) : Alike n m' f g := { alike with toLevel := alike.toLevel.mono le }

/-- What was made from then on hangs below the same scopes. -/
theorem above_iff (young : n ≤ i) : g.Above s i ↔ f.Above s i := by
  constructor
  · intro above
    induction above with
    | self => exact .self
    | @ofParent i p hangs _ ih =>
        rw [alike.parent_eq young] at hangs
        exact .ofParent hangs (ih (alike.within young hangs))
  · intro above
    induction above with
    | self => exact .self
    | @ofParent i p hangs _ ih =>
        have hangs' := (alike.parent_eq young).trans hangs
        exact .ofParent hangs' (ih (alike.within young hangs))

/-- Causes and links may change, alike from then on. -/
theorem of_causes {f' g' : Forest τ} (level : Level m f' g')
    (parent : ∀ i, f'.parent? i = f.parent? i) (parent' : ∀ i, g'.parent? i = g.parent? i)
    (deadline : ∀ i, f'.deadline? i = f.deadline? i)
    (deadline' : ∀ i, g'.deadline? i = g.deadline? i)
    (cause : ∀ i, n ≤ i → g'.cause? i = f'.cause? i) : Alike n m f' g' where
  toLevel := level
  parent_eq young := by rw [parent, parent', alike.parent_eq young]
  within young hangs := alike.within young ((parent _).symm.trans hangs)
  deadline_eq young := by rw [deadline, deadline', alike.deadline_eq young]
  cause_eq := cause _

/-- Whichever scope is cancelled, what was made from `n` on is cancelled alike. -/
theorem cancel (s : ScopeId) (cause : Fault) :
    Alike n m (f.cancel s cause) (g.cancel s cause) := by
  by_cases made : s < f.size
  case neg =>
    have unmade := Nat.not_lt.mp made
    rwa [cancel_of_le unmade, cancel_of_le (alike.size_eq ▸ unmade)]
  have made' : s < g.size := alike.size_eq ▸ made
  refine alike.of_causes (alike.toLevel.cancel s s cause cause) (parent?_cancel f s cause)
    (parent?_cancel g s cause) (deadline?_cancel f s cause) (deadline?_cancel g s cause) ?_
  intro i young
  have same := alike.cause_eq young
  cases known : f.cause? i with
  | some fault =>
      rw [known] at same
      rw [cause?_cancel_of_some known, cause?_cancel_of_some same]
  | none =>
      rw [known] at same
      by_cases above : f.Above s i
      · rw [cause?_cancel_of_above alike.settled made above known, cause?_cancel_of_above
          alike.settled' made' ((alike.above_iff young).mpr above) same]
      · rw [cause?_cancel_of_not_above alike.settled above, known, cause?_cancel_of_not_above
          alike.settled' fun above' => above ((alike.above_iff young).mp above'), same]

theorem close (s : ScopeId) : Alike n m (f.close s) (g.close s) := by
  have cancelled := alike.cancel s .scopeCancelled
  refine alike.of_causes (alike.toLevel.close s s) (parent?_close f s) (parent?_close g s)
    (deadline?_close f s) (deadline?_close g s) fun i young => ?_
  rw [cause?_close, cause?_close, cancelled.cause_eq young]

variable [Clock τ] {now : τ}

theorem isCancelled (now : τ) (young : n ≤ s) :
    Alike n m (f.isCancelled now s).2 (g.isCancelled now s).2 := by
  have expired : g.isExpired now s = f.isExpired now s := by
    simp only [isExpired, alike.deadline_eq young]
  simp only [Forest.isCancelled, alike.cause_eq young, expired]
  split
  · exact alike
  · split
    · exact alike.cancel s _
    · exact alike

/-- A scope more on either side, below none or below one that was made from `n` on. -/
theorem grow {f' g' : Forest τ} {parent : Option ScopeId} {own : Option τ}
    (young : ∀ p, parent = some p → n ≤ p) (grown : f.Grown f' parent own)
    (grown' : g.Grown g' parent own) (born : g'.cause? g.size = f'.cause? f.size) :
    Alike n (f.size + 1) f' g' where
  settled := grown.settled
  settled' := grown'.settled
  size_eq := by rw [grown.size_eq, grown'.size_eq, alike.size_eq]
  le_size := by rw [grown.size_eq]
  parent_eq young := by
    rw [grown.parent?_eq, grown'.parent?_eq, alike.size_eq, alike.parent_eq young]
  within := by
    intro i p late hangs
    rw [grown.parent?_eq] at hangs
    split at hangs
    · exact young p hangs
    · exact alike.within late hangs
  deadline_eq := by
    intro i late
    rw [grown.deadline?_eq, grown'.deadline?_eq, alike.size_eq, alike.deadline_eq late]
    cases parent with
    | none => rfl
    | some p => rw [Option.bind_some, Option.bind_some, alike.deadline_eq (young p rfl)]
  cause_eq := by
    intro i late
    by_cases last : i = f.size
    · rw [last, ← alike.size_eq, born, alike.size_eq]
    · rw [grown.cause?_eq last, grown'.cause?_eq (alike.size_eq ▸ last), alike.cause_eq late]

theorem child (young : n ≤ p) (made : p < m) (timeout : Option τ) :
    Alike n (f.size + 1) (f.child now p timeout).2 (g.child now p timeout).2 := by
  have made : p < f.size := Nat.lt_of_lt_of_le made alike.le_size
  have made' : p < g.size := alike.size_eq ▸ made
  have asked := alike.isCancelled now young
  have below : ∀ q, some p = some q → n ≤ q := by
    rintro _ ⟨⟩
    exact young
  have grown := asked.grow below (grown_child alike.settled now timeout made)
    (grown_child alike.settled' now timeout made') (by
      rw [size_isCancelled, size_isCancelled, cause?_child_new timeout alike.settled made,
        cause?_child_new timeout alike.settled' made', asked.cause_eq young])
  rwa [size_isCancelled] at grown

theorem background : Alike n (f.size + 1) f.background.2 g.background.2 := by
  have born (h : Forest τ) : h.background.2.cause? h.size = none :=
    (cause?_push ..).trans (if_pos rfl)
  have orphan : ∀ p, none = some p → n ≤ p := nofun
  exact alike.grow orphan (grown_background alike.settled) (grown_background alike.settled')
    ((born g).trans (born f).symm)

end Alike

end Forest

/-! ### In time -/

namespace Timeline

open Forest (Alike)

variable {τ : Type} {F : Forest τ → Forest τ → Prop} {t u : Timeline τ} {n m s p p' : ScopeId}

/-- Two timelines that show the same time and have the same timers pending, over forests that are
tied. -/
structure Abreast (F : Forest τ → Forest τ → Prop) (t u : Timeline τ) : Prop where
  now_eq : u.now = t.now
  timers_eq : u.timers = t.timers
  forest : F t.forest u.forest

namespace Abreast

variable [Clock τ]

/-- Where a cancel keeps forests tied, timelines over them move in step. -/
theorem lockstep (cancel : ∀ {f g : Forest τ} (s : ScopeId) (cause : Fault), F f g →
    F (f.cancel s cause) (g.cancel s cause)) : Lockstep (Abreast F) where
  now_eq b := b.now_eq
  timers_eq b := b.timers_eq
  later now b := { b with now_eq := congrArg (Clock.later · now) b.now_eq }
  fire {_ _ timer _} b _ :=
    ⟨congrArg (Clock.later · timer.due) b.now_eq, rfl, cancel timer.target timer.cause b.forest⟩

theorem level : Lockstep (Abreast (τ := τ) (Forest.Level m)) :=
  lockstep fun s cause level => level.cancel s s cause cause

theorem alike : Lockstep (Abreast (τ := τ) (Alike n m)) :=
  lockstep fun s cause alike => alike.cancel s cause

/-- A scope that was made from `n` on is the same on both sides. -/
theorem twins (young : n ≤ s) : Twins (Abreast (τ := τ) (Alike n m)) s s where
  deadline_eq b := b.forest.deadline_eq young
  cause_eq b := b.forest.cause_eq young
  isCancelled {t u} b := by
    refine ⟨b.now_eq, b.timers_eq, ?_⟩
    show Alike n m (t.forest.isCancelled t.now s).2 (u.forest.isCancelled u.now s).2
    rw [b.now_eq]
    exact b.forest.isCancelled t.now young

theorem child_level (b : Abreast (Forest.Level m) t u) (made : p < m) (made' : p' < m)
    (timeout : Option τ) :
    Abreast (Forest.Level (t.forest.size + 1)) (t.child p timeout).2 (u.child p' timeout).2 := by
  simp only [Timeline.child, b.now_eq]
  exact ⟨rfl, b.timers_eq, b.forest.child t.now made made' timeout⟩

theorem child (b : Abreast (Alike n m) t u) (young : n ≤ p) (made : p < m) (timeout : Option τ) :
    Abreast (Alike n (t.forest.size + 1)) (t.child p timeout).2 (u.child p timeout).2 := by
  simp only [Timeline.child, b.now_eq]
  exact ⟨rfl, b.timers_eq, b.forest.child young made timeout⟩

end Abreast

end Timeline

end Checkup
