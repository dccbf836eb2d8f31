import Checkup.Proofs.Scope.Threads

/-!
A thread alone does what the operations on the forest do.

When one thread makes the steps of its call while the others rest and no time passes, the tree it
leaves is that of `Forest.child`, `Forest.cancel`, `Forest.close` or `Forest.isCancelled`. A thread
that makes a scope adds it to the tree before it asks the one above; that this order does not matter
is `isCancelled_push`.

Main statements: `goesAlone_spread` (a cancel, claim by claim) and `goesAlone_of_call`.
-/

namespace Checkup

namespace Forest

variable {τ : Type} {f : Forest τ} {s : ScopeId} {todo : List ScopeId} {scope : Scope τ}

/-! ### A scope that is added before the others are cancelled -/

theorem modify_push (made : s < f.size) (scope : Scope τ) (change : Scope τ → Scope τ) :
    (f.push scope).modify s change = (f.modify s change).push scope := by
  have same : ∀ i, ((f.push scope).modify s change).get? i =
      ((f.modify s change).push scope).get? i := by
    intro i
    rw [get?_modify, get?_push, get?_push, get?_modify, size_modify]
    by_cases new : i = f.size
    · rw [if_neg (fun here => Nat.ne_of_lt made (here.trans new)), if_pos new, if_pos new]
    · rw [if_neg new, if_neg new]
  exact congrArg Forest.mk (Array.ext_getElem? same)

theorem claim_push (made : s < f.size) (scope : Scope τ) (cause : Fault) :
    (f.push scope).claim s cause = ((f.claim s cause).1, (f.claim s cause).2.push scope) := by
  have old : s ≠ f.size := Nat.ne_of_lt made
  by_cases live : f.IsLive s
  · have live' : (f.push scope).IsLive s := by
      refine ⟨?_, ?_⟩
      · rw [size_push]
        exact Nat.lt_succ_of_lt made
      · rw [cause?_push, if_neg old]
        exact live.2
    rw [claim_of_live live', claim_of_live live, modify_push made, children_push, if_neg old]
  · have ended : ¬ (f.push scope).IsLive s := by
      rintro ⟨-, none⟩
      rw [cause?_push, if_neg old] at none
      exact live ⟨made, none⟩
    rw [claim_of_not_live ended, claim_of_not_live live]

/-- A scope that nothing is linked to does not matter to the spreading of a cancel. -/
theorem spread_push (cause : Fault) (made : ∀ s ∈ todo, s < f.size)
    (below : ∀ p, ∀ c ∈ f.children p, c < f.size) (scope : Scope τ) :
    spread cause todo (f.push scope) =
      ((spread cause todo f).1, (spread cause todo f).2.push scope) := by
  induction todo, f using spread_induction cause with
  | nil f => simp
  | cons s rest f ih =>
      rw [spread_cons, spread_cons, claim_push (made s List.mem_cons_self), ih]
      · intro i mem
        rw [size_claim]
        rcases List.mem_append.mp mem with linked | later
        · exact below s i (mem_children_of_mem_claim linked)
        · exact made i (List.mem_cons_of_mem s later)
      · intro p c mem
        rw [size_claim]
        exact below p c (mem_children_of_claim mem)

theorem isCancelled_push [Clock τ] (made : s < f.size)
    (below : ∀ p, ∀ c ∈ f.children p, c < f.size) (scope : Scope τ) (now : τ) :
    (f.push scope).isCancelled now s =
      ((f.isCancelled now s).1, (f.isCancelled now s).2.push scope) := by
  have old : s ≠ f.size := Nat.ne_of_lt made
  have spreads : (f.push scope).cancel s .deadlineExceeded =
      (f.cancel s .deadlineExceeded).push scope := by
    refine congrArg Prod.snd (spread_push _ (fun i mem => ?_) below scope)
    rw [List.mem_singleton.mp mem]
    exact made
  unfold isCancelled isExpired
  rw [cause?_push, if_neg old, deadline?_push, if_neg old, spreads]
  split
  · rfl
  · split <;> rfl

end Forest

namespace Threads

variable {τ : Type} [Clock τ]

/-! ### One thread goes on -/

/-- A thread makes steps of its own while the others rest and no time passes. -/
inductive GoesAlone (i : Nat) : Threads τ → Threads τ → Prop
  | refl (t : Threads τ) : GoesAlone i t t
  | claim {t t' t'' : Threads τ} (order : List ScopeId) :
      t.step (.claim i order) = some t' → GoesAlone i t' t'' → GoesAlone i t t''
  | go {t t' t'' : Threads τ} : t.step (.go i) = some t' → GoesAlone i t' t'' → GoesAlone i t t''

variable {t t' t'' : Threads τ} {f : Forest τ} {place next : Place τ} {rest : Rest}
  {s p c : ScopeId} {i : Nat} {ids todo : List ScopeId}

theorem GoesAlone.trans (first : GoesAlone i t t') (second : GoesAlone i t' t'') :
    GoesAlone i t t'' := by
  induction first with
  | refl => exact second
  | claim order makes _ ih => exact .claim order makes (ih second)
  | go makes _ ih => exact .go makes (ih second)

section Going

variable (here : t.places[i]? = some place)
include here

theorem step_go_moved (next : Place τ) (f : Forest τ) (ids : List ScopeId) :
    (t.moved i next f ids).step (.go i) = (t.moved i next f ids).goFrom i next := by
  simp only [step, moved_getElem? here, if_pos, Option.bind_some]

/-- A cancel, claim by claim. -/
theorem goesAlone_spread (cause : Fault) (todo : List ScopeId) (f : Forest τ) :
    GoesAlone i (t.moved i (.owing cause todo rest) f ids)
      (t.moved i (.resting rest) (Forest.spread cause todo f).2 ids) := by
  induction todo, f using Forest.spread_induction cause with
  | nil f =>
      rw [Forest.spread_nil]
      exact .refl _
  | cons s others f ih =>
      rw [Forest.spread_cons]
      refine .claim (f.claim s cause).1 ?_ ih
      simp only [step, moved_getElem? here, if_pos, Option.bind_some, Place.owing, claimFrom]
      simp [moved, List.isPerm_iff]

/-- A look at a scope. -/
theorem goesAlone_looking (s : ScopeId) (rest : Rest) (f : Forest τ) (ids : List ScopeId) :
    GoesAlone i (t.moved i (.looking s rest) f ids)
      (t.moved i (.resting rest) (f.isCancelled t.now s).2 ids) := by
  unfold Forest.isCancelled
  split
  · rename_i cancelled
    refine .go ?_ (.refl _)
    rw [step_go_moved here]
    simp [goFrom, moved, cancelled]
  · rename_i live
    have timing : (t.moved i (.looking s rest) f ids).step (.go i) =
        some (t.moved i (.timing s rest) f ids) := by
      rw [step_go_moved here]
      simp [goFrom, moved, live]
    refine .go timing ?_
    split
    · rename_i expired
      refine .go ?_ (goesAlone_spread here .deadlineExceeded [s] f)
      rw [step_go_moved here]
      simp [goFrom, moved, expired, Place.owing]
    · rename_i inTime
      refine .go ?_ (.refl _)
      rw [step_go_moved here]
      simp [goFrom, moved, inTime]

end Going

/-! ### Calls -/

/-- What an operation on the forest makes of it. -/
def Call.on (f : Forest τ) (now : τ) : Call τ → Forest τ
  | .child p timeout => (f.child now p timeout).2
  | .cancel s cause => f.cancel s cause
  | .close s => f.close s
  | .isCancelled s => (f.isCancelled now s).2

/-- The scope that a call hands out, if it makes one. -/
def Call.handed (f : Forest τ) : Call τ → List ScopeId
  | .child .. => [f.size]
  | _ => []

/-- A thread alone that makes a scope: it is added, the one above is asked, and then it is linked
or cancelled. -/
theorem goesAlone_child (sound : t.Sound) (idle : t.places[i]? = some .idle) (known : p ∈ t.known)
    (timeout : Option τ) :
    GoesAlone i (t.moved i (.making p timeout) t.forest t.known)
      (t.moved i .idle (t.forest.child t.now p timeout).2 (t.forest.size :: t.known)) := by
  have made : p < t.forest.size := sound.known_lt known
  have asked : ((t.forest.push
      { parent := some p
        deadline := Clock.earliest? (t.forest.deadline? p) (timeout.map (Clock.add t.now))
      }).isCancelled t.now p).2 = t.forest.withChild t.now p timeout := by
    rw [Forest.isCancelled_push made fun q c mem =>
      Forest.lt_size_of_parent? (sound.formed.parent?_of_mem mem)]
    rfl
  have cause?_eq : (t.forest.withChild t.now p timeout).cause? p =
      (t.forest.isCancelled t.now p).2.cause? p := by
    rw [Forest.withChild, Forest.cause?_push, if_neg]
    rw [Forest.size_isCancelled]
    exact Nat.ne_of_lt made
  have looks := goesAlone_looking idle p (.link p t.forest.size)
    (t.forest.push
      { parent := some p
        deadline := Clock.earliest? (t.forest.deadline? p) (timeout.map (Clock.add t.now)) })
    t.known
  rw [asked] at looks
  have hands (f : Forest τ) : GoesAlone i
      (t.moved i (.resting (.hand t.forest.size)) f t.known)
      (t.moved i .idle f (t.forest.size :: t.known)) := by
    refine .go ?_ (.refl _)
    rw [step_go_moved idle]
    simp [goFrom, moved]
  refine .go ?_ (looks.trans ?_)
  · rw [step_go_moved idle]
    simp [goFrom, moved]
  · cases above : (t.forest.isCancelled t.now p).2.cause? p with
    | none =>
        rw [Forest.child_of_live above]
        refine .go ?_ (hands _)
        rw [step_go_moved idle]
        simp [goFrom, moved, cause?_eq, above]
    | some cause =>
        rw [Forest.child_of_cancelled above]
        refine .go ?_ ((goesAlone_spread idle cause [t.forest.size] _).trans (hands _))
        rw [step_go_moved idle]
        simp [goFrom, moved, cause?_eq, above, Place.owing]

/-- A thread alone that makes a call leaves the tree that the operation does. -/
theorem goesAlone_of_call (sound : t.Sound) (idle : t.places[i]? = some .idle) (what : Call τ)
    (known : what.scope ∈ t.known) :
    GoesAlone i (t.moved i (.ofCall what) t.forest t.known)
      { t with forest := what.on t.forest t.now, known := what.handed t.forest ++ t.known } := by
  have ends (f : Forest τ) (ids : List ScopeId) :
      t.moved i .idle f ids = { t with forest := f, known := ids } := by
    obtain ⟨inside, same⟩ := List.getElem?_eq_some_iff.mp idle
    simp [moved, ← same]
  rw [← ends]
  have finishes (f : Forest τ) : GoesAlone i (t.moved i (.resting .finish) f t.known)
      (t.moved i .idle f t.known) := by
    refine .go ?_ (.refl _)
    rw [step_go_moved idle]
    simp [goFrom, moved]
  cases what with
  | cancel s cause => exact (goesAlone_spread idle cause [s] t.forest).trans (finishes _)
  | isCancelled s => exact (goesAlone_looking idle s .finish t.forest t.known).trans (finishes _)
  | close s =>
      refine (goesAlone_spread idle .scopeCancelled [s] t.forest).trans (.go ?_ (.refl _))
      rw [step_go_moved idle]
      simp only [goFrom, Call.on, Forest.close, Forest.cancel]
      cases hangs : (Forest.spread .scopeCancelled [s] t.forest).2.parent? s with
      | none => simp [moved, Call.handed, hangs]
      | some p => simp [moved, Call.handed, hangs]
  | child p timeout => exact goesAlone_child sound idle known timeout

end Threads

end Checkup
