import Checkup.Proofs.Scope.Waits
import Mathlib.Logic.Relation

/-!
What is left alone while younger scopes are used.

A scope is made below another, and from then on only it and what hangs below it is asked, waited
for, cancelled, closed or made the parent of new scopes, while time passes and timers fire. Each of
these is a `Touch`. Cancels go down and never up, and closing a scope unlinks it from its own parent
alone. So the older scopes keep their causes, but for timers that struck them from above, and live
ones keep their links, but for the one to the scope that was made.

Once that scope is closed, all that was ever made below it is cancelled, and so is what will be.

Main statements: `spares_of_touches` (what touches leave of older scopes), `closed_of_touches` (a
closed scope stays closed) and `releases_of_touches` (a scope that was made, used and closed leaves
nothing behind).
-/

namespace Checkup

namespace Forest

variable {τ : Type} {f f' f'' : Forest τ} {n s p i : ScopeId} {cause known : Fault}
  {struck struck' : List ScopeId}

/-! ### Links -/

/-- A cancel links nothing. -/
theorem mem_children_of_spread {todo : List ScopeId}
    (mem : i ∈ (spread cause todo f).2.children p) : i ∈ f.children p := by
  induction todo, f using spread_induction cause with
  | nil f => simpa using mem
  | cons s rest f ih =>
      rw [spread_cons] at mem
      exact mem_children_of_claim (ih mem)

/-- A scope that is still live has its links. -/
theorem children_spread_of_live {todo : List ScopeId}
    (live : (spread cause todo f).2.cause? p = none) :
    (spread cause todo f).2.children p = f.children p := by
  induction todo, f using spread_induction cause with
  | nil f => simp
  | cons s rest f ih =>
      rw [spread_cons] at live ⊢
      rw [ih live]
      by_cases claimed : p = s ∧ f.IsLive s
      · obtain ⟨rfl, isLive⟩ := claimed
        rw [cause?_spread_of_some (cause?_claim_self isLive cause)] at live
        cases live
      · by_cases same : p = s
        · rw [claim_of_not_live fun isLive => claimed ⟨same, isLive⟩]
        · exact children_claim_of_ne same cause

theorem mem_children_of_cancel (mem : i ∈ (f.cancel s cause).children p) : i ∈ f.children p :=
  mem_children_of_spread mem

/-- A scope that a cancel leaves live keeps its links. -/
theorem children_cancel_of_live (live : (f.cancel s cause).cause? p = none) :
    (f.cancel s cause).children p = f.children p :=
  children_spread_of_live live

theorem close_of_parent? (hangs : f.parent? s = some p) :
    f.close s = (f.cancel s .scopeCancelled).detach p s := by
  simp only [close, parent?_cancel, hangs]

theorem mem_children_of_close (mem : i ∈ (f.close s).children p) : i ∈ f.children p := by
  rcases f.close_cases s with same | ⟨q, same⟩
  · rw [same] at mem
    exact mem_children_of_cancel mem
  · rw [same, children_detach] at mem
    split at mem
    · rename_i here
      rw [here]
      exact mem_children_of_cancel (List.mem_of_mem_erase mem)
    · exact mem_children_of_cancel mem

/-- Closing a scope unlinks that scope, and only from the one above it. -/
theorem mem_children_close_of_live (live : (f.close s).cause? p = none) (mem : i ∈ f.children p)
    (other : f.parent? s = some p → i ≠ s) : i ∈ (f.close s).children p := by
  rw [cause?_close] at live
  have kept : i ∈ (f.cancel s .scopeCancelled).children p := by
    rwa [children_cancel_of_live live]
  cases hangs : f.parent? s with
  | none =>
      rw [close, parent?_cancel, hangs]
      exact kept
  | some q =>
      rw [close_of_parent? hangs, children_detach]
      split
      · rename_i here
        subst here
        exact (List.mem_erase_of_ne (other hangs)).mpr kept
      · exact kept

/-- A closed scope is unlinked. -/
theorem not_mem_children_close (settled : f.Settled) (hangs : f.parent? s = some p) :
    s ∉ (f.close s).children p := by
  rw [close_of_parent? hangs, children_detach, if_pos rfl]
  exact ((formed_cancel settled s _).nodup p).not_mem_erase

section Child

variable [Clock τ] {now : τ} {timeout : Option τ}

theorem parent?_child_new (settled : f.Settled) (made : p < f.size) :
    (f.child now p timeout).2.parent? f.size = some p := by
  rw [(grown_child settled now timeout made).parent?_eq, size_isCancelled, if_pos rfl]

/-- Nothing but the new scope is linked below an older one when a scope is made. -/
theorem mem_children_of_child (mem : i ∈ (f.child now p timeout).2.children s)
    (older : s < f.size) : i ∈ f.children s ∨ s = p ∧ i = f.size := by
  have asked {i : ScopeId} (mem : i ∈ (f.withChild now p timeout).children s) :
      i ∈ f.children s := by
    rw [withChild, children_push, size_isCancelled, if_neg (Nat.ne_of_lt older)] at mem
    rcases f.isCancelled_cases now p with same | ⟨-, -, cancels⟩
    · rwa [same] at mem
    · rw [cancels] at mem
      exact mem_children_of_cancel mem
  cases known : (f.isCancelled now p).2.cause? p with
  | some cause =>
      rw [child_of_cancelled known] at mem
      exact .inl (asked (mem_children_of_cancel mem))
  | none =>
      rw [child_of_live known, children_link] at mem
      split at mem
      · rename_i here
        rw [here.1] at asked
        rcases List.mem_append.mp mem with old | new
        · rw [here.1]
          exact .inl (asked old)
        · exact .inr ⟨here.1, List.mem_singleton.mp new⟩
      · exact .inl (asked mem)

/-- A scope that is still live when another was made has its links. -/
theorem mem_children_child_of_live (live : (f.child now p timeout).2.cause? s = none)
    (older : s < f.size) (mem : i ∈ f.children s) : i ∈ (f.child now p timeout).2.children s := by
  have old : s ≠ (f.isCancelled now p).2.size := by
    rw [size_isCancelled]
    exact Nat.ne_of_lt older
  have asked (live : (f.withChild now p timeout).cause? s = none) :
      i ∈ (f.withChild now p timeout).children s := by
    rw [withChild, cause?_push, if_neg old] at live
    rw [withChild, children_push, if_neg old]
    rcases f.isCancelled_cases now p with same | ⟨-, -, cancels⟩
    · rwa [same]
    · rw [cancels] at live ⊢
      rwa [children_cancel_of_live live]
  cases known : (f.isCancelled now p).2.cause? p with
  | some cause =>
      rw [child_of_cancelled known] at live ⊢
      rw [children_cancel_of_live live]
      refine asked ?_
      by_contra cancelled
      obtain ⟨before, eq⟩ := Option.ne_none_iff_exists'.mp cancelled
      rw [cause?_cancel_of_some eq] at live
      cases live
  | none =>
      rw [child_of_live known] at live ⊢
      rw [cause?_link] at live
      rw [children_link]
      have kept := asked live
      split
      · rename_i here
        rw [here.1] at kept
        exact List.mem_append_left _ kept
      · exact kept

end Child

/-! ### Older scopes -/

/-- Nothing is owed in a forest, and what was made from scope `n` on hangs below that scope. -/
structure Rooted (n : ScopeId) (f : Forest τ) : Prop where
  settled : f.Settled
  made : n < f.size
  above {i : ScopeId} : n ≤ i → i < f.size → f.Above n i

/-- What hangs below scope `n` hangs below a scope that is not older. -/
theorem Rooted.le_parent (rooted : f.Rooted n) (younger : n < s) (hangs : f.parent? s = some p) :
    n ≤ p := by
  cases rooted.above (Nat.le_of_lt younger) (lt_size_of_parent? hangs) with
  | self => exact absurd younger (Nat.lt_irrefl n)
  | ofParent hangs' above =>
      obtain rfl : _ = p := Option.some.inj (hangs'.symm.trans hangs)
      exact rooted.settled.le_of_above above

/-- `f'` comes from `f` by what was done to scopes from `n` on, and by cancels that struck some
scopes. -/
structure Spares (n : ScopeId) (struck : List ScopeId) (f f' : Forest τ) : Prop where
  rooted : f'.Rooted n
  size_le : f.size ≤ f'.size
  parent?_eq {i : ScopeId} : i < f.size → f'.parent? i = f.parent? i
  deadline?_eq {i : ScopeId} : i < f.size → f'.deadline? i = f.deadline? i
  cause?_of_some {i : ScopeId} {known : Fault} :
    f.cause? i = some known → f'.cause? i = some known
  cancelled {s : ScopeId} : s ∈ struck → s < f.size → (f'.cause? s).isSome
  /-- An older scope has the cause that it had, or was struck from above. -/
  cause?_cases {i : ScopeId} :
    i < n → f'.cause? i = f.cause? i ∨ ∃ s ∈ struck, f.Above s i
  /-- Only what is new is linked below an older scope. -/
  mem_children {p i : ScopeId} : p < n → i ∈ f'.children p → i ∈ f.children p ∨ f.size ≤ i
  /-- An older scope that is live has its links, but for the one to `n`. -/
  linked {p i : ScopeId} :
    p < n → f'.cause? p = none → i ≠ n → i ∈ f.children p → i ∈ f'.children p

/-- The scopes that asking a scope strikes: that scope, if its deadline has passed. -/
def overdue [Clock τ] (f : Forest τ) (now : τ) (s : ScopeId) : List ScopeId :=
  if f.isExpired now s then [s] else []

theorem mem_overdue_iff [Clock τ] {now : τ} :
    i ∈ f.overdue now s ↔ i = s ∧ f.isExpired now s = true := by
  unfold overdue
  split <;> simp [*]

namespace Spares

theorem refl (rooted : f.Rooted n) : f.Spares n [] f where
  rooted := rooted
  size_le := Nat.le_refl _
  parent?_eq _ := rfl
  deadline?_eq _ := rfl
  cause?_of_some := id
  cancelled mem := absurd mem List.not_mem_nil
  cause?_cases _ := .inl rfl
  mem_children _ := .inl
  linked _ _ _ := id

theorem trans (settled : f.Settled) (le_size : n ≤ f.size) (first : f.Spares n struck f')
    (second : f'.Spares n struck' f'') : f.Spares n (struck ++ struck') f'' where
  rooted := second.rooted
  size_le := Nat.le_trans first.size_le second.size_le
  parent?_eq old :=
    (second.parent?_eq (Nat.lt_of_lt_of_le old first.size_le)).trans (first.parent?_eq old)
  deadline?_eq old :=
    (second.deadline?_eq (Nat.lt_of_lt_of_le old first.size_le)).trans (first.deadline?_eq old)
  cause?_of_some known := second.cause?_of_some (first.cause?_of_some known)
  cancelled mem old := by
    rcases List.mem_append.mp mem with before | later
    · obtain ⟨known, eq⟩ := Option.isSome_iff_exists.mp (first.cancelled before old)
      rw [second.cause?_of_some eq]
      rfl
    · exact second.cancelled later (Nat.lt_of_lt_of_le old first.size_le)
  cause?_cases older := by
    rcases second.cause?_cases older with same | ⟨s, mem, above⟩
    · rcases first.cause?_cases older with same' | ⟨s, mem, above⟩
      · exact .inl (same.trans same')
      · exact .inr ⟨s, List.mem_append_left _ mem, above⟩
    · have made := Nat.lt_of_lt_of_le older le_size
      exact .inr ⟨s, List.mem_append_right _ mem,
        (settled.above_iff (fun _ => first.parent?_eq) made).mp above⟩
  mem_children older mem := by
    rcases second.mem_children older mem with before | new
    · exact first.mem_children older before
    · exact .inr (Nat.le_trans first.size_le new)
  linked {p i} older live other mem := by
    have before : f'.cause? p = none := by
      by_contra cancelled
      obtain ⟨known, eq⟩ := Option.ne_none_iff_exists'.mp cancelled
      rw [second.cause?_of_some eq] at live
      cases live
    exact second.linked older live other (first.linked older before other mem)

/-- A cancel of a scope that is not older, or that counts as struck. -/
theorem cancel (rooted : f.Rooted n) (cause : Fault) (only : ∀ i ∈ struck, i = s)
    (told : s < n → s ∈ struck) : f.Spares n struck (f.cancel s cause) where
  rooted :=
    { settled := formed_cancel rooted.settled s cause
      made := by rw [size_cancel]; exact rooted.made
      above := fun younger made => by
        rw [size_cancel] at made
        exact (rooted.above younger made).of_parent?_eq fun _ _ => parent?_cancel .. }
  size_le := Nat.le_of_eq (size_cancel ..).symm
  parent?_eq _ := parent?_cancel ..
  deadline?_eq _ := deadline?_cancel ..
  cause?_of_some known := cause?_cancel_of_some known s cause
  cancelled mem made := by
    rw [only _ mem] at made ⊢
    exact isSome_cause?_cancel made cause
  cause?_cases {i} older := by
    by_cases above : f.Above s i
    · exact .inr ⟨s, told (Nat.lt_of_le_of_lt (rooted.settled.le_of_above above) older), above⟩
    · exact .inl (cause?_cancel_of_not_above rooted.settled above cause)
  mem_children _ mem := .inl (mem_children_of_cancel mem)
  linked _ live _ mem := by rwa [children_cancel_of_live live]

/-- Closing a scope that is not older. -/
theorem close (rooted : f.Rooted n) (younger : n ≤ s) : f.Spares n [] (f.close s) := by
  have cancels : f.Spares n [] (f.cancel s .scopeCancelled) :=
    cancel rooted _ (fun _ mem => absurd mem List.not_mem_nil)
      fun older => absurd older (Nat.not_lt_of_le younger)
  constructor
  · refine ⟨settled_close rooted.settled s, ?_, fun younger made => ?_⟩
    · rw [size_close]
      exact rooted.made
    · rw [size_close] at made
      exact (rooted.above younger made).of_parent?_eq fun _ _ => parent?_close ..
  · exact Nat.le_of_eq (size_close ..).symm
  · exact fun _ => parent?_close ..
  · exact fun _ => deadline?_close ..
  · intro i known cancelled
    rw [cause?_close]
    exact cancels.cause?_of_some cancelled
  · exact fun mem => absurd mem List.not_mem_nil
  · intro i older
    rw [cause?_close]
    exact cancels.cause?_cases older
  · exact fun _ mem => .inl (mem_children_of_close mem)
  · intro p i older live other mem
    refine mem_children_close_of_live live mem fun hangs => ?_
    rcases Nat.eq_or_lt_of_le younger with rfl | later
    · exact other
    · exact absurd older (Nat.not_lt_of_le (rooted.le_parent later hangs))

section Clocked

variable [Clock τ]

theorem isCancelled (rooted : f.Rooted n) (now : τ) (younger : n ≤ s) :
    f.Spares n [] (f.isCancelled now s).2 := by
  rcases f.isCancelled_cases now s with same | ⟨-, -, cancels⟩
  · rw [same]
    exact refl rooted
  · rw [cancels]
    exact cancel rooted _ (fun _ mem => absurd mem List.not_mem_nil)
      fun older => absurd older (Nat.not_lt_of_le younger)

/-- Making a scope below one that is not older. -/
theorem child (rooted : f.Rooted n) (now : τ) (timeout : Option τ) (younger : n ≤ p)
    (made : p < f.size) : f.Spares n [] (f.child now p timeout).2 := by
  have asks := isCancelled rooted now younger
  have grown := grown_child rooted.settled now timeout made
  have size : (f.isCancelled now p).2.size = f.size := size_isCancelled ..
  have parent {i : ScopeId} (old : i < f.size) :
      (f.child now p timeout).2.parent? i = f.parent? i := by
    rw [grown.parent?_eq, size, if_neg (Nat.ne_of_lt old), parent?_isCancelled]
  constructor
  · refine ⟨grown.settled, ?_, fun {i} younger madeI => ?_⟩
    · rw [size_child]
      exact Nat.lt_succ_of_lt rooted.made
    · rw [size_child] at madeI
      rcases Nat.eq_or_lt_of_le (Nat.le_of_lt_succ madeI) with rfl | old
      · refine .ofParent (parent?_child_new rooted.settled made) ?_
        exact (rooted.above ‹n ≤ p› made).of_parent?_eq fun _ => parent
      · exact (rooted.above younger old).of_parent?_eq fun _ => parent
  · rw [size_child]
    exact Nat.le_succ _
  · exact parent
  · intro i old
    rw [grown.deadline?_eq, size, if_neg (Nat.ne_of_lt old), deadline?_isCancelled]
  · intro i known cancelled
    rw [grown.cause?_eq (by rw [size]; exact Nat.ne_of_lt (lt_size_of_cause? cancelled))]
    exact asks.cause?_of_some cancelled
  · exact fun mem => absurd mem List.not_mem_nil
  · intro i older
    rw [grown.cause?_eq (by rw [size]; exact Nat.ne_of_lt (Nat.lt_trans older rooted.made))]
    exact asks.cause?_cases older
  · intro q i older mem
    rcases mem_children_of_child mem (Nat.lt_trans older rooted.made) with before | ⟨-, rfl⟩
    · exact .inl before
    · exact .inr (Nat.le_refl _)
  · intro q i older live _ mem
    exact mem_children_child_of_live live (Nat.lt_trans older rooted.made) mem

/-- Making the scope that the others will hang below asks the one above it. -/
theorem opens (settled : f.Settled) (now : τ) (timeout : Option τ) (made : p < f.size) :
    f.Spares f.size (f.overdue now p) (f.child now p timeout).2 := by
  have grown := grown_child settled now timeout made
  have size : (f.isCancelled now p).2.size = f.size := size_isCancelled ..
  have cause {i : ScopeId} (old : i < f.size) :
      (f.child now p timeout).2.cause? i = (f.isCancelled now p).2.cause? i :=
    grown.cause?_eq (by rw [size]; exact Nat.ne_of_lt old)
  have keeps {i : ScopeId} {known : Fault} (cancelled : f.cause? i = some known) :
      (f.child now p timeout).2.cause? i = some known := by
    rw [cause (lt_size_of_cause? cancelled)]
    rcases f.isCancelled_cases now p with same | ⟨-, -, cancels⟩
    · rw [same, cancelled]
    · rw [cancels]
      exact cause?_cancel_of_some cancelled ..
  constructor
  · refine ⟨grown.settled, ?_, fun {i} younger madeI => ?_⟩
    · rw [size_child]
      exact Nat.lt_succ_self _
    · rw [size_child] at madeI
      obtain rfl : f.size = i := Nat.le_antisymm younger (Nat.le_of_lt_succ madeI)
      exact .self
  · rw [size_child]
    exact Nat.le_succ _
  · intro i old
    rw [grown.parent?_eq, size, if_neg (Nat.ne_of_lt old), parent?_isCancelled]
  · intro i old
    rw [grown.deadline?_eq, size, if_neg (Nat.ne_of_lt old), deadline?_isCancelled]
  · exact keeps
  · intro s mem _
    obtain ⟨rfl, expired⟩ := mem_overdue_iff.mp mem
    rw [cause made]
    by_cases known : (f.cause? s).isSome
    · rwa [Forest.isCancelled, if_pos known]
    · rw [Forest.isCancelled, if_neg known, if_pos expired]
      exact isSome_cause?_cancel made _
  · intro i old
    rw [cause old]
    rcases f.isCancelled_cases now p with same | ⟨-, expired, cancels⟩
    · rw [same]
      exact .inl rfl
    · rw [cancels]
      by_cases above : f.Above p i
      · exact .inr ⟨p, mem_overdue_iff.mpr ⟨rfl, expired⟩, above⟩
      · exact .inl (cause?_cancel_of_not_above settled above _)
  · intro q i older mem
    rcases mem_children_of_child mem older with before | ⟨-, rfl⟩
    · exact .inl before
    · exact .inr (Nat.le_refl _)
  · intro q i older live _ mem
    exact mem_children_child_of_live live older mem

end Clocked

/-- Which scopes were struck matters, not how they are listed. -/
theorem congr (spares : f.Spares n struck f') (same : ∀ s, s ∈ struck' ↔ s ∈ struck) :
    f.Spares n struck' f' :=
  { spares with
    cancelled := fun mem => spares.cancelled ((same _).mp mem)
    cause?_cases := fun older => (spares.cause?_cases older).imp_right
      fun ⟨s, mem, above⟩ => ⟨s, (same s).mpr mem, above⟩ }

end Spares

end Forest

namespace Timeline

open Clock (IsTime)

variable {τ : Type} [Clock τ] {t t' : Timeline τ} {c n s i : ScopeId}

/-! ### Touches -/

/-- Something is done to a scope from `n` on, time passes, or a timer fires. -/
inductive Touch (n : ScopeId) (t : Timeline τ) : Timeline τ → Prop
  | isCancelled {s : ScopeId} : n ≤ s → Touch n t (t.isCancelled s).2
  | cancel {s : ScopeId} (cause : Fault) : n ≤ s → Touch n t (t.cancel s cause)
  | close {s : ScopeId} : n ≤ s → Touch n t (t.close s)
  | child {s : ScopeId} (timeout : Option τ) : n ≤ s → s < t.forest.size →
      Touch n t (t.child s timeout).2
  | later (now : τ) : Touch n t { t with now := Clock.later t.now now }
  | fire {timer : Timer τ} {others : List (Timer τ)} : t.timers.Perm (timer :: others) →
      Touch n t (t.fire timer others)

abbrev Touches (n : ScopeId) : Timeline τ → Timeline τ → Prop := Relation.ReflTransGen (Touch n)

theorem Touch.size_le (touch : Touch n t t') : t.forest.size ≤ t'.forest.size := by
  cases touch with
  | isCancelled younger => exact (Extends.isCancelled t _).size_le
  | cancel cause younger => exact (Extends.cancel t _ cause).size_le
  | close younger => exact (Extends.close t _).size_le
  | @child p timeout younger made =>
      have size : (t.child p timeout).2.forest.size = t.forest.size + 1 := Forest.size_child ..
      rw [size]
      exact Nat.le_succ _
  | later now => exact Nat.le_refl _
  | fire pending => exact Nat.le_of_eq (Forest.size_cancel ..).symm

theorem size_le_of_touches (touches : Touches n t t') : t.forest.size ≤ t'.forest.size := by
  induction touches with
  | refl => exact Nat.le_refl _
  | tail _ touch ih => exact Nat.le_trans ih touch.size_le

variable [Clock.Ordered τ]

/-- The clock has gone on, timers have struck scopes, and older scopes are as these left them. -/
structure Spares (n : ScopeId) (t t' : Timeline τ) : Prop where
  isTime : IsTime t'.now
  forward : Clock.le t.now t'.now = true
  forest : t.forest.Spares n (t.fired t') t'.forest

omit [Clock.Ordered τ] in
/-- What a touch does to the forest, and which timers are gone. -/
theorem Touch.spares (rooted : t.forest.Rooted n) (touch : Touch n t t') :
    ∃ gone : List (Timer τ), t.timers.Perm (gone ++ t'.timers) ∧
      t.forest.Spares n (gone.map Timer.target) t'.forest := by
  cases touch with
  | isCancelled younger => exact ⟨[], .refl _, .isCancelled rooted t.now younger⟩
  | cancel cause younger =>
      exact ⟨[], .refl _, .cancel rooted cause (fun _ mem => absurd mem List.not_mem_nil)
        fun older => absurd older (Nat.not_lt_of_le younger)⟩
  | close younger => exact ⟨[], .refl _, .close rooted younger⟩
  | child timeout younger made =>
      exact ⟨[], .refl _, .child rooted t.now timeout younger made⟩
  | later now => exact ⟨[], .refl _, .refl rooted⟩
  | @fire timer others pending =>
      refine ⟨[timer], pending, .cancel rooted timer.cause (fun _ mem => ?_) fun _ => ?_⟩
      · exact List.mem_singleton.mp mem
      · exact List.mem_singleton_self _

/-- The clock does not go back. -/
theorem Touch.forward (isTime : IsTime t.now) (touch : Touch n t t') :
    IsTime t'.now ∧ Clock.le t.now t'.now = true := by
  have here := Clock.le_refl isTime
  cases touch with
  | isCancelled | cancel | close | child => exact ⟨isTime, here⟩
  | later now => exact ⟨Clock.isTime_later isTime now, Clock.le_later isTime now⟩
  | @fire timer others pending =>
      exact ⟨Clock.isTime_later isTime timer.due, Clock.le_later isTime timer.due⟩

/-- Whatever is done to the scopes from `n` on, the older ones are as the timers left them. -/
theorem spares_of_touches (rooted : t.forest.Rooted n) (isTime : IsTime t.now)
    (touches : Touches n t t') : t.Spares n t' := by
  have all : IsTime t'.now ∧ Clock.le t.now t'.now = true ∧
      ∃ gone : List (Timer τ), t.timers.Perm (gone ++ t'.timers) ∧
        t.forest.Spares n (gone.map Timer.target) t'.forest := by
    induction touches with
    | refl => exact ⟨isTime, Clock.le_refl isTime, [], .refl _, .refl rooted⟩
    | tail _ touch ih =>
        obtain ⟨isTime', forward, gone, pending, spares⟩ := ih
        obtain ⟨isTime'', further⟩ := touch.forward isTime'
        obtain ⟨gone', pending', spares'⟩ := touch.spares spares.rooted
        refine ⟨isTime'', Clock.Ordered.le_trans forward further, gone ++ gone', ?_, ?_⟩
        · rw [List.append_assoc]
          exact pending.trans (pending'.append_left gone)
        · rw [List.map_append]
          exact .trans rooted.settled (Nat.le_of_lt rooted.made) spares spares'
  obtain ⟨isTime', forward, gone, pending, spares⟩ := all
  exact ⟨isTime', forward, spares.congr fun s => mem_fired_iff pending⟩

/-! ### Closed scopes -/

/-- Scope `n`, which hangs below `c`, is cancelled and no longer linked. -/
structure Closed (c n : ScopeId) (t : Timeline τ) : Prop where
  cancelled : (t.forest.cause? n).isSome
  unlinked : n ∉ t.forest.children c

omit [Clock τ] [Clock.Ordered τ] in
/-- A scope that is closed below another is cancelled, and no longer linked there. -/
theorem closed_close (rooted : t.forest.Rooted n) (hangs : t.forest.parent? n = some c) :
    (t.close n).Closed c n where
  cancelled := by
    show ((t.forest.close n).cause? n).isSome
    rw [Forest.cause?_close]
    exact Forest.isSome_cause?_cancel rooted.made _
  unlinked := Forest.not_mem_children_close rooted.settled hangs

/-- A closed scope stays closed. -/
theorem closed_of_touches (rooted : t.forest.Rooted n) (isTime : IsTime t.now) (older : c < n)
    (closed : t.Closed c n) (touches : Touches n t t') : t'.Closed c n := by
  have spares := (spares_of_touches rooted isTime touches).forest
  obtain ⟨known, cancelled⟩ := Option.isSome_iff_exists.mp closed.cancelled
  constructor
  · rw [spares.cause?_of_some cancelled]
    rfl
  · intro mem
    rcases spares.mem_children older mem with before | new
    · exact closed.unlinked before
    · exact Nat.not_le_of_lt rooted.made new

/-! ### What becomes of a timeline -/

/-- What may become of a timeline when actions are done that name scopes there are. -/
inductive Becomes : Timeline τ → Timeline τ → Prop
  | refl (t : Timeline τ) : Becomes t t
  | act {t t' : Timeline τ} {action : Action τ} :
      (∀ s, action.scope? = some s → s < t.forest.size) → Becomes (t.act action) t' → Becomes t t'

/-- Nothing is owed in the forest, and a scope is cancelled. -/
structure Ended (s : ScopeId) (t : Timeline τ) : Prop where
  settled : t.forest.Settled
  cancelled : (t.forest.cause? s).isSome

namespace Ended

omit [Clock.Ordered τ]

omit [Clock τ] in
/-- What hangs below a cancelled scope is cancelled. -/
theorem below (ended : t.Ended s) (above : t.forest.Above s i) : (t.forest.cause? i).isSome :=
  ended.settled.cancelled_of_above above ended.cancelled

omit [Clock τ] in
theorem of_cause? (ended : t.Ended s) (settled : t'.forest.Settled)
    (keeps : ∀ known, t.forest.cause? s = some known → t'.forest.cause? s = some known) :
    t'.Ended s := by
  obtain ⟨known, cancelled⟩ := Option.isSome_iff_exists.mp ended.cancelled
  refine ⟨settled, ?_⟩
  rw [keeps known cancelled]
  rfl

omit [Clock τ] in
theorem cancel (ended : t.Ended s) (i : ScopeId) (cause : Fault) : (t.cancel i cause).Ended s :=
  ended.of_cause? (Forest.formed_cancel ended.settled i cause)
    fun _ known => Forest.cause?_cancel_of_some known i cause

omit [Clock τ] in
theorem close (ended : t.Ended s) (i : ScopeId) : (t.close i).Ended s := by
  refine ended.of_cause? (Forest.settled_close ended.settled i) fun known cancelled => ?_
  show (t.forest.close i).cause? s = some known
  rw [Forest.cause?_close]
  exact Forest.cause?_cancel_of_some cancelled ..

theorem isCancelled (i : ScopeId) (ended : t.Ended s) : (t.isCancelled i).2.Ended s := by
  show Ended s { t with forest := (t.forest.isCancelled t.now i).2 }
  rcases t.forest.isCancelled_cases t.now i with same | ⟨-, -, cancels⟩
  · rw [same]
    exact ended
  · rw [cancels]
    exact ended.cancel i _

/-- A scope more changes nothing for the one that is cancelled. -/
theorem grow {g : Forest τ} {parent : Option ScopeId} {own : Option τ} (ended : t.Ended s)
    (grown : t.forest.Grown g parent own) : Ended s { t with forest := g } := by
  refine ended.of_cause? grown.settled fun known cancelled => ?_
  rw [grown.cause?_eq (Nat.ne_of_lt (Forest.lt_size_of_cause? cancelled))]
  exact cancelled

theorem fire {timer : Timer τ} {others : List (Timer τ)} (ended : t.Ended s) :
    (t.fire timer others).Ended s := by
  have cancelled := ended.cancel timer.target timer.cause
  exact ⟨cancelled.settled, cancelled.cancelled⟩

/-- Whatever is done, a cancelled scope stays cancelled. -/
theorem act {action : Action τ} (ended : t.Ended s)
    (made : ∀ i, action.scope? = some i → i < t.forest.size) : (t.act action).Ended s := by
  have looks {t : Timeline τ} (i : ScopeId) (ended : t.Ended s) := ended.isCancelled i
  have fires {t : Timeline τ} {timer : Timer τ} {others : List (Timer τ)}
      (_ : t.timers.Perm (timer :: others)) (ended : t.Ended s) :
      (t.fire timer others).Ended s := ended.fire
  have goesOn {t : Timeline τ} (now : τ) (ended : t.Ended s) :
      Ended s { t with now := Clock.later t.now now } := ⟨ended.settled, ended.cancelled⟩
  cases action with
  | background => exact ended.grow (Forest.grown_background ended.settled)
  | child parent timeout =>
      exact (ended.isCancelled parent).grow
        (Forest.grown_child ended.settled t.now timeout (made parent rfl))
  | cancel i cause => exact ended.cancel i cause
  | close i => exact ended.close i
  | isCancelled i => exact ended.isCancelled i
  | error i =>
      rw [Timeline.act, error_snd]
      exact ended.isCancelled i
  | check i =>
      rw [Timeline.act, check_snd]
      exact ended.isCancelled i
  | wait i timeout => exact keeps_wait looks fires goesOn i timeout ended
  | sleep i timeout => exact keeps_sleep looks fires goesOn i timeout ended
  | advance span => exact keeps_advance fires goesOn span none ended
  | setTimer after target cause => exact ⟨ended.settled, ended.cancelled⟩

theorem becomes (ended : t.Ended s) (becomes : t.Becomes t') : t'.Ended s := by
  induction becomes with
  | refl => exact ended
  | act made _ ih => exact ih (ended.act made)

end Ended

/-! ### Nothing is left behind -/

/-- What is left to a scope `c` and to the others there were when scopes were made below it, used
and closed: none of those that were made is linked, all are cancelled with what hangs below them and
ever will, and nothing that was there was changed but by timers, or because the deadline of `c` had
passed. -/
structure Releases (c : ScopeId) (t t' : Timeline τ) : Prop where
  /-- No scope that was made is linked below `c`. -/
  unlinked : ∀ i ∈ t'.forest.children c, i < t.forest.size
  /-- What was made, and what hangs below it then or later, is cancelled. -/
  released {s i : ScopeId} {u : Timeline τ} : t.forest.size ≤ s → s < t'.forest.size →
    t'.Becomes u → u.forest.Above s i → (u.forest.cause? i).isSome
  /-- While `c` is live, what was linked below it is. -/
  linked {i : ScopeId} : i ∈ t.forest.children c → t'.forest.cause? c = none →
    i ∈ t'.forest.children c
  /-- While `c` is live, what was linked below it is cancelled only for the reasons that it has
  without what was made. -/
  error_eq {i : ScopeId} : i ∈ t.forest.children c → t'.forest.cause? c = none →
    i ∉ t.fired t' → t'.forest.cause? i = t.forest.cause? i ∧
      (t'.error i).1 = (Timeline.error { t with now := t'.now } i).1
  /-- What there was is cancelled only by a timer, or with `c` because the deadline has passed. -/
  cause?_cases {i : ScopeId} : i < t.forest.size → t'.forest.cause? i = t.forest.cause? i ∨
    (∃ s ∈ t.fired t', t.forest.Above s i) ∨
      t.forest.Above c i ∧ t.forest.isExpired t'.now c = true

section Release

variable {timeout : Option τ}

omit [Clock.Ordered τ] in
/-- Where no scope was made and nothing has changed, nothing is left behind. -/
theorem Releases.refl (settled : t.forest.Settled) : t.Releases c t where
  unlinked _ mem := Forest.lt_size_of_parent? (settled.parent?_of_mem mem)
  released new inside := absurd inside (Nat.not_lt_of_le new)
  linked mem _ := mem
  error_eq _ _ _ := ⟨rfl, rfl⟩
  cause?_cases _ := .inl rfl

omit [Clock.Ordered τ] in
/-- Two forests that agree about a scope tell the same cause of it. -/
theorem fst_error_congr {u : Timeline τ} (settled : t.forest.Settled) (settled' : u.forest.Settled)
    (made : s < t.forest.size) (made' : s < u.forest.size) (now : u.now = t.now)
    (cause : u.forest.cause? s = t.forest.cause? s)
    (deadline : u.forest.deadline? s = t.forest.deadline? s) : (u.error s).1 = (t.error s).1 := by
  show (u.forest.error u.now s).1 = (t.forest.error t.now s).1
  have expired : u.forest.isExpired t.now s = t.forest.isExpired t.now s := by
    simp only [Forest.isExpired, deadline]
  rw [now]
  unfold Forest.error Forest.isCancelled
  rw [cause, expired]
  cases known : t.forest.cause? s with
  | some known' => simp [known, cause]
  | none =>
      have live : u.forest.cause? s = none := cause.trans known
      by_cases passed : t.forest.isExpired t.now s = true
      · simp [passed, Forest.cause?_cancel_of_above settled made .self known,
          Forest.cause?_cancel_of_above settled' made' .self live]
      · simp [passed]

/-- A scope that is made below another, touched with what hangs below it, and closed, leaves nothing
behind. -/
theorem releases_of_touches (settled : t.forest.Settled) (isTime : IsTime t.now)
    (made : c < t.forest.size)
    (touches : Touches t.forest.size (t.child c timeout).2 t')
    (closed : t'.Closed c t.forest.size) : t.Releases c t' := by
  have opens : t.forest.Spares t.forest.size (t.forest.overdue t.now c)
      (t.child c timeout).2.forest := .opens settled t.now timeout made
  have uses := spares_of_touches opens.rooted isTime touches
  have spares : t.forest.Spares t.forest.size (t.forest.overdue t.now c ++ t.fired t') t'.forest :=
    opens.trans settled (Nat.le_refl _) uses.forest
  have older {i : ScopeId} (mem : i ∈ t.forest.children c) :
      t.forest.parent? i = some c ∧ i < t.forest.size := by
    have hangs := settled.parent?_of_mem mem
    exact ⟨hangs, Forest.lt_size_of_parent? hangs⟩
  have root := spares.rooted
  constructor
  · intro i mem
    by_contra new
    rcases Nat.eq_or_lt_of_le (Nat.not_lt.mp new) with rfl | later
    · exact closed.unlinked mem
    · have hangs := root.settled.parent?_of_mem mem
      exact absurd made (Nat.not_lt_of_le (root.le_parent later hangs))
  · intro s i u new inside becomes above
    have ended : t'.Ended t.forest.size := ⟨root.settled, closed.cancelled⟩
    have here : t'.Ended s := ⟨root.settled, ended.below (root.above new inside)⟩
    exact (here.becomes becomes).below above
  · intro i mem live
    exact spares.linked made live (Nat.ne_of_lt (older mem).2) mem
  · intro i mem live unstruck
    obtain ⟨hangs, inside⟩ := older mem
    have cause : t'.forest.cause? i = t.forest.cause? i := by
      refine (spares.cause?_cases inside).resolve_right ?_
      rintro ⟨s, struck, above⟩
      cases above with
      | self =>
          rcases List.mem_append.mp struck with asked | fired
          · rw [(Forest.mem_overdue_iff.mp asked).1] at hangs
            exact Nat.lt_irrefl _ (settled.parent_lt hangs)
          · exact unstruck fired
      | ofParent hangs' above =>
          -- a scope struck above `c` would have taken `c` with it
          obtain rfl : _ = c := Option.some.inj (hangs'.symm.trans hangs)
          have atMost := settled.le_of_above above
          have cancelled := spares.cancelled struck (Nat.lt_of_le_of_lt atMost made)
          have still := (settled.above_iff (fun _ => spares.parent?_eq) made).mpr above
          have taken := root.settled.cancelled_of_above still cancelled
          rw [live] at taken
          cases taken
    refine ⟨cause, ?_⟩
    exact fst_error_congr (t := { t with now := t'.now }) settled root.settled inside
      (Nat.lt_of_lt_of_le inside spares.size_le) rfl cause (spares.deadline?_eq inside)
  · intro i inside
    rcases spares.cause?_cases inside with same | ⟨s, struck, above⟩
    · exact .inl same
    · rcases List.mem_append.mp struck with asked | fired
      · obtain ⟨rfl, expired⟩ := Forest.mem_overdue_iff.mp asked
        obtain ⟨d, deadline, passed⟩ := (Forest.isExpired_iff ..).mp expired
        have further := Clock.Ordered.le_trans passed uses.forward
        exact .inr (.inr ⟨above, (Forest.isExpired_iff ..).mpr ⟨d, deadline, further⟩⟩)
      · exact .inr (.inl ⟨s, fired, above⟩)

end Release

end Timeline

end Checkup
