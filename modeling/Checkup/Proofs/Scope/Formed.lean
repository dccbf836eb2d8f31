import Checkup.Scope
import Mathlib.Data.List.Nodup

/-!
Forests whose links hold together.

A scope hangs below the one it was made under for good; its link is a second, passing tie. In a
`Formed` forest every link runs from a scope to one that hangs below it, a cancelled scope has no
links, and a live scope that hangs below another is linked below it. While scopes are being
cancelled or made the last of these fails for those whose turn is still to come: a forest is formed
up to a set of scopes that are `owed` a cancel or a link.

Main statements: `formed_claim`, `formed_link`, `formed_detach` and `formed_push` (what each atomic
piece makes of the scopes owed), `cancelled_of_above` (when nothing is owed, all that hangs below a
cancelled scope is cancelled).
-/

namespace Checkup.Forest

variable {τ : Type} {f g : Forest τ} {s p c i : ScopeId} {cause known : Fault}

def IsLive (f : Forest τ) (s : ScopeId) : Prop := s < f.size ∧ f.cause? s = none

/-! ### What the pieces change -/

theorem get?_eq_none_iff : f.get? s = none ↔ f.size ≤ s := by
  simp [get?, size]

theorem get?_push (f : Forest τ) (scope : Scope τ) (i : ScopeId) :
    (f.push scope).get? i = if i = f.size then some scope else f.get? i :=
  Array.getElem?_push

theorem get?_modify (f : Forest τ) (s : ScopeId) (change : Scope τ → Scope τ) (i : ScopeId) :
    (f.modify s change).get? i = if s = i then (f.get? i).map change else f.get? i :=
  Array.getElem?_modify

/-- What a change leaves alone is read as before, of every scope. -/
theorem bind_get?_modify {β : Type} {field : Scope τ → Option β} {change : Scope τ → Scope τ}
    (keeps : ∀ scope, field (change scope) = field scope) (f : Forest τ) (s i : ScopeId) :
    ((f.modify s change).get? i).bind field = (f.get? i).bind field := by
  rw [get?_modify]
  split
  · cases f.get? i with
    | none => rfl
    | some scope => exact keeps scope
  · rfl

@[simp] theorem size_push (f : Forest τ) (scope : Scope τ) : (f.push scope).size = f.size + 1 := by
  simp [push, size]

@[simp] theorem size_modify (f : Forest τ) (s : ScopeId) (change : Scope τ → Scope τ) :
    (f.modify s change).size = f.size := by
  simp [modify, size]

/-- What hangs below another scope was made. -/
theorem lt_size_of_parent? (h : f.parent? s = some p) : s < f.size := by
  by_contra notMade
  simp [parent?, get?_eq_none_iff.mpr (Nat.not_lt.mp notMade)] at h

theorem lt_size_of_deadline? {d : τ} (h : f.deadline? s = some d) : s < f.size := by
  by_contra notMade
  simp [deadline?, get?_eq_none_iff.mpr (Nat.not_lt.mp notMade)] at h

theorem lt_size_of_cause? (h : f.cause? s = some known) : s < f.size := by
  by_contra notMade
  simp [cause?, get?_eq_none_iff.mpr (Nat.not_lt.mp notMade)] at h

theorem lt_size_of_mem_children (h : c ∈ f.children p) : p < f.size := by
  by_contra notMade
  simp [children, get?_eq_none_iff.mpr (Nat.not_lt.mp notMade)] at h

/-- A scope that is not live cannot be claimed. -/
theorem claim_of_not_live (h : ¬ f.IsLive s) (cause : Fault) : f.claim s cause = ([], f) := by
  cases known : f.cause? s with
  | some known' => exact claim_of_cancelled known cause
  | none =>
      have notMade : ¬ s < f.scopes.size := fun lt => h ⟨lt, known⟩
      simp [claim, notMade]

/-- To claim a live scope takes its links and leaves the cause. -/
theorem claim_of_live (h : f.IsLive s) (cause : Fault) :
    f.claim s cause = (f.children s,
      f.modify s fun scope => { scope with cause := some cause, children := [] }) := by
  obtain ⟨lt, none⟩ := h
  have lt' : s < f.scopes.size := lt
  have noCause : f.scopes[s].cause = .none := by
    simpa [cause?, get?, Array.getElem?_eq_getElem lt'] using none
  unfold claim
  rw [dif_pos lt']
  simp only [noCause]
  refine Prod.ext ?_ ?_
  · simp [children, get?, lt']
  · simp only [modify, mk.injEq]
    apply Array.ext_getElem?
    intro i
    rw [Array.getElem?_set, Array.getElem?_modify]
    split
    · rename_i same
      subst same
      simp [Array.getElem?_eq_getElem lt']
    · rfl

/-! Claiming a scope touches its cause and its links only. -/

@[simp] theorem size_claim (f : Forest τ) (s : ScopeId) (cause : Fault) :
    (f.claim s cause).2.size = f.size := by
  by_cases live : f.IsLive s
  · simp [claim_of_live live]
  · simp [claim_of_not_live live]

@[simp] theorem parent?_claim (f : Forest τ) (s : ScopeId) (cause : Fault) (i : ScopeId) :
    (f.claim s cause).2.parent? i = f.parent? i := by
  by_cases live : f.IsLive s
  · rw [claim_of_live live]
    refine bind_get?_modify (fun _ => ?_) ..
    rfl
  · rw [claim_of_not_live live]

@[simp] theorem deadline?_claim (f : Forest τ) (s : ScopeId) (cause : Fault) (i : ScopeId) :
    (f.claim s cause).2.deadline? i = f.deadline? i := by
  by_cases live : f.IsLive s
  · rw [claim_of_live live]
    refine bind_get?_modify (fun _ => ?_) ..
    rfl
  · rw [claim_of_not_live live]

theorem cause?_claim_self (h : f.IsLive s) (cause : Fault) :
    (f.claim s cause).2.cause? s = some cause := by
  have made : f.get? s ≠ none := fun none => absurd h.1 (Nat.not_lt.mpr (get?_eq_none_iff.mp none))
  obtain ⟨scope, found⟩ := Option.ne_none_iff_exists'.mp made
  simp [claim_of_live h, cause?, get?_modify, found]

theorem cause?_claim_of_ne (h : i ≠ s) (cause : Fault) :
    (f.claim s cause).2.cause? i = f.cause? i := by
  by_cases live : f.IsLive s
  · simp [claim_of_live live, cause?, get?_modify, h.symm]
  · rw [claim_of_not_live live]

theorem children_claim_self (h : f.IsLive s) (cause : Fault) :
    (f.claim s cause).2.children s = [] := by
  simp only [claim_of_live h, children, get?_modify, if_pos]
  cases f.get? s <;> rfl

theorem children_claim_of_ne (h : i ≠ s) (cause : Fault) :
    (f.claim s cause).2.children i = f.children i := by
  by_cases live : f.IsLive s
  · simp [claim_of_live live, children, get?_modify, h.symm]
  · rw [claim_of_not_live live]

/-- The scopes that a claim takes were linked below the one claimed. -/
theorem mem_children_of_mem_claim (mem : c ∈ (f.claim s cause).1) : c ∈ f.children s := by
  by_cases live : f.IsLive s
  · rwa [claim_of_live live] at mem
  · rw [claim_of_not_live live] at mem
    exact absurd mem List.not_mem_nil

/-- A claim links nothing. -/
theorem mem_children_of_claim (mem : c ∈ (f.claim s cause).2.children p) : c ∈ f.children p := by
  by_cases same : p = s
  · subst same
    by_cases live : f.IsLive p
    · rw [children_claim_self live] at mem
      exact absurd mem List.not_mem_nil
    · rwa [claim_of_not_live live] at mem
  · rwa [children_claim_of_ne same] at mem

/-- A cause once set stays, whatever is claimed. -/
theorem cause?_claim_of_some (h : f.cause? i = some known) (s : ScopeId) (cause : Fault) :
    (f.claim s cause).2.cause? i = some known := by
  by_cases same : i = s
  · subst same
    rw [claim_of_cancelled h]
    exact h
  · rw [cause?_claim_of_ne same, h]

/-- A scope that is there has a cause once it is claimed, by this claim or by one before. -/
theorem isSome_cause?_claim (made : s < f.size) (cause : Fault) :
    ((f.claim s cause).2.cause? s).isSome := by
  cases before : f.cause? s with
  | none =>
      rw [cause?_claim_self ⟨made, before⟩]
      rfl
  | some known =>
      rw [cause?_claim_of_some before]
      rfl

/-! Linking and unlinking touch links only. -/

section Links

variable (f : Forest τ) (p c i : ScopeId)

@[simp] theorem size_link : (f.link p c).size = f.size := size_modify ..

@[simp] theorem parent?_link : (f.link p c).parent? i = f.parent? i := by
  refine bind_get?_modify (fun _ => ?_) ..
  rfl

@[simp] theorem deadline?_link : (f.link p c).deadline? i = f.deadline? i := by
  refine bind_get?_modify (fun _ => ?_) ..
  rfl

@[simp] theorem cause?_link : (f.link p c).cause? i = f.cause? i := by
  refine bind_get?_modify (fun _ => ?_) ..
  rfl

/-- A link is the last one of the scope it is added to. -/
theorem children_link :
    (f.link p c).children i = if i = p ∧ p < f.size then f.children p ++ [c] else f.children i := by
  by_cases same : i = p
  · subst same
    simp only [link, children, get?_modify, if_pos, true_and]
    cases found : f.get? i with
    | none => simp [Nat.not_lt.mpr (get?_eq_none_iff.mp found)]
    | some scope =>
        have made : i < f.size := by
          by_contra notMade
          simp [get?_eq_none_iff.mpr (Nat.not_lt.mp notMade)] at found
        simp [made]
  · simp [link, children, get?_modify, same, Ne.symm same]

@[simp] theorem size_detach : (f.detach p c).size = f.size := size_modify ..

@[simp] theorem parent?_detach : (f.detach p c).parent? i = f.parent? i := by
  refine bind_get?_modify (fun _ => ?_) ..
  rfl

@[simp] theorem deadline?_detach : (f.detach p c).deadline? i = f.deadline? i := by
  refine bind_get?_modify (fun _ => ?_) ..
  rfl

@[simp] theorem cause?_detach : (f.detach p c).cause? i = f.cause? i := by
  refine bind_get?_modify (fun _ => ?_) ..
  rfl

theorem children_detach :
    (f.detach p c).children i = if i = p then (f.children p).erase c else f.children i := by
  by_cases same : i = p
  · subst same
    simp only [detach, children, get?_modify, if_pos]
    cases f.get? i <;> rfl
  · simp [detach, children, get?_modify, same, Ne.symm same]

end Links

/-! A scope that is added changes nothing for those there are. -/

section Push

variable (f : Forest τ) (scope : Scope τ)

theorem parent?_push :
    (f.push scope).parent? i = if i = f.size then scope.parent else f.parent? i := by
  simp only [parent?, get?_push]
  split <;> rfl

theorem deadline?_push :
    (f.push scope).deadline? i = if i = f.size then scope.deadline else f.deadline? i := by
  simp only [deadline?, get?_push]
  split <;> rfl

theorem cause?_push :
    (f.push scope).cause? i = if i = f.size then scope.cause else f.cause? i := by
  simp only [cause?, get?_push]
  split <;> rfl

theorem children_push :
    (f.push scope).children i = if i = f.size then scope.children else f.children i := by
  simp only [children, get?_push]
  split <;> rfl

end Push

/-! ### Ancestors -/

/-- `f.Above a s`: the scope `a` is `s` or an ancestor of `s`. -/
inductive Above (f : Forest τ) (a : ScopeId) : ScopeId → Prop where
  | self : Above f a a
  | ofParent {s p : ScopeId} : f.parent? s = some p → Above f a p → Above f a s

/-- What is above a scope above is above. -/
theorem Above.trans {a b : ScopeId} (upper : f.Above a b) (lower : f.Above b s) :
    f.Above a s := by
  induction lower with
  | self => exact upper
  | ofParent hangs _ ih => exact .ofParent hangs ih

/-- Ancestors depend on nothing but where scopes hang. -/
theorem Above.of_parent?_eq {a : ScopeId} (same : ∀ i, i < f.size → g.parent? i = f.parent? i)
    (h : f.Above a s) : g.Above a s := by
  induction h with
  | self => exact .self
  | ofParent hangs _ ih => exact .ofParent ((same _ (lt_size_of_parent? hangs)).trans hangs) ih

/-! ### Formed forests -/

/-- A forest whose links hold together but for the scopes that are owed a cancel or a link. -/
structure Formed (owed : ScopeId → Prop) (f : Forest τ) : Prop where
  parent_lt {s p : ScopeId} : f.parent? s = some p → p < s
  parent?_of_mem {p c : ScopeId} : c ∈ f.children p → f.parent? c = some p
  nodup (p : ScopeId) : (f.children p).Nodup
  children_of_cause {s : ScopeId} {cause : Fault} : f.cause? s = some cause → f.children s = []
  linked {s p : ScopeId} : f.parent? s = some p → f.cause? s = none → ¬ owed s → s ∈ f.children p

variable {owed : ScopeId → Prop}

namespace Formed

/-- A forest that owes less is formed where one is that owes more. -/
theorem mono {owed' : ScopeId → Prop} (formed : f.Formed owed) (weaker : ∀ s, owed s → owed' s) :
    f.Formed owed' :=
  { formed with linked := fun hangs live settled =>
      formed.linked hangs live fun h => settled (weaker _ h) }

theorem empty : Formed owed ({} : Forest τ) := by
  have none (s : ScopeId) : ({} : Forest τ).get? s = .none := rfl
  constructor <;> intros <;> simp_all [parent?, children, cause?]

/-- Scopes above are older. -/
theorem le_of_above {a : ScopeId} (formed : f.Formed owed) (h : f.Above a s) : a ≤ s := by
  induction h with
  | self => exact Nat.le_refl a
  | ofParent hangs _ ih => exact Nat.le_trans ih (Nat.le_of_lt (formed.parent_lt hangs))

/-- The scopes above one that is made are where they were. -/
theorem above_iff {a : ScopeId} (formed : f.Formed owed)
    (same : ∀ i, i < f.size → g.parent? i = f.parent? i) (made : s < f.size) :
    g.Above a s ↔ f.Above a s := by
  constructor
  · intro above
    induction above with
    | self => exact .self
    | ofParent hangs _ ih =>
        rw [same _ made] at hangs
        exact .ofParent hangs (ih (Nat.lt_trans (formed.parent_lt hangs) made))
  · exact Above.of_parent?_eq same

/-- A live scope that is owed nothing hangs below a live scope. -/
theorem cause?_parent (formed : f.Formed owed) (hangs : f.parent? s = some p)
    (live : f.cause? s = none) (settled : ¬ owed s) : f.cause? p = none := by
  have linked := formed.linked hangs live settled
  cases known : f.cause? p with
  | none => rfl
  | some cause =>
      rw [formed.children_of_cause known] at linked
      exact absurd linked List.not_mem_nil

/-- When nothing is owed, all that hangs below a cancelled scope is cancelled. -/
theorem cancelled_of_above {a : ScopeId} (formed : f.Formed fun _ => False) (h : f.Above a s)
    (cancelled : (f.cause? a).isSome) : (f.cause? s).isSome := by
  induction h with
  | self => exact cancelled
  | ofParent hangs _ ih =>
      by_contra live
      have noCause := Option.not_isSome_iff_eq_none.mp live
      rw [formed.cause?_parent hangs noCause not_false] at ih
      simp at ih

/-! ### Steps -/

/-- Claiming a scope settles what it was owed; the scopes that were linked below it are owed a
cancel from then on. -/
theorem formed_claim (formed : f.Formed owed) (s : ScopeId) (cause : Fault) :
    (f.claim s cause).2.Formed fun c => c ∈ (f.claim s cause).1 ∨ owed c ∧ c ≠ s := by
  by_cases live : f.IsLive s
  · constructor
    · intro i p h
      exact formed.parent_lt (by simpa using h)
    · intro p c h
      rw [parent?_claim]
      exact formed.parent?_of_mem (mem_children_of_claim h)
    · intro p
      by_cases same : p = s
      · subst same
        simp [children_claim_self live]
      · rw [children_claim_of_ne same]
        exact formed.nodup p
    · intro i known h
      by_cases same : i = s
      · subst same
        exact children_claim_self live cause
      · rw [cause?_claim_of_ne same] at h
        rw [children_claim_of_ne same]
        exact formed.children_of_cause h
    · intro i p hangs noCause settled
      have other : i ≠ s := by
        rintro rfl
        simp [cause?_claim_self live] at noCause
      rw [cause?_claim_of_ne other] at noCause
      rw [parent?_claim] at hangs
      push Not at settled
      have linked := formed.linked hangs noCause fun h => other (settled.2 h)
      by_cases same : p = s
      · subst same
        rw [claim_of_live live] at settled
        exact absurd linked settled.1
      · rwa [children_claim_of_ne same]
  · rw [claim_of_not_live live]
    refine { formed with linked := fun {i p} hangs noCause settled => ?_ }
    refine formed.linked hangs noCause fun h => settled (.inr ⟨h, ?_⟩)
    rintro rfl
    exact live ⟨lt_size_of_parent? hangs, noCause⟩

/-- Linking a scope below the live one that it hangs below settles what it was owed. -/
theorem formed_link (formed : f.Formed owed) (hangs : f.parent? c = some p)
    (live : f.cause? p = none) (unlinked : c ∉ f.children p) :
    (f.link p c).Formed fun i => owed i ∧ i ≠ c := by
  have made : p < f.size := Nat.lt_trans (formed.parent_lt hangs) (lt_size_of_parent? hangs)
  constructor
  · intro i q h
    exact formed.parent_lt (by simpa using h)
  · intro q i h
    rw [children_link] at h
    rw [parent?_link]
    split at h
    · rename_i here
      rcases List.mem_append.mp h with old | new
      · rw [here.1]
        exact formed.parent?_of_mem old
      · rw [List.mem_singleton.mp new, here.1]
        exact hangs
    · exact formed.parent?_of_mem h
  · intro q
    rw [children_link]
    split
    · rw [← List.concat_eq_append]
      exact List.Nodup.concat unlinked (formed.nodup p)
    · exact formed.nodup q
  · intro i known h
    rw [cause?_link] at h
    have other : i ≠ p := by
      rintro rfl
      rw [live] at h
      cases h
    rw [children_link, if_neg fun here => other here.1]
    exact formed.children_of_cause h
  · intro i q above noCause settled
    rw [parent?_link] at above
    rw [cause?_link] at noCause
    rw [children_link]
    by_cases same : i = c
    · subst same
      obtain rfl : p = q := Option.some.inj (hangs.symm.trans above)
      simp [made]
    · have linked := formed.linked above noCause fun h => settled ⟨h, same⟩
      split
      · rename_i here
        rw [here.1] at linked
        exact List.mem_append_left _ linked
      · exact linked

/-- A scope that is cancelled, or will be, can be unlinked. -/
theorem formed_detach (formed : f.Formed owed) (p : ScopeId)
    (ended : (f.cause? c).isSome ∨ owed c) : (f.detach p c).Formed owed := by
  constructor
  · intro i q h
    exact formed.parent_lt (by simpa using h)
  · intro q i h
    rw [parent?_detach]
    rw [children_detach] at h
    split at h
    · rename_i here
      rw [here]
      exact formed.parent?_of_mem (List.mem_of_mem_erase h)
    · exact formed.parent?_of_mem h
  · intro q
    rw [children_detach]
    split
    · exact (formed.nodup p).erase c
    · exact formed.nodup q
  · intro i known h
    rw [cause?_detach] at h
    rw [children_detach]
    split
    · rename_i here
      rw [here] at h
      simp [formed.children_of_cause h]
    · exact formed.children_of_cause h
  · intro i q above noCause settled
    rw [parent?_detach] at above
    rw [cause?_detach] at noCause
    have linked := formed.linked above noCause settled
    have other : i ≠ c := by
      rintro rfl
      rcases ended with h | h
      · simp [noCause] at h
      · exact settled h
    rw [children_detach]
    split
    · rename_i here
      rw [here] at linked
      exact (List.mem_erase_of_ne other).mpr linked
    · exact linked

/-- A scope that is added below one that there is, not linked yet, is owed a link. -/
theorem formed_push (formed : f.Formed owed) (deadline : Option τ) {parent : Option ScopeId}
    (made : ∀ p, parent = some p → p < f.size) :
    (f.push { parent, deadline }).Formed fun i => owed i ∨ i = f.size ∧ parent.isSome := by
  constructor
  · intro i p h
    rw [parent?_push] at h
    split at h
    · rename_i new
      rw [new]
      exact made p h
    · exact formed.parent_lt h
  · intro p i h
    rw [children_push] at h
    split at h
    · simp at h
    · have hangs := formed.parent?_of_mem h
      rw [parent?_push, if_neg (Nat.ne_of_lt (lt_size_of_parent? hangs))]
      exact hangs
  · intro p
    rw [children_push]
    split
    · exact List.nodup_nil
    · exact formed.nodup p
  · intro i known h
    rw [cause?_push] at h
    rw [children_push]
    split at h
    · cases h
    · rename_i old
      rw [if_neg old]
      exact formed.children_of_cause h
  · intro i p hangs noCause settled
    rw [parent?_push] at hangs
    rw [cause?_push] at noCause
    split at hangs
    · rename_i new
      simp only at hangs
      exact absurd (.inr ⟨new, by rw [hangs]; rfl⟩) settled
    · rename_i old
      rw [if_neg old] at noCause
      have linked := formed.linked hangs noCause fun h => settled (.inl h)
      rw [children_push, if_neg (Nat.ne_of_lt (lt_size_of_mem_children linked))]
      exact linked

end Formed

end Checkup.Forest
