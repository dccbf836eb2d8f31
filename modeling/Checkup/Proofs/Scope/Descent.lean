import Checkup.Proofs.Scope.FirstCause
import Mathlib.Data.List.Range
import Mathlib.Logic.Relation

/-!
How a cancel goes down a forest.

A call of `cancel` claims the scope it is made on and calls on the scopes that were linked below it,
in any order, each of which does the same. What it goes down is no tree that is given beforehand but
links, which are taken away on the way. It comes to an end, and to no scope twice, because a link
runs from a scope to a younger one that hangs below it: none is linked below two, and none is
linked, however many links in between, below itself.

Main statements: `Reached.settled` (calls keep the links in order), `Formed.not_transGen_links`
(which form no cycle), `Descended.call` (what each call of `cancel` keeps), `Descends.finish` (the
calls of `spread` are one order among others), and `cancel_calls_each_once`.
-/

namespace Checkup.Forest

variable {τ : Type} {f g : Forest τ} {s p c i : ScopeId} {cause : Fault}
  {called left rest order : List ScopeId} {owed : ScopeId → Prop}

/-! ### Links -/

def Links (f : Forest τ) (p c : ScopeId) : Prop := c ∈ f.children p

namespace Formed

/-- A scope is younger than the one it is linked below. -/
theorem lt_of_links (formed : f.Formed owed) (link : f.Links p c) : p < c :=
  formed.parent_lt (formed.parent?_of_mem link)

/-- No scope is linked below two. -/
theorem eq_of_links (formed : f.Formed owed) {q : ScopeId} (link : f.Links p c)
    (other : f.Links q c) : p = q := by
  have here := formed.parent?_of_mem link
  rw [formed.parent?_of_mem other] at here
  exact (Option.some.inj here).symm

theorem lt_of_transGen_links (formed : f.Formed owed) (path : Relation.TransGen f.Links p c) :
    p < c := by
  induction path with
  | single link => exact formed.lt_of_links link
  | tail _ link ih => exact Nat.lt_trans ih (formed.lt_of_links link)

/-- The links form no cycle. -/
theorem not_transGen_links (formed : f.Formed owed) (i : ScopeId) :
    ¬ Relation.TransGen f.Links i i := by
  intro cycle
  exact Nat.lt_irrefl i (formed.lt_of_transGen_links cycle)

end Formed

/-! ### Forests that calls have made -/

/-- The forests that calls make one after the other, on scopes that there are. Each may be made at
any time of the clock. -/
inductive Reached [Clock τ] : Forest τ → Prop where
  | empty : Reached {}
  | background {f : Forest τ} : Reached f → Reached f.background.2
  | child {f : Forest τ} {p : ScopeId} (now : τ) (timeout : Option τ) :
      Reached f → p < f.size → Reached (f.child now p timeout).2
  | cancel {f : Forest τ} {s : ScopeId} (cause : Fault) :
      Reached f → s < f.size → Reached (f.cancel s cause)
  | close {f : Forest τ} {s : ScopeId} : Reached f → s < f.size → Reached (f.close s)
  | isCancelled {f : Forest τ} {s : ScopeId} (now : τ) :
      Reached f → s < f.size → Reached (f.isCancelled now s).2

/-- Every call keeps the links in order. -/
theorem Reached.settled [Clock τ] (reached : f.Reached) : f.Settled := by
  induction reached with
  | empty => exact Formed.empty
  | background _ ih => exact (grown_background ih).settled
  | child now timeout _ made ih => exact formed_child ih now timeout made
  | cancel cause _ _ ih => exact formed_cancel ih _ cause
  | close _ made ih => exact formed_close ih made
  | isCancelled now _ _ ih => exact formed_isCancelled ih now _

/-! ### What a claim takes -/

theorem isLive_iff : f.IsLive i ↔ ∃ scope, f.get? i = some scope ∧ scope.cause = none := by
  cases found : f.get? i with
  | none => simp [IsLive, get?_eq_none_iff.mp found]
  | some scope =>
      have made : i < f.size := by
        by_contra beyond
        rw [get?_eq_none_iff.mpr (Nat.not_lt.mp beyond)] at found
        cases found
      simp [IsLive, made, cause?, found]

/-- A claim takes what is linked below a live scope. -/
theorem mem_claim_iff : c ∈ (f.claim i cause).1 ↔ f.IsLive i ∧ f.Links i c := by
  by_cases live : f.IsLive i
  · rw [claim_of_live live]
    exact (and_iff_right live).symm
  · rw [claim_of_not_live live]
    simp [live]

/-- What a claim takes depends on the claimed scope alone. -/
theorem fst_claim_eq (same : g.get? i = f.get? i) : (g.claim i cause).1 = (f.claim i cause).1 := by
  have both : g.IsLive i ↔ f.IsLive i := by rw [isLive_iff, isLive_iff, same]
  by_cases live : f.IsLive i
  · rw [claim_of_live live, claim_of_live (both.mpr live), children, children, same]
  · rw [claim_of_not_live live, claim_of_not_live fun h => live (both.mp h)]

theorem Formed.nodup_claim (formed : f.Formed owed) (i : ScopeId) (cause : Fault) :
    (f.claim i cause).1.Nodup := by
  by_cases live : f.IsLive i
  · rw [claim_of_live live]
    exact formed.nodup i
  · rw [claim_of_not_live live]
    exact List.nodup_nil

/-! ### Calls of a cancel -/

/-- `f.Descends s cause called left g`: a cancel of the scope `s` in the forest `f` has called
`cancel` on the scopes `called`, in this order, the scopes `left` are those it has still to call on,
the next first, and the forest is `g` by now. Each call claims its scope and puts those that were
linked below it, in any order, before the others. -/
inductive Descends (f : Forest τ) (s : ScopeId) (cause : Fault) :
    List ScopeId → List ScopeId → Forest τ → Prop where
  | begin : Descends f s cause [] [s] f
  | call {called rest order : List ScopeId} {i : ScopeId} {g : Forest τ} :
      Descends f s cause called (i :: rest) g → order.Perm (g.claim i cause).1 →
      Descends f s cause (called ++ [i]) (order ++ rest) (g.claim i cause).2

/-- The calls that `spread` makes bring a cancel to its end. -/
theorem Descends.finish (descends : f.Descends s cause called left g) :
    f.Descends s cause (called ++ (spread cause left g).1) [] (spread cause left g).2 := by
  induction left, g using spread_induction cause generalizing called with
  | nil g =>
      rw [spread_nil, List.append_nil]
      exact descends
  | cons i rest g ih =>
      have onward := ih (descends.call (.refl _))
      rw [List.append_assoc] at onward
      rw [spread_cons]
      exact onward

/-! ### What each call keeps -/

/-- How far a cancel has come down: it has been called on no scope twice and will not be, only at or
below `s`, on what is linked below a live scope as soon as on that scope, and on nothing else; and
the scopes that it was not called on are as they were. -/
structure Descended (f : Forest τ) (s : ScopeId) (called left : List ScopeId) (g : Forest τ) :
    Prop where
  nodup : (called ++ left).Nodup
  begins : s ∈ called ++ left
  above {i : ScopeId} : i ∈ called ++ left → f.Above s i
  source {i : ScopeId} : i ∈ called ++ left → i = s ∨ ∃ p ∈ called, f.IsLive p ∧ f.Links p i
  below {p i : ScopeId} : p ∈ called → f.IsLive p → f.Links p i → i ∈ called ++ left
  untouched {i : ScopeId} : i ∉ called → g.get? i = f.get? i

namespace Descended

theorem begin (f : Forest τ) (s : ScopeId) : f.Descended s [] [s] f where
  nodup := List.nodup_singleton s
  begins := List.mem_singleton_self s
  above mem := by
    rw [List.mem_singleton.mp mem]
    exact .self
  source mem := .inl (List.mem_singleton.mp mem)
  below mem := absurd mem List.not_mem_nil
  untouched _ := rfl

section Call

variable (descended : f.Descended s called (i :: rest) g)
include descended

theorem next_not_called : i ∉ called := by
  intro mem
  exact (List.nodup_append.mp descended.nodup).2.2 i mem i List.mem_cons_self rfl

/-- The scope that is next was not called on, so what its claim takes is what was linked below it
when the cancel began. -/
theorem claim_eq : (g.claim i cause).1 = (f.claim i cause).1 :=
  fst_claim_eq (descended.untouched descended.next_not_called)

/-- What is linked below the next scope is new: it is neither the scope that the cancel began with,
which is older, nor linked below another that was called on. -/
theorem not_mem_of_links (settled : f.Settled) (link : f.Links i c) : c ∉ called ++ i :: rest := by
  intro mem
  rcases descended.source mem with rfl | ⟨p, before, -, other⟩
  · have next : i ∈ called ++ i :: rest := List.mem_append_right _ List.mem_cons_self
    have older := settled.le_of_above (descended.above next)
    exact Nat.not_lt_of_le older (settled.lt_of_links link)
  · rw [settled.eq_of_links other link] at before
    exact descended.next_not_called before

/-- A call of `cancel` keeps all that. -/
theorem call (settled : f.Settled) (perm : order.Perm (g.claim i cause).1) :
    f.Descended s (called ++ [i]) (order ++ rest) (g.claim i cause).2 := by
  rw [descended.claim_eq] at perm
  have taken {c : ScopeId} : c ∈ order ↔ f.IsLive i ∧ f.Links i c :=
    perm.mem_iff.trans mem_claim_iff
  -- those called on or still to be called on are the ones there were and the ones just taken
  have moved : (called ++ [i] ++ (order ++ rest)).Perm (order ++ (called ++ i :: rest)) := by
    have front : (called ++ [i] ++ order).Perm (order ++ (called ++ [i])) := List.perm_append_comm
    simpa using front.append_right rest
  have all {c : ScopeId} : c ∈ called ++ [i] ++ (order ++ rest) ↔
      c ∈ order ∨ c ∈ called ++ i :: rest := by
    rw [moved.mem_iff, List.mem_append]
  constructor
  · have distinct : order.Nodup := perm.nodup_iff.mpr (settled.nodup_claim i cause)
    apply moved.nodup_iff.mpr
    apply distinct.append descended.nodup
    intro c mem
    exact descended.not_mem_of_links settled (taken.mp mem).2
  · exact all.mpr (.inr descended.begins)
  · intro c mem
    rcases all.mp mem with new | old
    · have next : i ∈ called ++ i :: rest := List.mem_append_right _ List.mem_cons_self
      have hangs := settled.parent?_of_mem (taken.mp new).2
      exact .ofParent hangs (descended.above next)
    · exact descended.above old
  · intro c mem
    rcases all.mp mem with new | old
    · exact .inr ⟨i, List.mem_append_right _ (List.mem_singleton_self i), taken.mp new⟩
    · rcases descended.source old with first | ⟨p, before, linked⟩
      · exact .inl first
      · exact .inr ⟨p, List.mem_append_left _ before, linked⟩
  · intro p c mem live link
    apply all.mpr
    rcases List.mem_append.mp mem with before | last
    · exact .inr (descended.below before live link)
    · obtain rfl := List.mem_singleton.mp last
      exact .inl (taken.mpr ⟨live, link⟩)
  · intro c other
    rw [List.mem_append, not_or] at other
    obtain ⟨fresh, apart⟩ := other
    rw [get?_claim_of_ne fun same => apart (List.mem_singleton.mpr same)]
    exact descended.untouched fresh

end Call

end Descended

/-- However a cancel orders its calls, it has come down like that. -/
theorem Descends.descended (settled : f.Settled) (descends : f.Descends s cause called left g) :
    f.Descended s called left g := by
  induction descends with
  | begin => exact .begin f s
  | call _ perm ih => exact ih.call settled perm

/-! ### Where a cancel ends -/

namespace Descended

/-- A cancel is called on scopes of the forest only. -/
theorem lt_size (descended : f.Descended s called left g) (made : s < f.size) (mem : i ∈ called) :
    i < f.size := by
  obtain ⟨scope, found⟩ := exists_of_above made (descended.above (List.mem_append_left _ mem))
  by_contra beyond
  rw [get?_eq_none_iff.mpr (Nat.not_lt.mp beyond)] at found
  cases found

/-- It makes no more calls than there are scopes. -/
theorem length_le (descended : f.Descended s called left g) (made : s < f.size) :
    called.length ≤ f.size := by
  have distinct : called.Nodup := (List.nodup_append.mp descended.nodup).1
  have inside : called ⊆ List.range f.size := by
    intro i mem
    exact List.mem_range.mpr (descended.lt_size made mem)
  calc called.length
    _ ≤ (List.range f.size).length := (List.subperm_of_subset distinct inside).length_le
    _ = f.size := List.length_range

variable (descended : f.Descended s called [] g) (settled : f.Settled)
include descended settled

/-- A cancel that has come to its end was called on what was live below. -/
theorem mem_of_live (above : f.Above s i) (live : f.cause? i = none) : i ∈ called := by
  have begins := descended.begins
  rw [List.append_nil] at begins
  induction above with
  | self => exact begins
  | ofParent hangs _ ih =>
      have liveAbove := settled.cause?_parent hangs live not_false
      have made := Nat.lt_trans (settled.parent_lt hangs) (lt_size_of_parent? hangs)
      have mem := descended.below (ih liveAbove) ⟨made, liveAbove⟩
        (settled.linked hangs live not_false)
      rwa [List.append_nil] at mem

/-- It was called on the scope it began with, and on what was linked below live scopes from there
on. -/
theorem mem_iff : i ∈ called ↔
    i = s ∨ ∃ p, f.Above s p ∧ f.cause? p = none ∧ f.Links p i := by
  have all : called ++ [] = called := List.append_nil called
  constructor
  · intro mem
    rw [← all] at mem
    rcases descended.source mem with first | ⟨p, before, live, link⟩
    · exact .inl first
    · rw [← all] at before
      exact .inr ⟨p, descended.above before, live.2, link⟩
  · rintro (rfl | ⟨p, above, live, link⟩)
    · exact all ▸ descended.begins
    · have made := lt_size_of_mem_children link
      exact all ▸ descended.below (descended.mem_of_live settled above live) ⟨made, live⟩ link

end Descended

/-- In every forest that calls have made, a link runs to a scope that hangs below the one it is
linked below and was made after it; so none is linked below two, and links form no cycle. However a
cancel orders the calls on the scopes that are linked below one, it makes no more of them than there
are scopes, none twice and each on a scope of the forest, and whatever calls it has made it comes to
its end by some more. Once it has, it was called on all that was live at or below the scope it began
with. The calls that `spread` makes are one order of these. -/
theorem cancel_calls_each_once [Clock τ] (reached : f.Reached) (made : s < f.size)
    (cause : Fault) :
    (∀ p c, f.Links p c → f.parent? c = some p ∧ p < c) ∧
    (∀ p q c, f.Links p c → f.Links q c → p = q) ∧
    (∀ i, ¬ Relation.TransGen f.Links i i) ∧
    f.Descends s cause (spread cause [s] f).1 [] (f.cancel s cause) ∧
    ∀ called left g, f.Descends s cause called left g →
      called.length ≤ f.size ∧ called.Nodup ∧ (∀ i ∈ called, i < f.size) ∧
      (∃ more h, f.Descends s cause (called ++ more) [] h) ∧
      (left = [] →
        (∀ i, f.Above s i → f.cause? i = none → i ∈ called) ∧
        ∀ i, i ∈ called ↔ i = s ∨ ∃ p, f.Above s p ∧ f.cause? p = none ∧ f.Links p i) := by
  have settled := reached.settled
  refine ⟨?_, ?_, settled.not_transGen_links, ?_, ?_⟩
  · intro p c link
    exact ⟨settled.parent?_of_mem link, settled.lt_of_links link⟩
  · intro p q c link other
    exact settled.eq_of_links link other
  · exact Descends.finish .begin
  · intro called left g descends
    have descended := descends.descended settled
    refine ⟨descended.length_le made, (List.nodup_append.mp descended.nodup).1, ?_, ?_, ?_⟩
    · intro i mem
      exact descended.lt_size made mem
    · exact ⟨_, _, descends.finish⟩
    · rintro rfl
      refine ⟨?_, ?_⟩
      · intro i above live
        exact descended.mem_of_live settled above live
      · intro i
        exact descended.mem_iff settled

/-- A scope with two below it: the first is cancelled but still linked, and the second has one more
below. -/
def halfCancelled : Forest Rat :=
  let f := (({} : Forest Rat).background.2.child 0 0 none).2
  ((f.child 1 0 (some 5)).2.child 2 2 none).2.cancel 1 .scopeCancelled

theorem halfCancelled_reached : halfCancelled.Reached := by
  have one : (({} : Forest Rat).background.2.child 0 0 none).2.Reached :=
    .child 0 none (.background .empty) Nat.one_pos
  have two : ((({} : Forest Rat).background.2.child 0 0 none).2.child 1 0 (some 5)).2.Reached :=
    .child 1 (some 5) one (by cbv)
  have three : (((({} : Forest Rat).background.2.child 0 0 none).2.child 1 0 (some 5)).2.child 2 2
      none).2.Reached := .child 2 none two (by cbv)
  exact .cancel _ three (by cbv)

/-- Whatever the order, the same scopes are called on. -/
theorem halfCancelled_is_called_through : halfCancelled.Reached ∧ 0 < halfCancelled.size ∧
    halfCancelled.cause? 1 = some .scopeCancelled ∧ halfCancelled.Links 0 1 ∧
    ∀ called g, halfCancelled.Descends 0 .deadlineExceeded called [] g →
      called.Perm [0, 1, 2, 3] := by
  have made : 0 < halfCancelled.size := by cbv
  have spreads : (spread .deadlineExceeded [0] halfCancelled).1 = [0, 1, 2, 3] := by cbv
  have linked : halfCancelled.children 0 = [1, 2] := by cbv
  obtain ⟨-, -, -, first, each⟩ :=
    cancel_calls_each_once halfCancelled_reached made .deadlineExceeded
  refine ⟨halfCancelled_reached, made, by cbv, ?_, ?_⟩
  · show 1 ∈ halfCancelled.children 0
    rw [linked]
    decide
  · intro called g descends
    obtain ⟨-, once, -, -, ends⟩ := each _ _ _ first
    obtain ⟨-, once', -, -, ends'⟩ := each _ _ _ descends
    rw [spreads] at once ends
    apply (List.perm_ext_iff_of_nodup once' once).mpr
    intro i
    rw [(ends' rfl).2, (ends rfl).2]

end Checkup.Forest
