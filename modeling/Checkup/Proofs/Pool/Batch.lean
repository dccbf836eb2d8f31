import Checkup.Proofs.Pool.Executions
import Checkup.Proofs.Pool.Slots
import Mathlib.Data.List.Perm.Subperm

/-!
A batch loses nothing, does nothing twice, and never gets stuck.

An item is submitted, in the hands of the caller, or still ahead. What the caller has collected was
returned, each result by another task, and it leaves without a fault only with all of them.

Main statements: `itemized_step` and `gathered_step` (what a step keeps), `canGoOn_of_unreleased`
(while a task has not given its slot back, one can go on), `canGoOn` (some step can be made unless
the caller has left) and `completes_batch`.
-/

namespace Checkup.Pool

variable {α β γ : Type} {p p' : Pool α β} {s : Step β} {steps : List (Step β)} {items : List α}
  {size k : Nat} {stage : TaskStage β} {r : Except Fault β}

/-! ### Items -/

def inHand : Caller α → List α
  | .holding item | .ready item => [item]
  | _ => []

/-- The items of a batch are, in order: submitted, in the hands of the caller, still ahead. Once the
caller collects, none is ahead. -/
structure Itemized (items : List α) (p : Pool α β) : Prop where
  items_eq : p.tasks.map Task.item ++ inHand p.caller ++ p.ahead = items
  drained : p.caller = .taking ∨ inHand p.caller ≠ [] ∨ p.ahead = []

theorem itemized_start (size : Nat) (items : List α) :
    (start size items : Pool α β).Itemized items :=
  ⟨rfl, .inl rfl⟩

/-- The item of a task is the one in its place. -/
theorem Itemized.item_eq (itemized : p.Itemized items) {task : Task α β}
    (here : p.tasks[k]? = some task) : items[k]? = some task.item := by
  have inside : k < (p.tasks.map Task.item).length := by
    rw [List.length_map]
    exact (List.getElem?_eq_some_iff.mp here).1
  rw [← itemized.items_eq, List.append_assoc, List.getElem?_append_left inside,
    List.getElem?_map, here, Option.map_some]

/-- A step keeps the items. -/
theorem itemized_step (itemized : p.Itemized items) (makes : p.step s = some p') :
    p'.Itemized items := by
  obtain ⟨items_eq, drained⟩ := itemized
  have moves (k : Nat) (stage : TaskStage β) :
      (p.setStage k stage).tasks.map Task.item ++ inHand p.caller ++ p.ahead = items := by
    rw [items_setStage]
    exact items_eq
  -- a caller that takes no more items has none in its hands, and none is ahead
  have leaves (next : Caller α) (empty : inHand next = []) (here : inHand p.caller = [])
      (done : p.caller ≠ .taking) : ({ p with caller := next } : Pool α β).Itemized items := by
    refine ⟨?_, .inr (.inr ?_)⟩
    · rw [empty, ← here]
      exact items_eq
    · rcases drained with taking | inHand | ahead
      · exact absurd taking done
      · exact absurd here inHand
      · exact ahead
  cases move_of_step makes with
  | take item rest caller ahead =>
      refine ⟨?_, .inr (.inl (List.cons_ne_nil _ _))⟩
      rw [← items_eq, ahead, caller]
      simp [inHand]
  | drain caller ahead =>
      refine ⟨?_, .inr (.inr ahead)⟩
      rw [← items_eq, caller]
      rfl
  | acquire item caller free =>
      refine ⟨?_, .inr (.inl (List.cons_ne_nil _ _))⟩
      rw [← items_eq, caller]
      rfl
  | submit item caller =>
      refine ⟨?_, .inl rfl⟩
      rw [← items_eq, caller]
      simp [inHand]
  | begin k queued => exact ⟨moves k .running, drained⟩
  | finish k r running => exact ⟨moves k (.ended r), drained⟩
  | release k r ended => exact ⟨moves k (.released r), drained⟩
  | collect k value caller result new => exact ⟨items_eq, drained⟩
  | fail k fault caller result =>
      exact leaves (.failing fault) rfl (by rw [caller]; rfl) (by rw [caller]; rintro ⟨⟩)
  | leave caller done all =>
      exact leaves (.left none) rfl (by rw [caller]; rfl) (by rw [caller]; rintro ⟨⟩)
  | leaveFailing fault caller done =>
      exact leaves (.left fault) rfl (by rw [caller]; rfl) (by rw [caller]; rintro ⟨⟩)

/-! ### Collecting -/

/-- What is collected was returned, each by another task. The caller leaves without a fault only
with all of it, and has a fault only from a task. -/
structure Gathered (p : Pool α β) : Prop where
  nodup : (p.collected.map Prod.fst).Nodup
  result {k : Nat} {value : β} : (k, value) ∈ p.collected → p.result? k = some (.ok value)
  complete : p.caller = .left none → p.allReleased ∧ p.collected.length = p.tasks.length
  failing {fault : Fault} : p.caller = .failing fault → ∃ k, p.result? k = some (.error fault)
  raised {fault : Fault} : p.caller = .left (some fault) → ∃ k, p.result? k = some (.error fault)

theorem gathered_start (size : Nat) (items : List α) : (start size items : Pool α β).Gathered :=
  ⟨List.nodup_nil, fun mem => absurd mem List.not_mem_nil, nofun, nofun, nofun⟩

/-- Where every task has given its slot back there is none at another stage. -/
theorem isReleased_of_allReleased (all : p.allReleased) (here : p.stage? k = some stage) :
    stage.isReleased := by
  obtain ⟨t, there, rfl⟩ := Option.map_eq_some_iff.mp here
  exact List.all_eq_true.mp all t (List.mem_of_getElem? there)

namespace Gathered

/-- A step at which the caller collects nothing and stays where it is. -/
theorem of_eq (gathered : p.Gathered) (makes : p.step s = some p')
    (collected : p'.collected = p.collected) (caller : p'.caller = p.caller)
    (goes : ¬ p.allReleased) : p'.Gathered := by
  have keeps {j : Nat} {r : Except Fault β} (done : p.result? j = some r) : p'.result? j = some r :=
    result?_of_move (move_of_step makes) done
  constructor
  · rw [collected]
    exact gathered.nodup
  · intro k value mem
    rw [collected] at mem
    exact keeps (gathered.result mem)
  · intro left
    rw [caller] at left
    exact absurd (gathered.complete left).1 goes
  · intro fault failing
    rw [caller] at failing
    obtain ⟨k, done⟩ := gathered.failing failing
    exact ⟨k, keeps done⟩
  · intro fault raised
    rw [caller] at raised
    obtain ⟨k, done⟩ := gathered.raised raised
    exact ⟨k, keeps done⟩

end Gathered

/-- A step keeps what is collected in agreement with what was returned. -/
theorem gathered_step (gathered : p.Gathered) (makes : p.step s = some p') : p'.Gathered := by
  have unreleased {k : Nat} {stage : TaskStage β} (here : p.stage? k = some stage)
      (holds : stage.isReleased = false) : ¬ p.allReleased := by
    intro all
    rw [isReleased_of_allReleased all here] at holds
    cases holds
  cases move_of_step makes with
  | begin k queued => exact gathered.of_eq makes rfl rfl (unreleased queued rfl)
  | finish k r running => exact gathered.of_eq makes rfl rfl (unreleased running rfl)
  | release k r ended => exact gathered.of_eq makes rfl rfl (unreleased ended rfl)
  | submit item caller =>
      have keeps {k : Nat} {value : β} (mem : (k, value) ∈ p.collected) :=
        result?_of_move (move_of_step makes) (gathered.result mem)
      exact ⟨gathered.nodup, keeps, nofun, nofun, nofun⟩
  | take | drain | acquire => exact ⟨gathered.nodup, gathered.result, nofun, nofun, nofun⟩
  | collect k value caller result new =>
      refine ⟨?_, fun {j v} mem => ?_, fun left => ?_, gathered.failing, gathered.raised⟩
      · rw [List.map_append, List.map_singleton, ← List.concat_eq_append]
        refine List.Nodup.concat ?_ gathered.nodup
        intro mem
        obtain ⟨c, collected, same⟩ := List.mem_map.mp mem
        exact new c collected same
      · rcases List.mem_append.mp mem with old | added
        · exact gathered.result old
        · cases List.mem_singleton.mp added
          exact result
      · rw [caller] at left
        cases left
  | fail k fault caller result =>
      refine ⟨gathered.nodup, gathered.result, nofun, fun failing => ?_, nofun⟩
      cases failing
      exact ⟨k, result⟩
  | leave caller done all =>
      exact ⟨gathered.nodup, gathered.result, fun _ => ⟨done, all⟩, nofun, nofun⟩
  | leaveFailing fault caller done =>
      refine ⟨gathered.nodup, gathered.result, nofun, nofun, fun raised => ?_⟩
      cases raised
      exact gathered.failing caller

/-! ### Progress -/

/-- A step can be made: a task that runs can end, whatever it comes to, or there is a step that does
not wait for a task to end. -/
def CanGoOn (p : Pool α β) : Prop :=
  (∃ k, ∀ r, (p.step (.finish k r)).isSome) ∨
    ∃ s, (∀ k r, s ≠ .finish k r) ∧ (p.step s).isSome

/-- While a task has not given its slot back, one can go on: one that runs can end, one that has
ended can give its slot back, and if there are none of these the first in line can begin. -/
theorem canGoOn_of_unreleased (workers : 0 < p.size) (counts : 0 < p.unreleased) : p.CanGoOn := by
  by_cases runs : 0 < p.running
  · obtain ⟨k, stage, here, running, -⟩ := exists_first runs
    refine .inl ⟨k, fun r => ?_⟩
    cases stage with
    | running => simp [step, here]
    | queued | ended r | released r => cases running
  have none : p.running = 0 := Nat.eq_zero_of_not_pos runs
  by_cases waits : 0 < p.count TaskStage.isQueued
  · obtain ⟨k, stage, here, queued, first⟩ := exists_first waits
    refine .inr ⟨.begin k, by rintro _ _ ⟨⟩, ?_⟩
    cases stage with
    | queued => simp [step, here, none, workers, first]
    | running | ended r | released r => cases queued
  · obtain ⟨k, stage, here, holds, -⟩ := exists_first counts
    refine .inr ⟨.release k, by rintro _ _ ⟨⟩, ?_⟩
    cases stage with
    | queued => exact absurd (count_pos here rfl) waits
    | running => exact absurd (count_pos here rfl) runs
    | ended r => simp [step, here]
    | released r => cases holds

/-- Where no task holds a slot all have given theirs back. -/
theorem allReleased_of_unreleased_eq_zero (none : p.unreleased = 0) : p.allReleased := by
  refine List.all_eq_true.mpr fun t mem => ?_
  simpa using List.countP_eq_zero.mp none t mem

/-- Where all tasks have given their slots back every one has a result. -/
theorem exists_result?_of_allReleased (all : p.allReleased) (inside : k < p.tasks.length) :
    ∃ r, p.stage? k = some (.released r) := by
  have here : p.stage? k = some p.tasks[k].stage := by simp [stage?, inside]
  have done := isReleased_of_allReleased all here
  cases stage : p.tasks[k].stage with
  | released r => exact ⟨r, by rw [here, stage]⟩
  | queued | running | ended r =>
      rw [stage] at done
      cases done

/-- A list of all numbers below a bound, each once. -/
theorem perm_range {l : List Nat} {n : Nat} (nodup : l.Nodup) (mem_iff : ∀ k, k ∈ l ↔ k < n) :
    l.Perm (List.range n) := by
  refine (List.perm_ext_iff_of_nodup nodup List.nodup_range).mpr fun k => ?_
  rw [mem_iff, List.mem_range]

/-- What is collected is of tasks. -/
theorem Gathered.subset_range (gathered : p.Gathered) :
    p.collected.map Prod.fst ⊆ List.range p.tasks.length := by
  intro k mem
  obtain ⟨c, collected, rfl⟩ := List.mem_map.mp mem
  exact List.mem_range.mpr (lt_length_of_result? (gathered.result collected))

/-- Where as much is collected as there are tasks, something is of each. -/
theorem Gathered.keys_perm (gathered : p.Gathered)
    (complete : p.collected.length = p.tasks.length) :
    (p.collected.map Prod.fst).Perm (List.range p.tasks.length) := by
  have length : (List.range p.tasks.length).length ≤ (p.collected.map Prod.fst).length := by
    rw [List.length_range, List.length_map]
    exact Nat.le_of_eq complete.symm
  exact (List.subperm_of_subset gathered.nodup gathered.subset_range).perm_of_length_le length

/-- While results are left, the caller can collect one. -/
theorem canGoOn_of_uncollected (gathered : p.Gathered) (caller : p.caller = .collecting)
    (all : p.allReleased) (fewer : p.collected.length ≠ p.tasks.length) : p.CanGoOn := by
  have left : ∃ k < p.tasks.length, k ∉ p.collected.map Prod.fst := by
    by_contra none
    push Not at none
    have keys : (p.collected.map Prod.fst).Perm (List.range p.tasks.length) := by
      refine perm_range gathered.nodup fun k => ⟨fun mem => ?_, none k⟩
      obtain ⟨c, collected, rfl⟩ := List.mem_map.mp mem
      exact lt_length_of_result? (gathered.result collected)
    have length := keys.length_eq
    rw [List.length_map, List.length_range] at length
    exact fewer length
  obtain ⟨k, inside, uncollected⟩ := left
  obtain ⟨r, released⟩ := exists_result?_of_allReleased all inside
  refine .inr ⟨.collect k, by rintro _ _ ⟨⟩, ?_⟩
  cases r with
  | error fault => simp [step, caller, released, TaskStage.result?]
  | ok value =>
      have new : (p.collected.any fun c => c.1 == k) = false := by
        refine List.any_eq_false.mpr fun c collected same => uncollected ?_
        exact List.mem_map.mpr ⟨c, collected, beq_iff_eq.mp same⟩
      simp only [step, caller, released, Option.bind_some, TaskStage.result?, new]
      rfl

/-- Unless the caller has left a step can be made. -/
theorem canGoOn (workers : 0 < p.size) (slotted : p.Slotted size items) (gathered : p.Gathered)
    (unfinished : ¬ p.IsFinal) : p.CanGoOn := by
  by_cases unreleased : 0 < p.unreleased
  · exact canGoOn_of_unreleased workers unreleased
  have none : p.unreleased = 0 := Nat.eq_zero_of_not_pos unreleased
  have all : p.allReleased := allReleased_of_unreleased_eq_zero none
  cases caller : p.caller with
  | taking =>
      refine .inr ⟨.take, by rintro _ _ ⟨⟩, ?_⟩
      cases ahead : p.ahead with
      | nil => simp [step, caller, ahead]
      | cons item rest => simp [step, caller, ahead]
  | holding item =>
      have free : 0 < p.slots := by
        have slots_eq := slotted.slots_eq
        rw [held, none, caller, ← slotted.size_eq] at slots_eq
        change p.slots = p.size - ((0 : Nat) : Int) at slots_eq
        omega
      refine .inr ⟨.acquire, by rintro _ _ ⟨⟩, ?_⟩
      simp [step, caller, free]
  | ready item =>
      refine .inr ⟨.submit, by rintro _ _ ⟨⟩, ?_⟩
      simp [step, caller]
  | collecting =>
      by_cases complete : p.collected.length = p.tasks.length
      · refine .inr ⟨.leave, by rintro _ _ ⟨⟩, ?_⟩
        simp [step, caller, all, complete]
      · exact canGoOn_of_uncollected gathered caller all complete
  | failing fault =>
      refine .inr ⟨.leave, by rintro _ _ ⟨⟩, ?_⟩
      simp [step, caller, all]
  | left fault => exact absurd ⟨fault, caller⟩ unfinished

/-! ### Runs -/

theorem itemized_run (runs : (start size items : Pool α β).run steps = some p) :
    p.Itemized items :=
  isRun.invariant itemized_step runs (itemized_start size items)

theorem gathered_run (runs : (start size items : Pool α β).run steps = some p) : p.Gathered :=
  isRun.invariant gathered_step runs (gathered_start size items)

/-- A caller leaves only when every task has given its slot back. -/
theorem allReleased_step (done : p.IsFinal → p.allReleased) (makes : p.step s = some p')
    (final : p'.IsFinal) : p'.allReleased := by
  obtain ⟨fault, left⟩ := final
  -- a task that goes on has not given its slot back, so the caller has not left
  have goesOn {k : Nat} {stage : TaskStage β} (here : p.stage? k = some stage)
      (holds : stage.isReleased = false) (left : p.caller = .left fault) : False := by
    rw [isReleased_of_allReleased (done ⟨fault, left⟩) here] at holds
    cases holds
  cases move_of_step makes with
  | take | drain | acquire | submit | fail => cases left
  | begin k queued => exact (goesOn queued rfl left).elim
  | finish k r running => exact (goesOn running rfl left).elim
  | release k r ended => exact (goesOn ended rfl left).elim
  | collect k value caller =>
      rw [caller] at left
      cases left
  | leave caller all => exact all
  | leaveFailing fault caller all => exact all

/-- When the caller has left, every slot is given back. -/
theorem allReleased_of_isFinal (runs : (start size items : Pool α β).run steps = some p)
    (final : p.IsFinal) : p.allReleased :=
  isRun.invariant (I := fun p => p.IsFinal → p.allReleased) allReleased_step runs
    (by rintro ⟨fault, ⟨⟩⟩) final

/-- When the caller has left, no item is ahead. -/
theorem ahead_of_isFinal (itemized : p.Itemized items) (final : p.IsFinal) : p.ahead = [] := by
  obtain ⟨fault, caller⟩ := final
  have drained := itemized.drained
  rw [caller] at drained
  simpa [inHand] using drained

/-- When the caller has left, all items were submitted. -/
theorem items_of_isFinal (itemized : p.Itemized items) (final : p.IsFinal) :
    p.tasks.map Task.item = items := by
  have items_eq := itemized.items_eq
  rw [ahead_of_isFinal itemized final] at items_eq
  obtain ⟨fault, caller⟩ := final
  rw [caller] at items_eq
  simpa [inHand] using items_eq

/-- When the caller has left and every task has given its slot back, all slots are free. -/
theorem slots_of_isFinal (slotted : p.Slotted size items) (all : p.allReleased)
    (final : p.IsFinal) : p.slots = size := by
  obtain ⟨fault, caller⟩ := final
  have none : p.unreleased = 0 := by
    refine List.countP_eq_zero.mpr fun t mem => ?_
    simpa using List.all_eq_true.mp all t mem
  have slots_eq := slotted.slots_eq
  rw [held, none, caller] at slots_eq
  exact slots_eq.trans (Int.sub_zero _)

/-- Where no task ends with a fault, the caller leaves without one. -/
theorem left_of_isFinal (tracked : Tracked steps p) (gathered : p.Gathered)
    (faultless : Faultless steps) (final : p.IsFinal) : p.caller = .left none := by
  obtain ⟨fault, caller⟩ := final
  cases fault with
  | none => exact caller
  | some fault =>
      obtain ⟨k, failed⟩ := gathered.raised caller
      have ended := (tracked.mem_finished k _).mpr failed
      rw [finished_eq_of_faultless faultless] at ended
      obtain ⟨c, -, same⟩ := List.mem_map.mp ended
      cases (Prod.mk.inj same).2

/-- A caller that has left without a fault leaves no task behind and no result. -/
theorem complete_of_isFinal (tracked : Tracked steps p) (gathered : p.Gathered)
    (faultless : Faultless steps) (final : p.IsFinal) :
    p.allReleased ∧ p.collected.length = p.tasks.length :=
  gathered.complete (left_of_isFinal tracked gathered faultless final)

section Complete

variable (tracked : Tracked steps p) (all : p.allReleased)
include tracked all

/-- Where all tasks have given their slots back, each was begun once. -/
theorem begun_perm : (begun steps).Perm (List.range p.tasks.length) := by
  refine perm_range tracked.begun_nodup fun k => (tracked.mem_begun k).trans ⟨?_, fun inside => ?_⟩
  · rintro ⟨stage, here, -⟩
    exact lt_length_of_stage? here
  · obtain ⟨r, released⟩ := exists_result?_of_allReleased all inside
    exact ⟨.released r, released, nofun⟩

/-- Where all tasks have given their slots back, each ended once. -/
theorem finished_perm : ((finished steps).map Prod.fst).Perm (List.range p.tasks.length) := by
  refine perm_range tracked.finished_nodup fun k => ⟨fun mem => ?_, fun inside => ?_⟩
  · obtain ⟨c, ended, rfl⟩ := List.mem_map.mp mem
    exact lt_length_of_result? ((tracked.mem_finished ..).mp ended)
  · obtain ⟨r, released⟩ := exists_result?_of_allReleased all inside
    refine List.mem_map.mpr ⟨(k, r), (tracked.mem_finished k r).mpr ?_, rfl⟩
    rw [result?, released]
    rfl

variable (faultless : Faultless steps)
include faultless

/-- If every task returned, each of them is among the returned ones once. -/
theorem returned_perm : ((returned steps).map Prod.fst).Perm (List.range p.tasks.length) := by
  have keys := finished_perm tracked all
  rw [finished_eq_of_faultless faultless, List.map_map] at keys
  exact keys

/-- A caller that has collected as much as there are tasks has collected what was returned. -/
theorem collected_perm (gathered : p.Gathered)
    (complete : p.collected.length = p.tasks.length) : p.collected.Perm (returned steps) := by
  have subset : p.collected ⊆ returned steps := by
    rintro ⟨k, value⟩ mem
    have ended := (tracked.mem_finished k _).mpr (gathered.result mem)
    rw [finished_eq_of_faultless faultless] at ended
    obtain ⟨⟨k', value'⟩, here, same⟩ := List.mem_map.mp ended
    cases same
    exact here
  have length := (returned_perm tracked all faultless).length_eq
  rw [List.length_map, List.length_range, ← complete] at length
  have nodup : p.collected.Nodup := gathered.nodup.of_map Prod.fst
  exact (List.subperm_of_subset nodup subset).perm_of_length_le (Nat.le_of_eq length)

end Complete

/-- Results that are told from the items, whatever the order, are those of the items. -/
theorem values_perm {results : List (Nat × β)} (g : β → γ) (f : α → γ)
    (keys : (results.map Prod.fst).Perm (List.range items.length))
    (agrees : ∀ k value item, (k, value) ∈ results → items[k]? = some item → g value = f item) :
    (results.map fun c => g c.2).Perm (items.map f) := by
  have each : results.map (fun c => some (g c.2)) =
      (results.map Prod.fst).map fun k => items[k]?.map f := by
    rw [List.map_map]
    refine List.map_congr_left fun ⟨k, value⟩ mem => ?_
    have inside : k < items.length :=
      List.mem_range.mp (keys.mem_iff.mp (List.mem_map_of_mem mem))
    have here : items[k]? = some items[k] := List.getElem?_eq_getElem inside
    simp only [Function.comp, here, Option.map_some]
    rw [agrees k value _ mem here]
  have inOrder : (List.range items.length).map (fun k => items[k]?.map f) =
      (items.map f).map some := by
    apply List.ext_getElem
    · simp
    · intro k inside _
      have inside : k < items.length := by simpa using inside
      simp [inside]
  have perm := (keys.map fun k => items[k]?.map f).filterMap id
  rw [← each, inOrder] at perm
  simpa [List.filterMap_map] using perm

/-- What is told from the results that are collected in the end is what the items determine, of each
item once. -/
theorem told_perm (runs : (start size items).run steps = some p) (faultless : Faultless steps)
    (final : p.IsFinal) (g : β → γ) (f : α → γ)
    (agrees : ∀ k value item, Step.finish k (.ok value) ∈ steps → items[k]? = some item →
      g value = f item) :
    (p.collected.map fun c => g c.2).Perm (items.map f) := by
  have gathered := gathered_run runs
  have tracked := tracked_run runs
  obtain ⟨all, complete⟩ := complete_of_isFinal tracked gathered faultless final
  have collected := collected_perm tracked all faultless gathered complete
  have keys := returned_perm tracked all faultless
  rw [← List.length_map Task.item, items_of_isFinal (itemized_run runs) final] at keys
  refine (collected.map _).trans (values_perm g f keys fun k value item mem here => ?_)
  obtain ⟨s, made, ended⟩ := List.mem_filterMap.mp mem
  rw [Step.finish_of_returned? ended] at made
  exact agrees k value item made here

/-- However the steps of a batch are ordered, with at least one worker: unless the caller has left,
a step can be made. If no task ends with a fault then, once the caller has left, every item was
begun once, with an id of its own, and ended once, and what is collected is what was returned, each
result once. So where the items determine what is told from the results, it is told of each item
once. -/
theorem completes_batch (workers : 1 ≤ size) (runs : (start size items).run steps = some p) :
    (¬ p.IsFinal → p.CanGoOn) ∧
    (Faultless steps → p.IsFinal →
      p.tasks.map Task.item = items ∧
      (begun steps).Perm (List.range items.length) ∧ p.issued = items.length ∧
      ((finished steps).map Prod.fst).Perm (List.range items.length) ∧
      p.collected.Perm (returned steps) ∧
      ∀ (γ : Type) (g : β → γ) (f : α → γ),
        (∀ k value item, Step.finish k (.ok value) ∈ steps → items[k]? = some item →
          g value = f item) →
        (p.collected.map fun c => g c.2).Perm (items.map f)) := by
  have slotted := slotted_run runs
  have gathered := gathered_run runs
  have tracked := tracked_run runs
  refine ⟨fun unfinished => ?_, fun faultless final => ?_⟩
  · exact canGoOn (slotted.size_eq ▸ workers) slotted gathered unfinished
  · have submitted := items_of_isFinal (itemized_run runs) final
    obtain ⟨all, complete⟩ := complete_of_isFinal tracked gathered faultless final
    have begun := begun_perm tracked all
    have issued := tracked.issued_eq.trans begun.length_eq
    have finished := finished_perm tracked all
    rw [← List.length_map Task.item, submitted] at begun finished
    rw [List.length_range, ← List.length_map Task.item, submitted] at issued
    refine ⟨submitted, begun, issued, finished, ?_, ?_⟩
    · exact collected_perm tracked all faultless gathered complete
    · intro γ g f agrees
      exact told_perm runs faultless final g f agrees

/-- One worker, two items; the second result is collected before the first. -/
def twoItems : List (Step Nat) :=
  [.take, .acquire, .submit, .take, .begin 0, .finish 0 (.ok 11), .release 0, .acquire, .submit,
    .take, .begin 1, .finish 1 (.ok 21), .collect 1, .release 1, .collect 0, .leave]

theorem two_items_are_collected : ∃ p : Pool Nat Nat, (start 1 [10, 20]).run twoItems = some p ∧
    p.issued = 2 ∧ p.collected.Perm [(0, 11), (1, 21)] ∧
    (p.collected.map fun c => c.2).Perm ([10, 20].map (· + 1)) := by
  obtain ⟨p, runs, final⟩ : ∃ p : Pool Nat Nat, (start 1 [10, 20]).run twoItems = some p ∧
      p.IsFinal := ⟨_, rfl, none, rfl⟩
  have faultless : Faultless twoItems := by
    intro k fault
    simp [twoItems]
  have ⟨_, _, issued, _, collected, values⟩ :=
    (completes_batch (Nat.le_refl 1) runs).2 faultless final
  refine ⟨p, runs, issued, collected, values Nat id (· + 1) fun k value item ended here => ?_⟩
  have results : (k = 0 ∧ value = 11) ∨ (k = 1 ∧ value = 21) := by simpa [twoItems] using ended
  rcases results with ⟨rfl, rfl⟩ | ⟨rfl, rfl⟩
  · cases here
    rfl
  · cases here
    rfl

end Checkup.Pool
