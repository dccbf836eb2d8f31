import Checkup.Proofs.Pool.Batch
import Mathlib

/-!
Every batch comes to an end.

An item takes seven steps from when it is taken until its result is collected, and the caller takes
a few more after the last. So a run is no longer than that, and since a step can be made as long as
the caller has not left, every run goes on to the end.

Main statements: `remaining_lt` (every step leaves fewer steps), `length_le_of_run` and
`exists_run_isFinal`.
-/

namespace Checkup.Pool

variable {α β : Type} {p p' : Pool α β} {s : Step β} {steps : List (Step β)} {items : List α}
  {size k : Nat} {old : TaskStage β}

/-- How many steps a task makes until it has given its slot back. -/
def stageSteps : TaskStage β → Nat
  | .queued => 3
  | .running => 2
  | .ended _ => 1
  | .released _ => 0

/-- How many steps the caller makes at most when no item is ahead, and how many are made for the
item in its hands. -/
def callerSteps : Caller α → Nat
  | .taking => 3
  | .holding _ => 9
  | .ready _ => 8
  | .collecting => 2
  | .failing _ => 1
  | .left _ => 0

/-- How many steps the tasks make until all have given their slots back. -/
def taskSteps (p : Pool α β) : Nat := (p.tasks.map fun t => stageSteps t.stage).sum

/-- How many steps can be made at most. -/
def remaining (p : Pool α β) : Nat :=
  7 * p.ahead.length + callerSteps p.caller + p.taskSteps + (p.tasks.length - p.collected.length)

/-- Changing one element of a list changes a sum over the list by that element. -/
theorem sum_map_modify {γ : Type} (weight : γ → Nat) (change : γ → γ) {l : List γ} {k : Nat} {x : γ}
    (here : l[k]? = some x) :
    ((l.modify k change).map weight).sum + weight x = (l.map weight).sum + weight (change x) := by
  induction l generalizing k with
  | nil => cases here
  | cons y l ih =>
      cases k with
      | zero =>
          cases here
          simp only [List.modify_zero_cons, List.map_cons, List.sum_cons]
          omega
      | succ k =>
          have rest := ih (k := k) here
          simp only [List.modify_succ_cons, List.map_cons, List.sum_cons]
          omega

/-- A task that goes on to another stage has the steps of that one before it. -/
theorem taskSteps_setStage (here : p.stage? k = some old) (stage : TaskStage β) :
    (p.setStage k stage).taskSteps + stageSteps old = p.taskSteps + stageSteps stage := by
  obtain ⟨t, there, rfl⟩ := Option.map_eq_some_iff.mp here
  exact sum_map_modify _ _ there

/-- No more is collected than there are tasks. -/
theorem Gathered.length_le (gathered : p.Gathered) : p.collected.length ≤ p.tasks.length := by
  have length := (List.subperm_of_subset gathered.nodup gathered.subset_range).length_le
  rwa [List.length_map, List.length_range] at length

/-- A caller that goes on leaves fewer steps. -/
theorem remaining_caller {next : Caller α} (fewer : callerSteps next < callerSteps p.caller) :
    ({ p with caller := next } : Pool α β).remaining < p.remaining := by
  change 7 * p.ahead.length + callerSteps next + p.taskSteps +
    (p.tasks.length - p.collected.length) < p.remaining
  unfold remaining
  omega

/-- A task that goes on leaves fewer steps. -/
theorem remaining_setStage (here : p.stage? k = some old) {stage : TaskStage β}
    (fewer : stageSteps stage < stageSteps old) :
    (p.setStage k stage).remaining < p.remaining := by
  have tasks := taskSteps_setStage here stage
  change 7 * p.ahead.length + callerSteps p.caller + (p.setStage k stage).taskSteps +
    ((p.setStage k stage).tasks.length - p.collected.length) < p.remaining
  rw [length_setStage]
  unfold remaining
  omega

/-- Every step leaves fewer steps. -/
theorem remaining_lt (gathered : p.Gathered) (makes : p.step s = some p') :
    p'.remaining < p.remaining := by
  have caller {now next : Caller α} (here : p.caller = now)
      (fewer : callerSteps next < callerSteps now) :
      ({ p with caller := next } : Pool α β).remaining < p.remaining := by
    rw [← here] at fewer
    exact remaining_caller fewer
  have after := (gathered_step gathered makes).length_le
  cases move_of_step makes with
  | take item rest taking ahead =>
      change 7 * rest.length + 9 + p.taskSteps + (p.tasks.length - p.collected.length) < _
      unfold remaining
      rw [ahead, taking, List.length_cons, callerSteps]
      omega
  | drain taking ahead => exact caller taking (Nat.lt_succ_self 2)
  | acquire item holding free => exact caller holding (Nat.lt_succ_self 8)
  | submit item ready =>
      have before := gathered.length_le
      unfold remaining
      simp only [ready, callerSteps, taskSteps, stageSteps, List.map_append, List.sum_append,
        List.map_singleton, List.sum_singleton, List.length_append, List.length_singleton]
      omega
  | begin k queued => exact remaining_setStage queued (Nat.lt_succ_self 2)
  | finish k r running => exact remaining_setStage running (Nat.lt_succ_self 1)
  | release k r ended => exact remaining_setStage ended Nat.zero_lt_one
  | collect k value collecting result new =>
      have after : (p.collected ++ [(k, value)]).length ≤ p.tasks.length := after
      change 7 * p.ahead.length + callerSteps p.caller + p.taskSteps +
        (p.tasks.length - (p.collected ++ [(k, value)]).length) < _
      unfold remaining
      rw [List.length_append, List.length_singleton] at after ⊢
      omega
  | fail k fault collecting result => exact caller collecting (Nat.lt_succ_self 1)
  | leave collecting done all => exact caller collecting Nat.zero_lt_two
  | leaveFailing fault failing done => exact caller failing Nat.zero_lt_one

/-- No run of a batch is longer than seven steps an item and three more. -/
theorem length_le_of_run (runs : (start size items : Pool α β).run steps = some p) :
    steps.length + p.remaining ≤ 7 * items.length + 3 := by
  let bounded (past : List (Step β)) (p : Pool α β) : Prop :=
    p.Gathered ∧ past.length + p.remaining ≤ 7 * items.length + 3
  have keeps {past : List (Step β)} {p p' : Pool α β} {s : Step β} (holds : bounded past p)
      (makes : p.step s = some p') : bounded (past ++ [s]) p' := by
    have fewer := remaining_lt holds.1 makes
    have bound := holds.2
    refine ⟨gathered_step holds.1 makes, ?_⟩
    rw [List.length_append, List.length_singleton]
    omega
  have starts : bounded [] (start size items) := by
    refine ⟨gathered_start size items, ?_⟩
    simp [remaining, taskSteps, callerSteps, start]
  exact (isRun.history keeps [] runs starts).2

/-- However far a batch has come, it can be brought to its end, whatever the tasks that are left
come to. -/
theorem exists_run_isFinal (workers : 0 < size) (result : Nat → Except Fault β)
    (slotted : p.Slotted size items) (gathered : p.Gathered) :
    ∃ more q, p.run more = some q ∧ q.IsFinal ∧ ∀ k r, .finish k r ∈ more → r = result k := by
  induction left : p.remaining using Nat.strongRecOn generalizing p with
  | ind n ih =>
      subst left
      by_cases final : p.IsFinal
      · exact ⟨[], p, rfl, final, fun _ _ mem => absurd mem List.not_mem_nil⟩
      have next : ∃ s p', p.step s = some p' ∧ ∀ k r, s = .finish k r → r = result k := by
        rcases canGoOn (slotted.size_eq ▸ workers) slotted gathered final with ⟨k, ends⟩ |
          ⟨s, other, makes⟩
        · obtain ⟨p', makes⟩ := Option.isSome_iff_exists.mp (ends (result k))
          refine ⟨_, p', makes, fun j r same => ?_⟩
          cases same
          rfl
        · obtain ⟨p', makes⟩ := Option.isSome_iff_exists.mp makes
          exact ⟨s, p', makes, fun k r same => absurd same (other k r)⟩
      obtain ⟨s, p', makes, agrees⟩ := next
      have fewer := remaining_lt gathered makes
      obtain ⟨more, q, runs, final, rest⟩ :=
        ih _ fewer (slotted_step slotted makes) (gathered_step gathered makes) rfl
      refine ⟨s :: more, q, ?_, final, fun k r mem => ?_⟩
      · rw [run, makes]
        exact runs
      · rcases List.mem_cons.mp mem with here | later
        · exact agrees k r here.symm
        · exact rest k r later

end Checkup.Pool
