import Checkup.Pool
import Checkup.Proofs.Runs
import Mathlib.Data.List.Basic

/-!
Runs of a batch, step by step.

Main statements: `move_of_step` (all that a step can do, with what it needs), `stage?_setStage` and
`count_setStage` (what moving one task does to the stages of all).
-/

namespace Checkup.Pool

variable {α β : Type} {p p' : Pool α β} {s : Step β} {steps : List (Step β)} {k j : Nat}
  {stage old : TaskStage β}

def run (p : Pool α β) : List (Step β) → Option (Pool α β)
  | [] => some p
  | s :: steps => (p.step s).bind fun p => p.run steps

theorem isRun : IsRun (step (α := α) (β := β)) run := ⟨fun _ => rfl, fun _ _ _ => rfl⟩

def IsFinal (p : Pool α β) : Prop := ∃ fault, p.caller = .left fault

/-! ### Stages of tasks -/

def count (p : Pool α β) (test : TaskStage β → Bool) : Nat := p.tasks.countP fun t => test t.stage

def released (p : Pool α β) : Nat := p.count TaskStage.isReleased

/-- How many tasks were submitted and have not given their slot back. -/
def unreleased (p : Pool α β) : Nat := p.count fun stage => !stage.isReleased

theorem stage?_eq_none_iff : p.stage? k = none ↔ p.tasks.length ≤ k := by
  simp [stage?]

theorem lt_length_of_stage? (here : p.stage? k = some stage) : k < p.tasks.length := by
  by_contra beyond
  rw [stage?_eq_none_iff.mpr (Nat.not_lt.mp beyond)] at here
  cases here

/-- A task that is moved is where it was moved to; the others are where they were. -/
theorem stage?_setStage (here : p.stage? k = some old) (stage : TaskStage β) (j : Nat) :
    (p.setStage k stage).stage? j = if j = k then some stage else p.stage? j := by
  have inside := lt_length_of_stage? here
  simp only [stage?, setStage, List.getElem?_modify]
  by_cases same : k = j
  · subst same
    simp [inside]
  · simp [same, Ne.symm same]

@[simp] theorem length_setStage (p : Pool α β) (k : Nat) (stage : TaskStage β) :
    (p.setStage k stage).tasks.length = p.tasks.length := by
  simp [setStage]

@[simp] theorem items_setStage (p : Pool α β) (k : Nat) (stage : TaskStage β) :
    (p.setStage k stage).tasks.map Task.item = p.tasks.map Task.item := by
  apply List.ext_getElem?
  intro j
  simp only [setStage, List.getElem?_map, List.getElem?_modify]
  cases p.tasks[j]? with
  | none => rfl
  | some t =>
      simp only [Option.map_some]
      split <;> rfl

/-- Changing one element of a list changes a count by that element. -/
theorem countP_modify {γ : Type} (test : γ → Bool) (change : γ → γ) {l : List γ} {k : Nat} {x : γ}
    (here : l[k]? = some x) :
    (l.modify k change).countP test + (if test x then 1 else 0) =
      l.countP test + if test (change x) then 1 else 0 := by
  induction l generalizing k with
  | nil => cases here
  | cons y l ih =>
      cases k with
      | zero =>
          cases here
          simp only [List.modify_zero_cons, List.countP_cons]
          omega
      | succ k =>
          have rest := ih (k := k) here
          simp only [List.modify_succ_cons, List.countP_cons]
          omega

/-- Moving a task changes each count by that task. -/
theorem count_setStage (here : p.stage? k = some old) (stage : TaskStage β)
    (test : TaskStage β → Bool) :
    (p.setStage k stage).count test + (if test old then 1 else 0) =
      p.count test + if test stage then 1 else 0 := by
  obtain ⟨t, there, rfl⟩ := Option.map_eq_some_iff.mp here
  exact countP_modify _ _ there

/-- A task at a stage that passes a test counts. -/
theorem count_pos (here : p.stage? k = some stage) {test : TaskStage β → Bool}
    (passes : test stage) : 0 < p.count test := by
  obtain ⟨t, there, rfl⟩ := Option.map_eq_some_iff.mp here
  exact List.countP_pos_iff.mpr ⟨t, List.mem_of_getElem? there, passes⟩

/-- Where a count is not zero there is a first task that counts. -/
theorem exists_first {test : TaskStage β → Bool} (counts : 0 < p.count test) :
    ∃ k stage, p.stage? k = some stage ∧ test stage ∧
      (p.tasks.take k).all fun t => !test t.stage := by
  obtain ⟨t, mem, passes⟩ := List.countP_pos_iff.mp counts
  have inside : p.tasks.findIdx (fun t => test t.stage) < p.tasks.length :=
    List.findIdx_lt_length_of_exists ⟨t, mem, passes⟩
  have passes : test p.tasks[p.tasks.findIdx fun t => test t.stage].stage :=
    List.findIdx_getElem (p := fun t : Task α β => test t.stage) (w := inside)
  refine ⟨p.tasks.findIdx fun t => test t.stage, _, ?_, passes, ?_⟩
  · simp [stage?, inside]
  · refine List.all_eq_true.mpr fun t before => ?_
    rw [List.false_of_mem_take_findIdx (p := fun t : Task α β => test t.stage) before]
    rfl

/-- Every task has given its slot back or has not. -/
theorem released_add_unreleased (p : Pool α β) : p.released + p.unreleased = p.tasks.length := by
  rw [List.length_eq_countP_add_countP fun t : Task α β => t.stage.isReleased]
  simp [released, unreleased, count]

/-! ### Steps -/

/-- All that a step can do: what it needs, and what it leaves. -/
inductive Move (p : Pool α β) : Step β → Pool α β → Prop
  | take (item : α) (rest : List α) : p.caller = .taking → p.ahead = item :: rest →
      Move p .take { p with ahead := rest, caller := .holding item }
  | drain : p.caller = .taking → p.ahead = [] → Move p .take { p with caller := .collecting }
  | acquire (item : α) : p.caller = .holding item → 0 < p.slots →
      Move p .acquire { p with slots := p.slots - 1, caller := .ready item }
  | submit (item : α) : p.caller = .ready item →
      Move p .submit { p with tasks := p.tasks ++ [{ item }], caller := .taking }
  | begin (k : Nat) : p.stage? k = some .queued → p.running < p.size →
      (∀ t ∈ p.tasks.take k, ¬ t.stage.isQueued) →
      Move p (.begin k) { p.setStage k .running with issued := p.issued + 1 }
  | finish (k : Nat) (r : Except Fault β) : p.stage? k = some .running →
      Move p (.finish k r) (p.setStage k (.ended r))
  | release (k : Nat) (r : Except Fault β) : p.stage? k = some (.ended r) →
      Move p (.release k) { p.setStage k (.released r) with slots := p.slots + 1 }
  | collect (k : Nat) (value : β) : p.caller = .collecting →
      (p.stage? k).bind TaskStage.result? = some (.ok value) →
      (∀ c ∈ p.collected, c.1 ≠ k) →
      Move p (.collect k) { p with collected := p.collected ++ [(k, value)] }
  | fail (k : Nat) (fault : Fault) : p.caller = .collecting →
      (p.stage? k).bind TaskStage.result? = some (.error fault) →
      Move p (.collect k) { p with caller := .failing fault }
  | leave : p.caller = .collecting → p.allReleased → p.collected.length = p.tasks.length →
      Move p .leave { p with caller := .left none }
  | leaveFailing (fault : Fault) : p.caller = .failing fault → p.allReleased →
      Move p .leave { p with caller := .left (some fault) }

/-- Every step of a batch is one of those that `Move` names. -/
theorem move_of_step (makes : p.step s = some p') : p.Move s p' := by
  cases s with
  | take =>
      simp only [step] at makes
      split at makes
      · rename_i item rest caller ahead
        cases makes
        exact .take item rest caller ahead
      · rename_i caller ahead
        cases makes
        exact .drain caller ahead
      · cases makes
  | acquire =>
      simp only [step] at makes
      split at makes
      · rename_i item caller
        split at makes
        · rename_i free
          cases makes
          exact .acquire item caller free
        · cases makes
      · cases makes
  | submit =>
      simp only [step] at makes
      split at makes
      · rename_i item caller
        cases makes
        exact .submit item caller
      · cases makes
  | begin k =>
      simp only [step] at makes
      split at makes
      · rename_i queued
        split at makes
        · rename_i next
          cases makes
          rw [Bool.and_eq_true, decide_eq_true_iff, List.all_eq_true] at next
          refine .begin k queued next.1 fun t mem waits => ?_
          exact absurd (next.2 t mem) (by rw [waits]; decide)
        · cases makes
      · cases makes
  | finish k r =>
      simp only [step] at makes
      split at makes
      · rename_i running
        cases makes
        exact .finish k r running
      · cases makes
  | release k =>
      simp only [step] at makes
      split at makes
      · rename_i r ended
        cases makes
        exact .release k r ended
      · cases makes
  | collect k =>
      simp only [step] at makes
      split at makes
      · rename_i value caller result
        split at makes
        · cases makes
        · rename_i new
          cases makes
          refine .collect k value caller result fun c mem same => new ?_
          exact List.any_eq_true.mpr ⟨c, mem, beq_iff_eq.mpr same⟩
      · rename_i fault caller result
        cases makes
        exact .fail k fault caller result
      · cases makes
  | leave =>
      simp only [step] at makes
      split at makes
      · rename_i caller
        split at makes
        · rename_i done
          cases makes
          rw [Bool.and_eq_true, beq_iff_eq] at done
          exact .leave caller done.1 done.2
        · cases makes
      · rename_i fault caller
        split at makes
        · rename_i done
          cases makes
          exact .leaveFailing fault caller done
        · cases makes
      · cases makes

/-- Tasks come only by being submitted. -/
theorem length_of_step (makes : p.step s = some p') (other : s ≠ .submit) :
    p'.tasks.length = p.tasks.length := by
  cases move_of_step makes with
  | submit => exact absurd rfl other
  | begin | finish | release => exact length_setStage ..
  | take | drain | acquire | collect | fail | leave | leaveFailing => rfl

/-- The caller leaves only by leaving. -/
theorem isFinal_of_step (makes : p.step s = some p') (final : p'.IsFinal) :
    s = .leave ∨ p.IsFinal := by
  obtain ⟨fault, left⟩ := final
  cases move_of_step makes with
  | leave | leaveFailing => exact .inl rfl
  | take | drain | acquire | submit | fail => cases left
  | begin | finish | release | collect => exact .inr ⟨fault, left⟩

end Checkup.Pool
