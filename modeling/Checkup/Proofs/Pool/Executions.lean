import Checkup.Proofs.Pool.Steps
import Mathlib.Data.List.Nodup

/-!
What a batch has executed.

The steps made so far say which tasks have begun, which are done, and with which results. The stages
of the tasks say the same, and since a task goes through its stages once, each is begun once and
ends once.

Main statements: `result?_of_move` (a result stays), `tracked_step` (a step keeps the steps made so
far and the stages in agreement) and `tracked_run`.
-/

namespace Checkup.Pool

variable {α β : Type} {p p' : Pool α β} {s : Step β} {steps past : List (Step β)}
  {items : List α} {size k j : Nat} {old : TaskStage β} {r : Except Fault β} {value : β}

/-! ### What the steps say -/

namespace Step

def begun? : Step β → Option Nat
  | .begin k => some k
  | _ => none

def finished? : Step β → Option (Nat × Except Fault β)
  | .finish k r => some (k, r)
  | _ => none

def returned? : Step β → Option (Nat × β)
  | .finish k (.ok value) => some (k, value)
  | _ => none

theorem finish_of_returned? (ended : s.returned? = some (k, value)) :
    s = .finish k (.ok value) := by
  cases s with
  | finish k r =>
      cases r with
      | ok value =>
          cases ended
          rfl
      | error fault => cases ended
  | _ => cases ended

end Step

def begun (steps : List (Step β)) : List Nat := steps.filterMap Step.begun?

/-- The tasks that are done, in the order in which they ended, and their results. -/
def finished (steps : List (Step β)) : List (Nat × Except Fault β) :=
  steps.filterMap Step.finished?

def returned (steps : List (Step β)) : List (Nat × β) := steps.filterMap Step.returned?

/-- Every task that ended did so without a fault. -/
def Faultless (steps : List (Step β)) : Prop := ∀ k fault, Step.finish k (.error fault) ∉ steps

/-- Where no fault is among them, the results are what was returned. -/
theorem finished_eq_of_faultless (faultless : Faultless steps) :
    finished steps = (returned steps).map fun c => (c.1, .ok c.2) := by
  induction steps with
  | nil => rfl
  | cons s steps ih =>
      have rest := ih fun k fault mem => faultless k fault (List.mem_cons_of_mem s mem)
      simp only [finished, returned] at rest ⊢
      cases s with
      | finish k r =>
          cases r with
          | ok value => simpa [Step.finished?, Step.returned?] using rest
          | error fault => exact absurd List.mem_cons_self (faultless k fault)
      | _ => exact rest

/-! ### What the stages say -/

def HasBegun (p : Pool α β) (k : Nat) : Prop := ∃ stage, p.stage? k = some stage ∧ ¬ stage.isQueued

def result? (p : Pool α β) (k : Nat) : Option (Except Fault β) :=
  (p.stage? k).bind TaskStage.result?

theorem hasBegun_setStage (here : p.stage? k = some old) (stage : TaskStage β) (j : Nat) :
    (p.setStage k stage).HasBegun j ↔ if j = k then ¬ stage.isQueued else p.HasBegun j := by
  rw [HasBegun, stage?_setStage here]
  split
  · simp
  · rfl

theorem result?_setStage (here : p.stage? k = some old) (stage : TaskStage β) (j : Nat) :
    (p.setStage k stage).result? j = if j = k then stage.result? else p.result? j := by
  rw [result?, stage?_setStage here]
  split <;> rfl

/-- The stage of a task that is submitted now. -/
theorem stage?_submit (p : Pool α β) (item : α) (j : Nat) :
    ({ p with tasks := p.tasks ++ [{ item }], caller := .taking } : Pool α β).stage? j =
      if j = p.tasks.length then some .queued else p.stage? j := by
  simp only [stage?]
  rcases Nat.lt_trichotomy j p.tasks.length with inside | rfl | beyond
  · rw [List.getElem?_append_left inside, if_neg (Nat.ne_of_lt inside)]
  · simp
  · rw [if_neg (Nat.ne_of_gt beyond), List.getElem?_eq_none (Nat.le_of_lt beyond),
      List.getElem?_eq_none]
    rw [List.length_append]
    exact beyond

/-- A result once there stays. -/
theorem result?_of_move (move : p.Move s p') (done : p.result? j = some r) :
    p'.result? j = some r := by
  cases move with
  | submit item caller =>
      rw [result?, stage?_submit]
      split
      · rename_i new
        rw [result?, stage?_eq_none_iff.mpr (Nat.le_of_eq new.symm)] at done
        cases done
      · exact done
  | begin k queued =>
      refine (result?_setStage queued _ j).trans ?_
      split
      · rename_i same
        rw [same, result?, queued] at done
        cases done
      · exact done
  | finish k r running =>
      refine (result?_setStage running _ j).trans ?_
      split
      · rename_i same
        rw [same, result?, running] at done
        cases done
      · exact done
  | release k r ended =>
      refine (result?_setStage ended _ j).trans ?_
      split
      · rename_i same
        rw [same, result?, ended] at done
        exact done
      · exact done
  | _ => exact done

/-- A result was there before, or its task has just ended with it. -/
theorem result?_or_finish_of_move (move : p.Move s p') (done : p'.result? j = some r) :
    p.result? j = some r ∨ s = .finish j r := by
  cases move with
  | submit item caller =>
      rw [result?, stage?_submit] at done
      split at done
      · cases done
      · exact .inl done
  | begin k queued =>
      have done := (result?_setStage queued .running j).symm.trans done
      split at done
      · cases done
      · exact .inl done
  | finish k r' running =>
      have done := (result?_setStage running (.ended r') j).symm.trans done
      split at done
      · rename_i same
        cases done
        exact .inr (by rw [same])
      · exact .inl done
  | release k r' ended =>
      have done := (result?_setStage ended (.released r') j).symm.trans done
      split at done
      · rename_i same
        rw [result?, same, ended]
        exact .inl done
      · exact .inl done
  | _ => exact .inl done

theorem lt_length_of_result? (done : p.result? k = some r) : k < p.tasks.length := by
  obtain ⟨stage, here, -⟩ := Option.bind_eq_some_iff.mp done
  exact lt_length_of_stage? here

/-! ### One worker -/

/-- Tasks are run one after the other: where one has begun, those before it are done. -/
def OneByOne (p : Pool α β) : Prop :=
  ∀ j k, j < k → p.HasBegun k → ∃ r, p.result? j = some r

theorem oneByOne_start (size : Nat) (items : List α) : (start size items : Pool α β).OneByOne := by
  rintro j k - ⟨stage, here, -⟩
  cases here

/-- A task had begun before, or begins now. -/
theorem hasBegun_or_begin_of_move (move : p.Move s p') (begun : p'.HasBegun j) :
    p.HasBegun j ∨ s = .begin j := by
  cases move with
  | submit item caller =>
      obtain ⟨stage, here, going⟩ := begun
      rw [stage?_submit] at here
      split at here
      · cases here
        exact absurd rfl going
      · exact .inl ⟨stage, here, going⟩
  | begin k queued =>
      have begun := (hasBegun_setStage queued .running j).mp begun
      split at begun
      · rename_i same
        exact .inr (by rw [same])
      · exact .inl begun
  | finish k r running =>
      have begun := (hasBegun_setStage running (.ended r) j).mp begun
      split at begun
      · rename_i same
        subst same
        exact .inl ⟨.running, running, Bool.false_ne_true⟩
      · exact .inl begun
  | release k r ended =>
      have begun := (hasBegun_setStage ended (.released r) j).mp begun
      split at begun
      · rename_i same
        subst same
        exact .inl ⟨.ended r, ended, Bool.false_ne_true⟩
      · exact .inl begun
  | _ => exact .inl begun

/-- A single worker that takes up a task has done those before it. -/
theorem oneByOne_step (single : p.size ≤ 1) (inTurn : p.OneByOne) (makes : p.step s = some p') :
    p'.OneByOne := by
  intro j k before begun
  rcases hasBegun_or_begin_of_move (move_of_step makes) begun with begun | rfl
  · obtain ⟨r, done⟩ := inTurn j k before begun
    exact ⟨r, result?_of_move (move_of_step makes) done⟩
  · cases move_of_step makes with
    | begin _ queued free next =>
        have inside : j < p.tasks.length := Nat.lt_trans before (lt_length_of_stage? queued)
        have here : p.tasks[j]? = some p.tasks[j] := List.getElem?_eq_getElem inside
        have stage : p.stage? j = some p.tasks[j].stage := by rw [stage?, here, Option.map_some]
        have mem : p.tasks[j] ∈ p.tasks.take k :=
          List.mem_of_getElem? ((List.getElem?_take_of_lt before).trans here)
        have going := next _ mem
        have idle : ¬ p.tasks[j].stage.isRunning := fun runs =>
          Nat.not_lt_of_ge single (Nat.lt_of_le_of_lt (count_pos stage runs) free)
        have done : ∃ r, p.result? j = some r := by
          rw [result?, stage, Option.bind_some]
          cases now : p.tasks[j].stage with
          | queued => exact absurd (by rw [now]; rfl) going
          | running => exact absurd (by rw [now]; rfl) idle
          | ended r | released r => exact ⟨r, rfl⟩
        obtain ⟨r, done⟩ := done
        exact ⟨r, result?_of_move (move_of_step makes) done⟩

/-! ### Executions -/

/-- The steps made so far say of every task what its stage says: it was begun once if it has begun,
and ended once, with its result, if it is done. -/
structure Tracked (past : List (Step β)) (p : Pool α β) : Prop where
  begun_nodup : (begun past).Nodup
  mem_begun (k : Nat) : k ∈ begun past ↔ p.HasBegun k
  issued_eq : p.issued = (begun past).length
  finished_nodup : ((finished past).map Prod.fst).Nodup
  mem_finished (k : Nat) (r : Except Fault β) : (k, r) ∈ finished past ↔ p.result? k = some r

theorem tracked_start (size : Nat) (items : List α) : Tracked [] (start size items : Pool α β) := by
  have unmade (k : Nat) : (start size items : Pool α β).stage? k = none := rfl
  refine ⟨List.nodup_nil, fun k => ?_, rfl, List.nodup_nil, fun k r => ?_⟩
  · simp [begun, HasBegun, unmade]
  · simp [finished, result?, unmade]

namespace Tracked

/-- A step that begins and ends no task tracks what was tracked. -/
theorem of_eq (tracked : Tracked past p) (begins : s.begun? = none) (ends : s.finished? = none)
    (issued : p'.issued = p.issued) (begun_eq : ∀ k, p'.HasBegun k ↔ p.HasBegun k)
    (result_eq : ∀ k, p'.result? k = p.result? k) : Tracked (past ++ [s]) p' := by
  have begun_same : begun (past ++ [s]) = begun past := by simp [begun, begins]
  have finished_same : finished (past ++ [s]) = finished past := by simp [finished, ends]
  constructor
  · rw [begun_same]
    exact tracked.begun_nodup
  · intro k
    rw [begun_same, begun_eq]
    exact tracked.mem_begun k
  · rw [begun_same, issued]
    exact tracked.issued_eq
  · rw [finished_same]
    exact tracked.finished_nodup
  · intro k r
    rw [finished_same, result_eq]
    exact tracked.mem_finished k r

/-- A task that begins is in line, so it has not begun before. -/
theorem of_begin (tracked : Tracked past p) (queued : p.stage? k = some .queued) :
    Tracked (past ++ [.begin k]) { p.setStage k .running with issued := p.issued + 1 } := by
  have begun_more : begun (past ++ [.begin k]) = begun past ++ [k] := by simp [begun, Step.begun?]
  have finished_same : finished (past ++ [.begin k]) = finished past := by
    simp [finished, Step.finished?]
  have new : k ∉ begun past := by
    rw [tracked.mem_begun]
    rintro ⟨stage, here, begun⟩
    rw [queued] at here
    cases here
    exact begun rfl
  constructor
  · rw [begun_more, ← List.concat_eq_append]
    exact List.Nodup.concat new tracked.begun_nodup
  · intro j
    rw [begun_more, List.mem_append, List.mem_singleton, tracked.mem_begun]
    refine Iff.trans ?_ (hasBegun_setStage queued .running j).symm
    by_cases same : j = k
    · simp [same, TaskStage.isQueued]
    · simp [same]
  · rw [begun_more, List.length_append, ← tracked.issued_eq]
    rfl
  · rw [finished_same]
    exact tracked.finished_nodup
  · intro j r
    rw [finished_same, tracked.mem_finished]
    refine Eq.congr_left (Eq.trans ?_ (result?_setStage queued .running j).symm)
    split
    · rename_i same
      rw [same, result?, queued]
      rfl
    · rfl

/-- A task that ends runs, so it has begun and has not ended before. -/
theorem of_finish (tracked : Tracked past p) (running : p.stage? k = some .running)
    (r : Except Fault β) : Tracked (past ++ [.finish k r]) (p.setStage k (.ended r)) := by
  have begun_same : begun (past ++ [.finish k r]) = begun past := by simp [begun, Step.begun?]
  have finished_more : finished (past ++ [.finish k r]) = finished past ++ [(k, r)] := by
    simp [finished, Step.finished?]
  have unfinished : p.result? k = none := by
    rw [result?, running]
    rfl
  have new : k ∉ (finished past).map Prod.fst := by
    intro mem
    obtain ⟨⟨_, r'⟩, ended, rfl⟩ := List.mem_map.mp mem
    rw [(tracked.mem_finished ..).mp ended] at unfinished
    cases unfinished
  constructor
  · rw [begun_same]
    exact tracked.begun_nodup
  · intro j
    rw [begun_same, tracked.mem_begun, hasBegun_setStage running]
    split
    · rename_i same
      subst same
      exact ⟨fun _ => nofun, fun _ => ⟨.running, running, nofun⟩⟩
    · rfl
  · rw [begun_same]
    exact tracked.issued_eq
  · rw [finished_more, List.map_append, List.map_singleton, ← List.concat_eq_append]
    exact List.Nodup.concat new tracked.finished_nodup
  · intro j r'
    rw [finished_more, List.mem_append, List.mem_singleton, tracked.mem_finished,
      result?_setStage running]
    by_cases same : j = k
    · subst same
      simp [unfinished, TaskStage.result?, eq_comm]
    · simp [same]

end Tracked

/-- A step keeps the steps made so far and the stages in agreement. -/
theorem tracked_step (tracked : Tracked past p) (makes : p.step s = some p') :
    Tracked (past ++ [s]) p' := by
  cases move_of_step makes with
  | begin k queued => exact tracked.of_begin queued
  | finish k r running => exact tracked.of_finish running r
  | release k r ended =>
      refine tracked.of_eq rfl rfl rfl (fun j => ?_) fun j => ?_
      · refine (hasBegun_setStage ended (.released r) j).trans ?_
        split
        · rename_i same
          subst same
          exact ⟨fun _ => ⟨.ended r, ended, nofun⟩, fun _ => nofun⟩
        · rfl
      · refine (result?_setStage ended (.released r) j).trans ?_
        split
        · rename_i same
          rw [same, result?, ended]
          rfl
        · rfl
  | submit item caller =>
      refine tracked.of_eq rfl rfl rfl (fun j => ?_) fun j => ?_
      · rw [HasBegun, stage?_submit, HasBegun]
        split
        · rename_i new
          rw [stage?_eq_none_iff.mpr (Nat.le_of_eq new.symm)]
          simp [TaskStage.isQueued]
        · rfl
      · rw [result?, stage?_submit, result?]
        split
        · rename_i new
          rw [stage?_eq_none_iff.mpr (Nat.le_of_eq new.symm)]
          rfl
        · rfl
  | _ => exact tracked.of_eq rfl rfl rfl (fun _ => Iff.rfl) fun _ => rfl

/-- A run shows what its tasks have gone through. -/
theorem tracked_run (runs : (start size items : Pool α β).run steps = some p) : Tracked steps p :=
  isRun.history tracked_step [] runs (tracked_start size items)

/-- Only a task that was submitted ends. -/
theorem lt_length_of_finish (tracked : Tracked steps p) (ended : .finish k r ∈ steps) :
    k < p.tasks.length := by
  have mem : (k, r) ∈ finished steps := List.mem_filterMap.mpr ⟨_, ended, rfl⟩
  exact lt_length_of_result? ((tracked.mem_finished k r).mp mem)

end Checkup.Pool
