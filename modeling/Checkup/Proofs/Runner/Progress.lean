import Checkup.Proofs.Pool.Ends
import Checkup.Proofs.Runner.Moves
import Mathlib.Logic.Hydra

/-!
What a batch has left to do.

Tasks end with what their jobs have come to. A step of the pool leaves it fewer steps, and a step of
a job brings that nearer to its end. The clock does neither, and leaves what there is to do as it
is. So no batch makes steps forever that are not of the clock; and until the caller has left it can
make one, unless a task runs whose job cannot go on.

Main statements: `Paired.outcome_of_records` (what the caller leaves with), `exists_step_or_works`
and `exists_step_or_blocked` (what can keep a batch from going on), `step_left` and
`run_left` (a step leaves less to do, whatever the clock has done before it), and
`less_wellFounded`.
-/

namespace Checkup.Crew

variable {τ σ : Type} {r : Runner τ σ} {entries : List (Entry τ)} {size k : Nat} {c : Crew τ σ}

/-! ### Tasks and their jobs -/

/-- Every task has a job, in its place, and ends with what that has come to. -/
structure Paired (entries : List (Entry τ)) (c : Crew τ σ) : Prop where
  itemized : c.pool.Itemized entries
  length_eq : c.jobs.length = c.pool.tasks.length
  results {k : Nat} {result : Except Fault (Record σ)} : c.pool.result? k = some result →
    c.jobs[k]? = some (.ended result)

/-- A step that leaves the jobs as they are. -/
theorem Paired.of_pool (paired : c.Paired entries) {pool : Pool (Entry τ) (Record σ)}
    {s : Pool.Step (Record σ)} (makes : c.pool.step s = some pool) (other : s ≠ .submit)
    (finishes : ∀ k result, s = .finish k result → c.jobs[k]? = some (.ended result)) :
    ({ c with pool } : Crew τ σ).Paired entries where
  itemized := Pool.itemized_step paired.itemized makes
  length_eq := paired.length_eq.trans (Pool.length_of_step makes other).symm
  results := by
    intro k result done
    rcases Pool.result?_or_finish_of_move (Pool.move_of_step makes) done with before | now
    · exact paired.results before
    · exact finishes k result now

/-- A task that is submitted has a job that has not begun. -/
theorem Paired.submit (paired : c.Paired entries) {pool : Pool (Entry τ) (Record σ)}
    (makes : c.pool.step .submit = some pool) :
    ({ c with pool, jobs := c.jobs ++ [.fresh] } : Crew τ σ).Paired entries where
  itemized := Pool.itemized_step paired.itemized makes
  length_eq := by
    cases Pool.move_of_step makes
    simp [paired.length_eq]
  results := by
    intro k result done
    rcases Pool.result?_or_finish_of_move (Pool.move_of_step makes) done with before | ⟨⟨⟩⟩
    have here := paired.results before
    rw [List.getElem?_append_left (List.getElem?_eq_some_iff.mp here).1]
    exact here

/-- The job of a task that runs has gone on. -/
theorem Paired.work (paired : c.Paired entries) {entry : Entry τ} (job' : Job τ σ)
    (world : World τ) (running : c.pool.tasks[k]? = some ⟨entry, .running⟩) :
    ({ c with jobs := c.jobs.set k job', world } : Crew τ σ).Paired entries where
  itemized := paired.itemized
  length_eq := (List.length_set ..).trans paired.length_eq
  results := by
    intro j result done
    have apart : k ≠ j := by
      rintro rfl
      have stage : c.pool.stage? k = some .running := by rw [Pool.stage?, running, Option.map_some]
      rw [Pool.result?, stage] at done
      cases done
    rw [List.getElem?_set_ne apart]
    exact paired.results done

/-- Where every task has given its slot back every job has ended. -/
theorem Paired.ended_of_allReleased (paired : c.Paired entries) (all : c.pool.allReleased)
    (job : Job τ σ) (mem : job ∈ c.jobs) : ∃ result, job = .ended result := by
  obtain ⟨k, here⟩ := List.getElem?_of_mem mem
  have inside : k < c.pool.tasks.length := paired.length_eq ▸ (List.getElem?_eq_some_iff.mp here).1
  obtain ⟨result, released⟩ := Pool.exists_result?_of_allReleased all inside
  have done : c.pool.result? k = some result := by
    rw [Pool.result?, released]
    rfl
  exact ⟨result, Option.some.inj (here.symm.trans (paired.results done))⟩

/-! ### Records -/

section Records

variable (paired : c.Paired entries) {records : List (Record σ)}
  (jobs : c.jobs = records.map fun record => .ended (.ok record))
include paired jobs

/-- Where every job has come to a record, a task that is done has come to the one in its place. -/
theorem Paired.exists_record {result : Except Fault (Record σ)}
    (done : c.pool.result? k = some result) :
    ∃ record, result = .ok record ∧ records[k]? = some record := by
  have ended := paired.results done
  rw [jobs, List.getElem?_map] at ended
  obtain ⟨record, here, same⟩ := Option.map_eq_some_iff.mp ended
  cases same
  exact ⟨record, rfl, here⟩

/-- Then the caller leaves with these records, in some order. -/
theorem Paired.outcome_of_records (gathered : c.pool.Gathered) (final : c.pool.IsFinal) :
    ∃ collected, c.outcome? = some (.returned collected) ∧ collected.Perm records := by
  have left : c.pool.caller = .left none := by
    obtain ⟨found, left⟩ := final
    cases found with
    | none => exact left
    | some fault =>
        obtain ⟨k, failed⟩ := gathered.raised left
        obtain ⟨record, ⟨⟩, -⟩ := paired.exists_record jobs failed
  have length_eq : records.length = c.pool.tasks.length := by
    rw [← paired.length_eq, jobs, List.length_map]
  have keys := gathered.keys_perm (gathered.complete left).2
  rw [← length_eq] at keys
  have told : (c.pool.collected.map fun collected => id collected.2).Perm (records.map id) := by
    apply Pool.values_perm id id keys
    intro k value record mem here
    obtain ⟨_, ⟨⟩, there⟩ := paired.exists_record jobs (gathered.result mem)
    exact Option.some.inj (there.symm.trans here)
  rw [List.map_id] at told
  exact ⟨c.pool.collected.map Prod.snd, by rw [outcome?, left], told⟩

end Records

variable [Clock τ] {setting : Entry τ → World.Setting τ} {c' : Crew τ σ} {s : Step τ}
  {steps : List (Step τ)}

/-! ### The clock -/

def Step.isClock : Step τ → Bool
  | .later _ | .fire _ => true
  | _ => false

/-- The clock does not change how far the tasks are. -/
theorem clock_run (clock : ∀ time ∈ steps, time.isClock) (runs : c.run setting r steps = some c') :
    c'.pool = c.pool ∧ c'.jobs = c.jobs := by
  refine isRun.history_of_mem (I := fun _ c' => c'.pool = c.pool ∧ c'.jobs = c.jobs) ?_ [] runs
    ⟨rfl, rfl⟩
  intro _ _ _ s mem same makes
  have time := clock s mem
  cases move_of_step makes with
  | later | fire => exact same
  | pool pool isStep => cases isStep <;> cases time
  | submit | work | leave => cases time

/-! ### Batches go on -/

/-- A step of the pool that does not end a task is one of the batch, and not one of a job. -/
theorem exists_step_of_pool {s : Pool.Step (Record σ)} (other : ∀ k result, s ≠ .finish k result)
    (makes : (c.pool.step s).isSome) :
    ∃ (s : Step τ) (c' : Crew τ σ), s.isClock = false ∧ (∀ k, s ≠ .work k) ∧
      c.step setting r s = some c' := by
  obtain ⟨pool, makes⟩ := Option.isSome_iff_exists.mp makes
  have made := onPool_eq makes
  cases s with
  | take => exact ⟨.take, _, rfl, nofun, made⟩
  | acquire => exact ⟨.acquire, _, rfl, nofun, made⟩
  | submit => exact ⟨.submit, _, rfl, nofun, Option.map_eq_some_iff.mpr ⟨_, made, rfl⟩⟩
  | begin k => exact ⟨.begin k, _, rfl, nofun, made⟩
  | finish k result => exact absurd rfl (other k result)
  | release k => exact ⟨.release k, _, rfl, nofun, made⟩
  | collect k => exact ⟨.collect k, _, rfl, nofun, made⟩
  | leave => exact ⟨.leave, _, rfl, nofun, Option.map_eq_some_iff.mpr ⟨_, made, rfl⟩⟩

variable (setting r) in
/-- Unless the caller has left, a step can be made that is neither of the clock nor of a job, or a
task runs whose job has not ended. -/
theorem exists_step_or_works (workers : 0 < c.pool.size) (slotted : c.pool.Slotted size entries)
    (gathered : c.pool.Gathered) (paired : c.Paired entries) (unfinished : ¬ c.pool.IsFinal) :
    (∃ s c', s.isClock = false ∧ (∀ k, s ≠ .work k) ∧ c.step setting r s = some c') ∨
      ∃ (k : Nat) (entry : Entry τ) (job : Job τ σ),
        c.pool.tasks[k]? = some ⟨entry, .running⟩ ∧ c.jobs[k]? = some job ∧
        ∀ result, job ≠ .ended result := by
  rcases Pool.canGoOn workers slotted gathered unfinished with ⟨k, ends⟩ | ⟨s, other, makes⟩
  · obtain ⟨pool, finishes⟩ := Option.isSome_iff_exists.mp (ends (.error .tooDeep))
    cases Pool.move_of_step finishes with
    | finish _ _ running =>
        obtain ⟨⟨entry, stage⟩, there, same⟩ := Option.map_eq_some_iff.mp running
        obtain rfl : stage = .running := same
        have inside : k < c.jobs.length := paired.length_eq ▸ (List.getElem?_eq_some_iff.mp there).1
        have here : c.jobs[k]? = some c.jobs[k] := List.getElem?_eq_getElem inside
        by_cases ended : ∃ result, c.jobs[k] = .ended result
        · obtain ⟨result, ended⟩ := ended
          obtain ⟨pool, makes⟩ := Option.isSome_iff_exists.mp (ends result)
          refine .inl ⟨.finish k, { c with pool }, rfl, nofun, ?_⟩
          simp only [step, here, ended]
          exact onPool_eq makes
        · exact .inr ⟨k, entry, _, there, here, not_exists.mp ended⟩
  · exact .inl (exists_step_of_pool other makes)

variable (setting r) in
/-- Unless the caller has left, a step can be made that is not one of the clock, or a task runs
whose job has not ended and cannot go on. -/
theorem exists_step_or_blocked (workers : 0 < c.pool.size) (slotted : c.pool.Slotted size entries)
    (gathered : c.pool.Gathered) (paired : c.Paired entries)
    (unfinished : ¬ c.pool.IsFinal) :
    (∃ s c', s.isClock = false ∧ c.step setting r s = some c') ∨
      ∃ (k : Nat) (entry : Entry τ) (job : Job τ σ),
        c.pool.tasks[k]? = some ⟨entry, .running⟩ ∧ c.jobs[k]? = some job ∧
        (∀ result, job ≠ .ended result) ∧
        job.step (setting entry) r entry c.scope c.world = none := by
  rcases exists_step_or_works r setting workers slotted gathered paired unfinished with
    ⟨s, c', other, -, makes⟩ | ⟨k, entry, job, there, here, going⟩
  · exact .inl ⟨s, c', other, makes⟩
  cases makes : job.step (setting entry) r entry c.scope c.world with
  | none => exact .inr ⟨k, entry, job, there, here, going, makes⟩
  | some next =>
      refine .inl ⟨.work k, { c with jobs := c.jobs.set k next.1, world := next.2 }, rfl, ?_⟩
      simp only [step, there, here, makes, Option.map_some]

/-! ### Batches end -/

/-- What is left to do of a batch: steps of its pool, and what its jobs are at. -/
def left (c : Crew τ σ) : Nat × Multiset (Job τ σ) := (c.pool.remaining, c.jobs)

/-- Less is left to do: fewer steps of the pool, or one job has gone on. -/
abbrev Less (r : Runner τ σ) : Nat × Multiset (Job τ σ) → Nat × Multiset (Job τ σ) → Prop :=
  Prod.Lex (· < ·) (Relation.CutExpand (Job.Onward r))

/-- What is left to do of a batch cannot become less for ever. -/
theorem less_wellFounded (r : Runner τ σ) : WellFounded (Less r) :=
  WellFounded.prod_lex Nat.lt_wfRel.wf (WellFounded.intro Job.acc_onward).cutExpand

/-- An element of a list takes the place of another. -/
theorem set_perm {α : Type} {l : List α} {a b : α} (here : l[k]? = some a) :
    (l.set k b ++ [a]).Perm (l ++ [b]) := by
  obtain ⟨inside, rfl⟩ := List.getElem?_eq_some_iff.mp here
  have after := List.set_perm_cons_eraseIdx inside b
  have before := (List.getElem_cons_eraseIdx_perm inside).symm
  calc (l.set k b ++ [l[k]]).Perm (b :: l.eraseIdx k ++ [l[k]]) := after.append_right _
    _ |>.Perm (b :: l[k] :: l.eraseIdx k) := (List.perm_append_singleton ..).cons b
    _ |>.Perm (b :: l) := before.symm.cons b
    _ |>.Perm (l ++ [b]) := (List.perm_append_singleton b l).symm

/-- A step of a batch that is not one of the clock leaves less to do. -/
theorem step_left (gathered : c.pool.Gathered) (other : s.isClock = false)
    (makes : c.step setting r s = some c') : Less r c'.left c.left := by
  have fewer {s : Pool.Step (Record σ)} {pool : Pool (Entry τ) (Record σ)}
      (makes : c.pool.step s = some pool) (jobs : Multiset (Job τ σ)) :
      Less r (pool.remaining, jobs) c.left :=
    .left _ _ (Pool.remaining_lt gathered makes)
  cases move_of_step makes with
  | later | fire => cases other
  | pool pool _ steps => exact fewer steps _
  | submit pool steps => exact fewer steps _
  | leave pool steps => exact fewer steps _
  | work k entry job job' world running here works =>
      refine .right _ ⟨{job'}, job, ?_, ?_⟩
      · intro _ mem
        rw [Multiset.mem_singleton.mp mem]
        exact ⟨_, _, _, _, _, works⟩
      · exact Multiset.coe_eq_coe.mpr (set_perm here)

/-- So does such a step after the clock has gone on. -/
theorem run_left {times : List (Step τ)} (gathered : c.pool.Gathered)
    (clock : ∀ time ∈ times, time.isClock) (other : s.isClock = false)
    (runs : c.run setting r (times ++ [s]) = some c') : Less r c'.left c.left := by
  obtain ⟨between, passes, makes⟩ := isRun.append_eq_some_iff.mp runs
  obtain ⟨samePool, sameJobs⟩ := clock_run clock passes
  have less := step_left (samePool ▸ gathered) other (isRun.singleton_eq_some_iff.mp makes)
  rwa [left, left, samePool, sameJobs] at less

end Checkup.Crew
