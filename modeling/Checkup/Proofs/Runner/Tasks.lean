import Checkup.Proofs.Runner.Calls

/-!
One task of a batch, as its job goes on.

Whatever the others do, the job of a task makes its own steps one after the other, and before each
of them it finds the world as any action may leave it. So what each of its steps keeps, the whole
run keeps. Besides what its steps make of its probe, this tells what the probe is told of the world
on its way, apart from its scopes (`Answer`).

Main statements: `turn_of_step` (a step of a batch leaves the job as it is, or is one of its own) and
`run_job` (what every step of the job keeps, holds after a run).
-/

namespace Checkup

open Clock (IsTime)
open Runner (Verdict)

variable {τ σ : Type} [Clock τ]

/-! ### What probes are told -/

/-- What a probe is told that asks for something other than a scope. -/
inductive Answer (τ : Type) where
  | known (known : Bool)
  | now (now : τ)
  | total (total : Nat)
  | registered (fault : Option Fault)
  | removed (removed : Bool)
  | ran (answer : Except Fault (Option String))
  | host (host : Host)

/-- What a probe is told by what comes next in it, if that asks for something other than a scope. -/
def Probe.answer? (setting : World.Setting τ) (scopeOf : Handle → ScopeId) (w : World τ) :
    Probe τ → Option (Answer τ)
  | .knows scope _ => some (.known (Ordered.has w.names scope))
  | .clock _ => some (.now w.line.now)
  | .total _ => some (.total (w.store setting.store).total)
  | .register check probe _ =>
    match w.register setting.store { check, probe, service := setting.service } with
    | .ok _ => some (.registered none)
    | .error fault => some (.registered (some fault))
  | .unregister category name _ => some (.removed (w.unregister setting.store category name).1)
  | .runCheck category name scope _ =>
    match (setting.runCheck category name (scope.map scopeOf) w).1 with
    | .returned summary => some (.ran (.ok summary))
    | .raised fault => some (.ran (.error fault))
    | .stalled => none
  | .host _ => some (.host w.host)
  | _ => none

/-- What the probe of a job is told by the next step of the job. -/
def Job.answer? (setting : World.Setting τ) : Job τ σ → World τ → Option (Answer τ)
  | .acting frame probe, w => probe.answer? setting frame.scopeOf w
  | _, _ => none

namespace Crew

/-- The job of a task, which has not begun before the task is submitted. -/
def jobOf (c : Crew τ σ) (k : Nat) : Job τ σ := c.jobs[k]?.getD .fresh

/-- What the probe of a task is told by a step of a batch. -/
def answer? (setting : Entry τ → World.Setting τ) (c : Crew τ σ) (k : Nat) :
    Step τ → Option (Answer τ)
  | .work j =>
    if j = k then
      c.pool.tasks[k]?.bind fun task => (c.jobOf k).answer? (setting task.item) c.world
    else none
  | _ => none

/-- What the probe of a task is told by the steps of a batch, in the order in which they are
made. -/
def answers (setting : Entry τ → World.Setting τ) (r : Runner τ σ) (k : Nat) (c : Crew τ σ) :
    List (Step τ) → List (Answer τ)
  | [] => []
  | s :: steps => (c.answer? setting k s).toList ++
      (c.step setting r s).elim [] fun c => c.answers setting r k steps

/-! ### Steps of one job -/

variable [Clock.Ordered τ] {setting : Entry τ → World.Setting τ} {r : Runner τ σ} {limit : τ}
  {R P : Timeline τ → ScopeId → Prop} {entries : List (Entry τ)} {caller : ScopeId}
  {marks : List (Nat × Mark)} {c c' : Crew τ σ} {s : Step τ} {steps : List (Step τ)} {k : Nat}
  {entry : Entry τ}

omit [Clock τ] [Clock.Ordered τ] in
theorem jobOf_eq {job : Job τ σ} (here : c.jobs[k]? = some job) : c.jobOf k = job := by
  rw [jobOf, here, Option.getD_some]

/-- A step of a batch leaves the job of a task as it is and tells its probe nothing, or is a step of
that job. -/
inductive Turn (setting : Entry τ → World.Setting τ) (r : Runner τ σ) (entry : Entry τ) (k : Nat)
    (c : Crew τ σ) (s : Step τ) (c' : Crew τ σ) : Prop
  | others : c'.jobOf k = c.jobOf k → Mark.of k (c.mark? s).toList = [] →
      c.answer? setting k s = none → Turn setting r entry k c s c'
  | own : c.jobOf k ∈ c.jobs →
      (c.jobOf k).step (setting entry) r entry c.scope c.world = some (c'.jobOf k, c'.world) →
      Mark.of k (c.mark? s).toList = ((c.jobOf k).mark? c.world).toList →
      c.answer? setting k s = (c.jobOf k).answer? (setting entry) c.world →
      Turn setting r entry k c s c'

omit [Clock.Ordered τ] in
/-- A step of a batch is one of the job of a task, or leaves that job as it is. -/
theorem turn_of_step (itemized : c.pool.Itemized entries) (at' : entries[k]? = some entry)
    (makes : c.step setting r s = some c') : Turn setting r entry k c s c' := by
  cases move_of_step makes with
  | pool pool isStep => cases isStep <;> exact .others rfl rfl rfl
  | leave | later | fire => exact .others rfl rfl rfl
  | submit pool =>
      refine .others ?_ rfl rfl
      simp only [jobOf, List.getElem?_append, List.getElem?_singleton]
      split
      · rfl
      · rename_i beyond
        rw [List.getElem?_eq_none (Nat.le_of_not_lt beyond)]
        split <;> rfl
  | work j task job job' world running here works =>
      have mark : c.mark? (.work j) = (job.mark? c.world).map fun mark => (j, mark) := by
        rw [mark?, here, Option.bind_some]
      have inside := (List.getElem?_eq_some_iff.mp here).1
      by_cases same : j = k
      · subst same
        obtain rfl : entry = task :=
          Option.some.inj (at'.symm.trans (itemized.item_eq running))
        have after : (c.jobs.set j job')[j]? = some job' := List.getElem?_set_self inside
        refine .own ?_ ?_ ?_ ?_
        · rw [jobOf_eq here]
          exact List.mem_of_getElem? here
        · rw [jobOf_eq here, jobOf_eq (c := { c with jobs := c.jobs.set j job', world }) after]
          exact works
        · rw [mark, Mark.of_self, jobOf_eq here]
        · rw [answer?, if_pos rfl, running, Option.bind_some]
      · refine .others ?_ ?_ (if_neg same)
        · rw [jobOf, jobOf, List.getElem?_set_ne same]
        · rw [mark, Mark.of_other same]

/-! ### Runs of one job -/

/-- What is kept by every step of the job of a task, of its marks and of what its probe is told,
holds after a run. -/
theorem run_job {J : List Mark → List (Answer τ) → Job τ σ → Prop} (told : List (Answer τ))
    (down : Job.HandsDown r R P) (nests : ∀ entry, Job.NestsOn (setting entry))
    (deadline : r.timeout.seconds? = .ok limit) (stamps : ∀ now, ∃ stamp, r.stamp now = .ok stamp)
    (at' : entries[k]? = some entry)
    (keeps : ∀ {marks told job job' scope w w'}, w.line.forest.Settled → IsTime w.line.now →
      R w.line scope → job.Placed r P w.line → J marks told job →
      job.step (setting entry) r entry scope w = some (job', w') →
      J (marks ++ (job.mark? w).toList) (told ++ (job.answer? (setting entry) w).toList) job')
    (underWay : c.UnderWay r R P entries caller marks)
    (holds : J (Mark.of k marks) told (c.jobOf k)) (runs : c.run setting r steps = some c') :
    J (Mark.of k (marks ++ c.told setting r steps)) (told ++ c.answers setting r k steps)
      (c'.jobOf k) := by
  induction steps generalizing marks told c with
  | nil =>
      cases runs
      rwa [Crew.told, answers, List.append_nil, List.append_nil]
  | cons s steps ih =>
      obtain ⟨between, makes, goesOn⟩ := Option.bind_eq_some_iff.mp runs
      have later := step_underWay down nests deadline stamps underWay makes
      rw [Crew.told, answers, makes, ← List.append_assoc, ← List.append_assoc]
      refine ih _ later ?_ goesOn
      rw [Mark.of_append]
      cases turn_of_step underWay.itemized at' makes with
      | others same unmarked silent =>
          rw [same, unmarked, silent, Option.toList_none, List.append_nil, List.append_nil]
          exact holds
      | own mem works mark answer =>
          rw [mark, answer]
          exact keeps underWay.settled underWay.isTime underWay.root
            (underWay.placed _ mem) holds works

/-- In the end the job of every entry has ended, with what its task has come to. -/
theorem UnderWay.jobOf_of_isFinal (underWay : c.UnderWay r R P entries caller marks)
    (final : c.pool.IsFinal) (all : c.pool.allReleased) (at' : entries[k]? = some entry) :
    ∃ result, c.jobOf k = .ended result := by
  obtain ⟨_, _, result, -, done, -, -⟩ := underWay.called_once final all at'
  exact ⟨result, jobOf_eq (underWay.results done)⟩

end Crew

/-! ### A job alone -/

namespace Job

variable {setting : World.Setting τ} {r : Runner τ σ} {entry : Entry τ} {scope : ScopeId}
  {job job' : Job τ σ} {w w' : World τ} {limit : τ} {marks more : List Mark}

/-- A job that goes alone, with what its steps make of its probe. -/
inductive Tells (setting : World.Setting τ) (r : Runner τ σ) (entry : Entry τ) (scope : ScopeId) :
    List Mark → Job τ σ → World τ → Job τ σ → World τ → Prop
  | refl (job : Job τ σ) (w : World τ) : Tells setting r entry scope [] job w job w
  | step {marks : List Mark} {job job' job'' : Job τ σ} {w w' w'' : World τ} :
      job.step setting r entry scope w = some (job', w') →
      Tells setting r entry scope marks job' w' job'' w'' →
      Tells setting r entry scope ((job.mark? w).toList ++ marks) job w job'' w''
  | elapse {marks : List Mark} {job job' : Job τ σ} {w w' : World τ} {t : Timeline τ} :
      w.line.Elapses t → Tells setting r entry scope marks job { w with line := t } job' w' →
      Tells setting r entry scope marks job w job' w'

theorem GoesAlone.exists_tells (goes : GoesAlone setting r entry scope job w job' w') :
    ∃ marks, Tells setting r entry scope marks job w job' w' := by
  induction goes with
  | refl => exact ⟨[], .refl ..⟩
  | step makes _ ih =>
      obtain ⟨marks, tells⟩ := ih
      exact ⟨_, .step makes tells⟩
  | elapse passes _ ih =>
      obtain ⟨marks, tells⟩ := ih
      exact ⟨marks, .elapse passes tells⟩

/-- What a job tells while it goes alone tells how far it is. -/
theorem Tells.accounts (deadline : r.timeout.seconds? = .ok limit)
    (stamps : ∀ now, ∃ stamp, r.stamp now = .ok stamp)
    (tells : Tells setting r entry scope more job w job' w')
    (accounts : job.Accounts entry.check marks) : job'.Accounts entry.check (marks ++ more) := by
  induction tells generalizing marks with
  | refl => rwa [List.append_nil]
  | step makes _ ih =>
      rw [← List.append_assoc]
      exact ih (accounts_step deadline stamps accounts makes)
  | elapse _ _ ih => exact ih accounts

/-- A run of an entry whose probe returns, or raises what is caught, calls the probe once, under a
scope of its own, sees it end once, and comes to a record that shows how. -/
theorem executeIn_calls_once (deadline : r.timeout.seconds? = .ok limit)
    (stamps : ∀ now, ∃ stamp, r.stamp now = .ok stamp)
    (ordinary : (Runner.probeRun setting r limit entry scope w).1.IsOrdinary) :
    ∃ record own outcome, (r.executeIn setting entry scope w).1 = .returned record ∧
      Tells setting r entry scope [.called own, .came outcome] .fresh w (.ended (.ok record))
        (r.executeIn setting entry scope w).2 ∧
      Shows entry.check outcome (.ok record) ∧
      Shows entry.check (Runner.probeRun setting r limit entry scope w).1 (.ok record) := by
  obtain ⟨⟨error, details⟩, shown⟩ := Verdict.isOrdinary_iff.mp ordinary
  obtain ⟨stamp, stamped⟩ := stamps (Runner.probeRun setting r limit entry scope w).2.line.now
  have returned := (Runner.executeIn_returned_iff deadline).mpr
    ⟨stamp, error, details, stamped, shown, rfl⟩
  obtain ⟨result, comes, goes⟩ := executeIn_goesAlone setting r entry scope w (by rw [returned]; nofun)
  rw [returned] at comes
  obtain ⟨record, rfl⟩ : ∃ record, result = .ok record := by
    cases result with
    | ok record => exact ⟨record, rfl⟩
    | error fault => cases comes
  cases comes
  obtain ⟨marks, tells⟩ := goes.exists_tells
  have fresh : (.fresh : Job τ σ).Accounts entry.check [] := rfl
  obtain ⟨own, outcome, rfl, shows⟩ := tells.accounts deadline stamps fresh
  exact ⟨_, own, outcome, returned, tells, shows, rfl, shown⟩

end Job

end Checkup
