import Checkup.Proofs.Pool.Batch
import Checkup.Proofs.Runner.Alone
import Checkup.Runner.Crew

/-!
Steps of a batch, and the batch at once.

A pool that runs one entry after the other, each by a job alone, comes to what `runAll` comes to. So
what holds of every order of steps holds of that.

Main statements: `move_of_step` (all that a step needs and does) and `runAll_is_scheduled` (a batch
in order is one order of the steps of a pool, whatever its size).
-/

namespace Checkup

variable {τ σ : Type} [Clock τ]

namespace Crew

variable {setting : Entry τ → World.Setting τ} {r : Runner τ σ} {c c' c'' : Crew τ σ}
  {steps more : List (Step τ)} {k : Nat}

theorem isRun : IsRun (step setting r) (run setting r) := ⟨fun _ => rfl, fun _ _ _ => rfl⟩

omit [Clock τ] in
theorem onPool_eq {pool : Pool (Entry τ) (Record σ)} {s : Pool.Step (Record σ)}
    (makes : c.pool.step s = some pool) : c.onPool s = some { c with pool } := by
  rw [onPool, makes, Option.map_some]

/-! ### Steps -/

/-- The steps of a batch that its pool makes alone. A task ends with what its job has come to. -/
inductive PoolStep (c : Crew τ σ) : Step τ → Pool.Step (Record σ) → Prop
  | take : PoolStep c .take .take
  | acquire : PoolStep c .acquire .acquire
  | begin (k : Nat) : PoolStep c (.begin k) (.begin k)
  | finish (k : Nat) (result : Except Fault (Record σ)) : c.jobs[k]? = some (.ended result) →
      PoolStep c (.finish k) (.finish k result)
  | release (k : Nat) : PoolStep c (.release k) (.release k)
  | collect (k : Nat) : PoolStep c (.collect k) (.collect k)

/-- All that a step of a batch needs and does. -/
inductive Move (setting : Entry τ → World.Setting τ) (r : Runner τ σ) (c : Crew τ σ) :
    Step τ → Crew τ σ → Prop
  | pool {s : Step τ} {s' : Pool.Step (Record σ)} (pool : Pool (Entry τ) (Record σ)) :
      PoolStep c s s' → c.pool.step s' = some pool → Move setting r c s { c with pool }
  | submit (pool : Pool (Entry τ) (Record σ)) : c.pool.step .submit = some pool →
      Move setting r c .submit { c with pool, jobs := c.jobs ++ [.fresh] }
  | work (k : Nat) (entry : Entry τ) (job job' : Job τ σ) (world : World τ) :
      c.pool.tasks[k]? = some ⟨entry, .running⟩ → c.jobs[k]? = some job →
      job.step (setting entry) r entry c.scope c.world = some (job', world) →
      Move setting r c (.work k) { c with jobs := c.jobs.set k job', world }
  | leave (pool : Pool (Entry τ) (Record σ)) : c.pool.step .leave = some pool →
      Move setting r c .leave
        { c with pool, world := { c.world with line := c.world.line.close c.scope } }
  | later (now : τ) : Move setting r c (.later now)
      (c.withLine { c.world.line with now := Clock.later c.world.line.now now })
  | fire (limit : Option τ) (timer : Timer τ) (others : List (Timer τ)) :
      Timeline.takeDue? limit c.world.line.timers = some (timer, others) →
      Move setting r c (.fire limit) (c.withLine (c.world.line.fire timer others))

/-- Every step of a batch is one of those that `Move` names. -/
theorem move_of_step {s : Step τ} (makes : c.step setting r s = some c') :
    c.Move setting r s c' := by
  have alone {s' : Pool.Step (Record σ)} (isStep : PoolStep c s s')
      (makes : c.onPool s' = some c') : c.Move setting r s c' := by
    obtain ⟨pool, steps, rfl⟩ := Option.map_eq_some_iff.mp makes
    exact .pool pool isStep steps
  cases s with
  | take => exact alone .take makes
  | acquire => exact alone .acquire makes
  | begin k => exact alone (.begin k) makes
  | release k => exact alone (.release k) makes
  | collect k => exact alone (.collect k) makes
  | finish k =>
      simp only [step] at makes
      split at makes
      · rename_i result here
        exact alone (.finish k result here) makes
      · cases makes
  | submit =>
      obtain ⟨between, submits, rfl⟩ := Option.map_eq_some_iff.mp makes
      obtain ⟨pool, steps, rfl⟩ := Option.map_eq_some_iff.mp submits
      exact .submit pool steps
  | leave =>
      obtain ⟨between, leaves, rfl⟩ := Option.map_eq_some_iff.mp makes
      obtain ⟨pool, steps, rfl⟩ := Option.map_eq_some_iff.mp leaves
      exact .leave pool steps
  | work k =>
      simp only [step] at makes
      split at makes
      · rename_i entry job running here
        obtain ⟨⟨job', world⟩, works, rfl⟩ := Option.map_eq_some_iff.mp makes
        exact .work k entry job job' world running here works
      · cases makes
  | later now =>
      cases makes
      exact .later now
  | fire limit =>
      obtain ⟨⟨timer, others⟩, found, rfl⟩ := Option.map_eq_some_iff.mp makes
      exact .fire limit timer others found

/-! ### A batch in order -/

/-- Time may pass. -/
theorem run_elapses (setting : Entry τ → World.Setting τ) (r : Runner τ σ) (c : Crew τ σ)
    {t t' : Timeline τ} (passes : t.Elapses t') :
    ∃ steps, (c.withLine t).run setting r steps = some (c.withLine t') := by
  induction passes with
  | refl t => exact ⟨[], rfl⟩
  | later now _ ih =>
      obtain ⟨steps, runs⟩ := ih
      exact ⟨.later now :: steps, runs⟩
  | @fire t t' limit timer others found _ ih =>
      obtain ⟨steps, runs⟩ := ih
      refine ⟨.fire limit :: steps, isRun.head ?_ runs⟩
      exact Option.map_eq_some_iff.mpr ⟨_, found, rfl⟩

/-- A job that goes alone makes steps of a crew. -/
theorem run_goesAlone {pool : Pool (Entry τ) (Record σ)} {jobs : List (Job τ σ)} {scope : ScopeId}
    {entry : Entry τ} {job job' : Job τ σ} {w w' : World τ}
    (goes : job.GoesAlone (setting entry) r entry scope w job' w')
    (running : pool.tasks[k]? = some ⟨entry, .running⟩) (here : jobs[k]? = some job) :
    ∃ steps, ({ pool, jobs, scope, world := w } : Crew τ σ).run setting r steps =
      some { pool, jobs := jobs.set k job', scope, world := w' } := by
  induction goes generalizing jobs with
  | refl job w =>
      obtain ⟨inside, rfl⟩ := List.getElem?_eq_some_iff.mp here
      exact ⟨[], by rw [List.set_getElem_self]; rfl⟩
  | @step job job' job'' w w' w'' makes _ ih =>
      have inside := (List.getElem?_eq_some_iff.mp here).1
      obtain ⟨steps, runs⟩ := ih (List.getElem?_set_self inside)
      rw [List.set_set] at runs
      refine ⟨.work k :: steps, isRun.head ?_ runs⟩
      simp only [step, running, here, makes, Option.map_some]
  | @elapse job job' w w' t passes _ ih =>
      obtain ⟨first, elapses⟩ := run_elapses setting r { pool, jobs, scope, world := w } passes
      obtain ⟨steps, runs⟩ := ih here
      exact ⟨first ++ steps, isRun.append elapses runs⟩

/-- A batch whose first entries have come to results, each with its slot given back, and whose other
entries are ahead. -/
def afterFirst (size : Nat) (done : List (Entry τ × Except Fault (Record σ)))
    (ahead : List (Entry τ)) (scope : ScopeId) (w : World τ) : Crew τ σ where
  pool :=
    { size, ahead, slots := size, issued := done.length
      tasks := done.map fun d => ⟨d.1, .released d.2⟩ }
  jobs := done.map fun d => .ended d.2
  scope := scope
  world := w

section Last

omit [Clock τ]

variable {p : Pool (Entry τ) (Record σ)} {tasks : List (Task (Entry τ) (Record σ))}
  {task : Task (Entry τ) (Record σ)} (all : p.tasks = tasks ++ [task]) (last : tasks.length = k)
include all last

theorem stage?_last : p.stage? k = some task.stage := by
  subst last
  simp [Pool.stage?, all]

theorem setStage_last (stage : TaskStage (Record σ)) :
    p.setStage k stage = { p with tasks := tasks ++ [{ task with stage }] } := by
  have modified : (tasks ++ [task]).modify k (fun t => { t with stage }) =
      tasks ++ [{ task with stage }] := by
    clear all
    induction tasks generalizing k with
    | nil =>
        subst last
        rfl
    | cons first tasks ih =>
        subst last
        exact congrArg (first :: ·) (ih rfl)
  rw [Pool.setStage, all, modified]

end Last

/-- The next entry is run on its own. -/
theorem run_next {size : Nat} (workers : 0 < size)
    {done : List (Entry τ × Except Fault (Record σ))} {entry : Entry τ} {ahead : List (Entry τ)}
    {scope : ScopeId} {w w' : World τ} {result : Except Fault (Record σ)}
    (goes : Job.GoesAlone (setting entry) r entry scope .fresh w (.ended result) w') :
    ∃ steps, (afterFirst size done (entry :: ahead) scope w).run setting r steps =
      some (afterFirst size (done ++ [(entry, result)]) ahead scope w') := by
  let first : List (Task (Entry τ) (Record σ)) := done.map fun d => ⟨d.1, .released d.2⟩
  have last : first.length = done.length := List.length_map ..
  let pool (stage : TaskStage (Record σ)) (issued : Nat) : Pool (Entry τ) (Record σ) :=
    { size, ahead, slots := size - 1, tasks := first ++ [⟨entry, stage⟩], issued }
  let jobs (job : Job τ σ) : List (Job τ σ) := (done.map fun d => .ended d.2) ++ [job]
  let crew (stage : TaskStage (Record σ)) (issued : Nat) (job : Job τ σ) (w : World τ) : Crew τ σ :=
    ⟨pool stage issued, jobs job, scope, w⟩
  have submits : (afterFirst size done (entry :: ahead) scope w).run setting r
      [.take, .acquire, .submit] = some (crew .queued done.length .fresh w) := by
    simp [run, step, onPool, Pool.step, afterFirst, crew, pool, jobs, workers, first]
  have begins : (crew .queued done.length .fresh w).step setting r (.begin done.length) =
      some (crew .running (done.length + 1) .fresh w) := by
    have idle : (pool .queued done.length).running = 0 := by
      simp [Pool.running, pool, first, TaskStage.isRunning]
    have inLine : ((pool .queued done.length).tasks.take done.length).all
        (fun t => !t.stage.isQueued) := by
      simp [pool, first, TaskStage.isQueued]
    refine onPool_eq (c := crew .queued done.length .fresh w) ?_
    rw [Pool.step, stage?_last rfl last, setStage_last rfl last, idle, inLine]
    simp [crew, pool, workers]
  obtain ⟨works, executes⟩ := run_goesAlone goes
    (show (pool .running (done.length + 1)).tasks[done.length]? = some ⟨entry, .running⟩ by
      simp [pool, ← last])
    (show (jobs .fresh)[done.length]? = some .fresh by
      simp [jobs])
  have replaced : (jobs .fresh).set done.length (.ended result) = jobs (.ended result) := by
    simp [jobs]
  rw [replaced] at executes
  have ends : (crew .running (done.length + 1) (.ended result) w').step setting r
      (.finish done.length) = some (crew (.ended result) (done.length + 1) (.ended result) w') := by
    have here : (jobs (.ended result))[done.length]? = some (.ended result) := by
      simp [jobs]
    simp only [step, crew, here]
    refine onPool_eq ?_
    rw [Pool.step, stage?_last rfl last, setStage_last rfl last]
  have releases : (crew (.ended result) (done.length + 1) (.ended result) w').step setting r
      (.release done.length) =
        some (afterFirst size (done ++ [(entry, result)]) ahead scope w') := by
    have released : (pool (.ended result) (done.length + 1)).step (.release done.length) =
        some (afterFirst size (done ++ [(entry, result)]) ahead scope w').pool := by
      rw [Pool.step, stage?_last rfl last]
      dsimp only
      rw [setStage_last rfl last]
      simp [pool, afterFirst, first]
    rw [step, onPool_eq released]
    simp [crew, jobs, afterFirst]
  exact ⟨_, isRun.append submits (isRun.head begins (isRun.append executes
    (isRun.head ends (isRun.head releases (isRun.nil _)))))⟩

/-- Entries are run one after the other. -/
theorem run_each {services : Array (Service τ σ)} {size : Nat} (workers : 0 < size)
    (entries : List (Entry τ)) (done : List (Entry τ × Except Fault (Record σ))) (scope : ScopeId)
    (w : World τ) (ends : .stalled ∉ (r.runEach services scope entries w).1) :
    ∃ steps results, results.length = entries.length ∧
      (r.runEach services scope entries w).1 = results.map Outcome.ofExcept ∧
      (afterFirst size done entries scope w).run (Runner.settingOf services) r steps =
        some (afterFirst size (done ++ entries.zip results) [] scope
          (r.runEach services scope entries w).2) := by
  induction entries generalizing done w with
  | nil => exact ⟨[], [], rfl, rfl, by rw [List.zip_nil_left, List.append_nil]; rfl⟩
  | cons entry rest ih =>
      have first : (r.runOne services entry scope w).1 ≠ .stalled :=
        (List.ne_of_not_mem_cons ends).symm
      obtain ⟨result, comes, goes⟩ := Job.executeIn_goesAlone (Runner.settingOf services entry) r
        entry scope w first
      obtain ⟨next, runs⟩ := run_next workers goes
      obtain ⟨steps, results, length, outcomes, goesOn⟩ := ih (done ++ [(entry, result)])
        (r.runOne services entry scope w).2 (List.not_mem_of_not_mem_cons ends)
      refine ⟨next ++ steps, result :: results, congrArg Nat.succ length, ?_,
        isRun.append runs ?_⟩
      · rw [List.map_cons, ← comes, ← outcomes]
        rfl
      · rw [List.append_assoc] at goesOn
        exact goesOn

omit [Clock τ] in
/-- The first fault is raised; without one the values are put together. -/
theorem gather_ofExcept_cons {β : Type} (result : Except Fault β)
    (results : List (Except Fault β)) :
    Runner.gather ((result :: results).map Outcome.ofExcept) =
      match result with
      | .error fault => .raised fault
      | .ok value => (Runner.gather (results.map Outcome.ofExcept)).map (value :: ·) := by
  have moves (results : List (Except Fault β)) :
      Runner.gather (results.map Outcome.ofExcept) ≠ .stalled := by
    intro stalled
    obtain ⟨result, -, same⟩ := List.mem_map.mp (Runner.mem_of_gather_stalled stalled)
    cases result <;> cases same
  cases result with
  | error fault =>
      cases rest : Runner.gather (results.map Outcome.ofExcept) with
      | stalled => exact absurd rest (moves results)
      | returned values => simp only [List.map_cons, Runner.gather, Outcome.ofExcept, rest]
      | raised later => simp only [List.map_cons, Runner.gather, Outcome.ofExcept, rest]
  | ok value =>
      cases rest : Runner.gather (results.map Outcome.ofExcept) with
      | stalled => exact absurd rest (moves results)
      | returned values =>
          simp only [List.map_cons, Runner.gather, Outcome.ofExcept, rest, Outcome.map]
      | raised later =>
          simp only [List.map_cons, Runner.gather, Outcome.ofExcept, rest, Outcome.map]

/-- A batch of which every entry has come to a result, some of them collected. -/
def afterAll (size : Nat) (done : List (Entry τ × Except Fault (Record σ)))
    (collected : List (Nat × Record σ)) (caller : Caller (Entry τ)) (scope : ScopeId)
    (w : World τ) : Crew τ σ :=
  { afterFirst size done [] scope w with
    pool := { (afterFirst size done [] scope w).pool with caller, collected } }

section Collect

variable {size : Nat} {before rest done : List (Entry τ × Except Fault (Record σ))}
  {entry : Entry τ} {collected : List (Nat × Record σ)} {caller : Caller (Entry τ)}
  {scope : ScopeId} {w : World τ}

omit [Clock τ] in
theorem allReleased_afterAll :
    (afterAll size done collected caller scope w).pool.allReleased = true := by
  simp [Pool.allReleased, afterAll, afterFirst, TaskStage.isReleased]

omit [Clock τ] in
theorem result?_afterAll (result : Except Fault (Record σ)) :
    ((afterAll size (before ++ (entry, result) :: rest) collected caller scope w).pool.stage?
      before.length).bind TaskStage.result? = some result := by
  simp [Pool.stage?, afterAll, afterFirst, TaskStage.result?]

/-- The caller leaves once every result is collected, and closes the scope of the batch. -/
theorem step_leave (length : collected.length = done.length) :
    (afterAll size done collected .collecting scope w).step setting r .leave =
      some (afterAll size done collected (.left none) scope
        { w with line := w.line.close scope }) := by
  have makes : (afterAll size done collected .collecting scope w).pool.step .leave =
      some (afterAll size done collected (.left none) scope w).pool := by
    rw [Pool.step, allReleased_afterAll]
    simp [afterAll, afterFirst, length]
  rw [step, onPool_eq makes]
  rfl

theorem step_leave_failing (fault : Fault) :
    (afterAll size done collected (.failing fault) scope w).step setting r .leave =
      some (afterAll size done collected (.left (some fault)) scope
        { w with line := w.line.close scope }) := by
  have makes : (afterAll size done collected (.failing fault) scope w).pool.step .leave =
      some (afterAll size done collected (.left (some fault)) scope w).pool := by
    rw [Pool.step, allReleased_afterAll]
    rfl
  rw [step, onPool_eq makes]
  rfl

/-- The caller collects the result of a task that is done. -/
theorem step_collect (older : ∀ c ∈ collected, c.1 < before.length) (value : Record σ) :
    (afterAll size (before ++ (entry, .ok value) :: rest) collected .collecting scope w).step
        setting r (.collect before.length) =
      some (afterAll size (before ++ (entry, .ok value) :: rest)
        (collected ++ [(before.length, value)]) .collecting scope w) := by
  refine onPool_eq ?_
  have new : (collected.any fun c => c.1 == before.length) = false := by
    refine List.any_eq_false.mpr fun c mem same => ?_
    exact Nat.ne_of_lt (older c mem) (beq_iff_eq.mp same)
  rw [Pool.step, result?_afterAll]
  simp only [afterAll, new]
  rfl

/-- A result that is a fault makes the caller stop collecting. -/
theorem step_collect_fault (fault : Fault) :
    (afterAll size (before ++ (entry, .error fault) :: rest) collected .collecting scope w).step
        setting r (.collect before.length) =
      some (afterAll size (before ++ (entry, .error fault) :: rest) collected (.failing fault)
        scope w) := by
  refine onPool_eq ?_
  rw [Pool.step, result?_afterAll]
  rfl

/-- The caller collects the results that are left, one after the other, and leaves. -/
theorem run_collects (setting : Entry τ → World.Setting τ) (r : Runner τ σ) (size : Nat)
    (rest before : List (Entry τ × Except Fault (Record σ)))
    (collected : List (Nat × Record σ)) (scope : ScopeId) (w : World τ)
    (length : collected.length = before.length) (older : ∀ c ∈ collected, c.1 < before.length) :
    ∃ steps c, (afterAll size (before ++ rest) collected .collecting scope w).run setting r steps =
        some c ∧ c.world = { w with line := w.line.close scope } ∧
      c.outcome? = some ((Runner.gather ((rest.map Prod.snd).map Outcome.ofExcept)).map
        (collected.map Prod.snd ++ ·)) := by
  induction rest generalizing before collected with
  | nil =>
      rw [← List.append_nil before] at length
      refine ⟨[.leave], _, isRun.head (step_leave length) (isRun.nil _), rfl, ?_⟩
      simp [outcome?, afterAll, Runner.gather, Outcome.map]
  | cons first rest ih =>
      obtain ⟨entry, result⟩ := first
      rw [List.map_cons, gather_ofExcept_cons]
      cases result with
      | error fault =>
          exact ⟨[.collect before.length, .leave], _, isRun.head (step_collect_fault fault)
            (isRun.head (step_leave_failing fault) (isRun.nil _)), rfl, rfl⟩
      | ok value =>
          obtain ⟨steps, c, runs, world, outcome⟩ := ih (before ++ [(entry, .ok value)])
            (collected ++ [(before.length, value)]) (by simp [length]) (by
              intro c mem
              rw [List.length_append, List.length_singleton]
              rcases List.mem_append.mp mem with old | new
              · exact Nat.lt_succ_of_lt (older c old)
              · rw [List.mem_singleton.mp new]
                exact Nat.lt_succ_self _)
          rw [List.append_assoc] at runs
          refine ⟨.collect before.length :: steps, c, isRun.head (step_collect older value) runs,
            world, ?_⟩
          rw [outcome]
          cases Runner.gather ((rest.map Prod.snd).map Outcome.ofExcept) <;>
            simp [Outcome.map]

end Collect

/-- A batch in order is one order of the steps of a pool, whatever its size: unless it is blocked,
the caller comes to the same, in the same world. -/
theorem runAll_is_scheduled {services : Array (Service τ σ)} {entries : List (Entry τ)}
    {caller : ScopeId} {w : World τ} {size : Nat} (workers : 0 < size)
    (ends : (r.runAll services entries caller w).1 ≠ .stalled) :
    ∃ steps c, (start size entries caller w).run (Runner.settingOf services) r steps = some c ∧
      c.outcome? = some (r.runAll services entries caller w).1 ∧
      c.world = (r.runAll services entries caller w).2 := by
  let scope := (w.line.child caller none).1
  let under : World τ := { w with line := (w.line.child caller none).2 }
  have moves : .stalled ∉ (r.runEach services scope entries under).1 := by
    intro stalled
    exact ends (Runner.gather_of_mem_stalled stalled)
  obtain ⟨steps, results, length, outcomes, runs⟩ := run_each workers entries [] scope under moves
  let done := entries.zip results
  have takes : (afterFirst size done [] scope (r.runEach services scope entries under).2).step
      (Runner.settingOf services) r .take =
        some (afterAll size done [] .collecting scope
          (r.runEach services scope entries under).2) := onPool_eq rfl
  obtain ⟨more, c, collects, world, outcome⟩ := run_collects (Runner.settingOf services) r size done
    [] [] scope (r.runEach services scope entries under).2 rfl nofun
  refine ⟨steps ++ .take :: more, c, isRun.append runs (isRun.head takes collects), ?_, world⟩
  have second : done.map Prod.snd = results := List.map_snd_zip (Nat.le_of_eq length)
  have all : (r.runAll services entries caller w).1 =
      Runner.gather (r.runEach services scope entries under).1 := rfl
  rw [outcome, second, all, outcomes]
  cases Runner.gather (results.map Outcome.ofExcept) <;> rfl

end Crew

end Checkup
