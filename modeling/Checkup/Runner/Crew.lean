import Checkup.Pool
import Checkup.Runner.Job

/-!
A batch on a pool of workers that share one world, as a system of steps.

`Runner.runAll` runs the entries of a batch one after the other. Here the pool of workers says which
of them have begun, each that has begun is a job, and any of these may make the next step. In
between the clock may go on and timers may fire. The scope of the batch is made before the first
entry is taken and closed when the caller leaves.
-/

namespace Checkup

/-- A pool of workers with the jobs of its tasks, the scope of the batch, and the world. -/
structure Crew (τ σ : Type) where
  pool : Pool (Entry τ) (Record σ)
  /-- How far each task is, in the order of submission. -/
  jobs : List (Job τ σ) := []
  scope : ScopeId
  world : World τ

namespace Crew

variable {τ σ : Type} [Clock τ]

/-- A batch that is about to begin below the caller's scope. -/
def start (size : Nat) (entries : List (Entry τ)) (caller : ScopeId) (w : World τ) : Crew τ σ :=
  let (scope, line) := w.line.child caller none
  { pool := .start size entries, scope, world := { w with line } }

/-- The steps of a batch; tasks are known by their places. -/
inductive Step (τ : Type) where
  | take
  | acquire
  | submit
  | begin (task : Nat)
  /-- The job of a task that runs makes its next step. -/
  | work (task : Nat)
  | finish (task : Nat)
  | release (task : Nat)
  | collect (task : Nat)
  | leave
  /-- The clock goes on. -/
  | later (now : τ)
  /-- The first of the timers due by a time fires. -/
  | fire (limit : Option τ)

def onPool (c : Crew τ σ) (s : Pool.Step (Record σ)) : Option (Crew τ σ) :=
  (c.pool.step s).map fun pool => { c with pool }

def withLine (c : Crew τ σ) (line : Timeline τ) : Crew τ σ :=
  { c with world := { c.world with line } }

/-- Makes a step; `none` if it cannot be made. -/
def step (setting : Entry τ → World.Setting τ) (r : Runner τ σ) (c : Crew τ σ) :
    Step τ → Option (Crew τ σ)
  | .take => c.onPool .take
  | .acquire => c.onPool .acquire
  | .submit => (c.onPool .submit).map fun c => { c with jobs := c.jobs ++ [.fresh] }
  | .begin k => c.onPool (.begin k)
  | .work k =>
    match c.pool.tasks[k]?, c.jobs[k]? with
    | some ⟨entry, .running⟩, some job =>
      (job.step (setting entry) r entry c.scope c.world).map fun (job, world) =>
        { c with jobs := c.jobs.set k job, world }
    | _, _ => none
  | .finish k =>
    match c.jobs[k]? with
    | some (.ended result) => c.onPool (.finish k result)
    | _ => none
  | .release k => c.onPool (.release k)
  | .collect k => c.onPool (.collect k)
  | .leave => (c.onPool .leave).map fun c => c.withLine (c.world.line.close c.scope)
  | .later now => some (c.withLine { c.world.line with now := Clock.later c.world.line.now now })
  | .fire limit =>
    (Timeline.takeDue? limit c.world.line.timers).map fun (timer, others) =>
      c.withLine (c.world.line.fire timer others)

/-- Makes steps one after the other. -/
def run (setting : Entry τ → World.Setting τ) (r : Runner τ σ) (c : Crew τ σ) :
    List (Step τ) → Option (Crew τ σ)
  | [] => some c
  | s :: steps => (c.step setting r s).bind fun c => c.run setting r steps

/-- What the caller has come to, once it has left: the records in the order in which they were
collected, or the fault that it found. -/
def outcome? (c : Crew τ σ) : Option (Outcome (List (Record σ))) :=
  match c.pool.caller with
  | .left none => some (.returned (c.pool.collected.map Prod.snd))
  | .left (some fault) => some (.raised fault)
  | _ => none

end Crew

end Checkup
