import Checkup.Clock

/-!
A batch on a bounded pool of workers, as a system of steps.

The caller takes the items of a batch one at a time. It needs a slot for each before it can submit
it, so it holds at most one item beyond the slots. Workers, as many as there are slots, start what
was submitted, in order. A task that ends is done first and gives its slot back in a step of its
own. When the items are used up the caller collects the results of tasks that are done, in any
order. A fault that it collects ends the collecting, and it leaves once no task is left.
-/

namespace Checkup

/-- Where a submitted task is. `ended` tasks have not yet given their slot back. -/
inductive TaskStage (β : Type) where
  | queued
  | running
  | ended (result : Except Fault β)
  | released (result : Except Fault β)

namespace TaskStage

variable {β : Type}

def isQueued : TaskStage β → Bool
  | queued => true
  | _ => false

def isRunning : TaskStage β → Bool
  | running => true
  | _ => false

def isReleased : TaskStage β → Bool
  | released _ => true
  | _ => false

def result? : TaskStage β → Option (Except Fault β)
  | ended r | released r => some r
  | _ => none

end TaskStage

structure Task (α β : Type) where
  item : α
  stage : TaskStage β := .queued

inductive Caller (α : Type) where
  /-- About to take the next item. -/
  | taking
  /-- Has an item and no slot for it. -/
  | holding (item : α)
  /-- Has an item and a slot. -/
  | ready (item : α)
  /-- Collects results. -/
  | collecting
  /-- Has collected a fault and waits for the tasks that are left. -/
  | failing (fault : Fault)
  /-- Has returned, or has raised a fault. -/
  | left (fault : Option Fault)

structure Pool (α β : Type) where
  /-- How many slots and workers there are. -/
  size : Nat
  ahead : List α
  slots : Int
  caller : Caller α := .taking
  tasks : List (Task α β) := []
  /-- How many ids were given out; a task gets one as it begins. -/
  issued : Nat := 0
  /-- The places of the tasks collected so far, and what they returned. -/
  collected : List (Nat × β) := []

namespace Pool

variable {α β : Type}

def start (size : Nat) (items : List α) : Pool α β := { size, ahead := items, slots := size }

/-- The steps of a batch; tasks are known by their places. -/
inductive Step (β : Type) where
  | take
  | acquire
  | submit
  | begin (task : Nat)
  | finish (task : Nat) (result : Except Fault β)
  | release (task : Nat)
  | collect (task : Nat)
  | leave

def running (p : Pool α β) : Nat := p.tasks.countP fun t => t.stage.isRunning

/-- How many items have been taken. -/
def taken (p : Pool α β) : Nat :=
  p.tasks.length + (match p.caller with
    | .holding _ | .ready _ => 1
    | _ => 0)

def setStage (p : Pool α β) (task : Nat) (stage : TaskStage β) : Pool α β :=
  { p with tasks := p.tasks.modify task fun t => { t with stage } }

def stage? (p : Pool α β) (task : Nat) : Option (TaskStage β) := p.tasks[task]?.map Task.stage

def allReleased (p : Pool α β) : Bool := p.tasks.all fun t => t.stage.isReleased

/-- Makes a step; `none` if it cannot be made. -/
def step (p : Pool α β) : Step β → Option (Pool α β)
  | .take =>
    match p.caller, p.ahead with
    | .taking, item :: rest => some { p with ahead := rest, caller := .holding item }
    | .taking, [] => some { p with caller := .collecting }
    | _, _ => none
  | .acquire =>
    match p.caller with
    | .holding item =>
      if 0 < p.slots then some { p with slots := p.slots - 1, caller := .ready item } else none
    | _ => none
  | .submit =>
    match p.caller with
    | .ready item => some { p with tasks := p.tasks ++ [{ item }], caller := .taking }
    | _ => none
  | .begin task =>
    match p.stage? task with
    | some .queued =>
      if p.running < p.size && (p.tasks.take task).all fun t => !t.stage.isQueued then
        some { p.setStage task .running with issued := p.issued + 1 }
      else none
    | _ => none
  | .finish task result =>
    match p.stage? task with
    | some .running => some (p.setStage task (.ended result))
    | _ => none
  | .release task =>
    match p.stage? task with
    | some (.ended result) =>
      some { p.setStage task (.released result) with slots := p.slots + 1 }
    | _ => none
  | .collect task =>
    match p.caller, (p.stage? task).bind TaskStage.result? with
    | .collecting, some (.ok value) =>
      if p.collected.any fun c => c.1 == task then none
      else some { p with collected := p.collected ++ [(task, value)] }
    | .collecting, some (.error fault) => some { p with caller := .failing fault }
    | _, _ => none
  | .leave =>
    match p.caller with
    | .collecting =>
      if p.allReleased && p.collected.length == p.tasks.length then
        some { p with caller := .left none }
      else none
    | .failing fault => if p.allReleased then some { p with caller := .left (some fault) } else none
    | _ => none

/-! ### One schedule -/

def first? (p : Pool α β) (test : TaskStage β → Bool) : Option Nat :=
  p.tasks.findIdx? fun t => test t.stage

/-- The first step that can be made, of a few in this order: the caller goes on, a worker starts,
a task gives its slot back, a task ends with its result. -/
def eager? (result : α → Except Fault β) (p : Pool α β) : Option (Pool α β) :=
  p.step .take <|> p.step .acquire <|> p.step .submit <|>
    ((p.first? TaskStage.isQueued).bind fun task => p.step (.begin task)) <|>
    ((p.first? fun stage => stage.result?.isSome && !stage.isReleased).bind fun task =>
      p.step (.release task)) <|>
    ((p.first? TaskStage.isRunning).bind fun task =>
      p.tasks[task]?.bind fun t => p.step (.finish task (result t.item)))

/-- What is seen while a batch runs: the most tasks that ran at once, and how many items had been
taken when the first task ended. -/
structure Watch where
  peak : Nat := 0
  takenAtFirstEnd : Option Nat := none
  deriving DecidableEq, Repr

/-- Looks at a batch. -/
def Watch.look (w : Watch) (p : Pool α β) : Watch :=
  { peak := max w.peak p.running
    takenAtFirstEnd := w.takenAtFirstEnd <|>
      if p.tasks.any fun t => t.stage.result?.isSome then some p.taken else none }

/-- Makes the first step that can be made, over and over, and watches. -/
def runEager (result : α → Except Fault β) : (fuel : Nat) → Watch → Pool α β → Watch × Pool α β
  | 0, w, p => (w, p)
  | fuel + 1, w, p =>
    match p.eager? result with
    | none => (w, p)
    | some p => runEager result fuel (w.look p) p

/-- Watches a batch in which all tasks run that can before one ends. Every item takes six steps, and
the end of the items one more. -/
def watch (size : Nat) (items : List α) (result : α → Except Fault β) : Watch × Pool α β :=
  runEager result (6 * items.length + 1) {} (start size items)

end Pool

end Checkup
