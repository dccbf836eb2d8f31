import Checkup.Lock.Crowd
import Checkup.Probe

/-!
A registry that threads share, as a system of steps.

A thread makes one call after the other. A call takes its side of the lock, waiting if it has to,
goes through its body, and gives the side back. The body is a tree of steps, each of which looks at
the registry once or changes it once; between any two of them the other threads may go on. What
keeps them out is the lock alone: a step of a body does not ask who else is there.
-/

namespace Checkup.Registry

variable {τ : Type}

/-! ### Calls -/

inductive Call (τ : Type) where
  | register (entry : Entry τ)
  | unregister (category name : String)
  | clear
  | get (category name : String)
  | all
  | ofCategory (category : String)
  | checks
  | categories
  | total

/-- What a call returns, or the fault that it raises. -/
inductive Reply (τ : Type) where
  | registered (entry : Entry τ)
  | refused (fault : Fault)
  | removed (was : Bool)
  | cleared
  | found (entry : Option (Entry τ))
  | entries (entries : List (Entry τ))
  | inCategory (entries : Option (List (Entry τ)))
  | checks (checks : List Check)
  | categories (names : List String)
  | total (count : Nat)

namespace Call

def side : Call τ → Side
  | register _ | unregister .. | clear => .write
  | get .. | all | ofCategory _ | checks | categories | total => .read

/-- What a call returns and leaves where nobody else is at work. -/
def answer (r : Registry (Entry τ)) : Call τ → Reply τ × Registry (Entry τ)
  | register entry =>
    match r.register entry.check.category entry.check.name entry with
    | .ok r => (.registered entry, r)
    | .error fault => (.refused fault, r)
  | unregister category name =>
    let (was, r) := r.unregister category name
    (.removed was, r)
  | clear => (.cleared, r.clear)
  | get category name => (.found (r.get? category name), r)
  | all => (.entries r.all, r)
  | ofCategory category => (.inCategory (r.ofCategory? category), r)
  | checks => (.checks (r.all.map Entry.check), r)
  | categories => (.categories r.categories, r)
  | total => (.total r.total, r)

end Call

/-! ### Bodies -/

/-- What is left of the body of a call: its steps up to what it returns. -/
inductive Body (τ : Type) where
  | reply (reply : Reply τ)
  /-- Looks at the registry and goes on accordingly. -/
  | look (next : Registry (Entry τ) → Body τ)
  /-- Changes the registry. -/
  | change (change : Registry (Entry τ) → Registry (Entry τ)) (next : Body τ)

namespace Body

/-- Puts a new entry into the bucket of its category and counts it. -/
def insert (entry : Entry τ) : Body τ :=
  .change (fun r => r.putEntry entry.check.category entry.check.name entry) <|
  .change (fun r => r.setCount (r.count + 1)) <|
  .reply (.registered entry)

/-- Takes an entry out of the bucket of its category, the bucket away if that leaves it empty, and
counts it no more. -/
def remove (category name : String) : Body τ :=
  .change (fun r => r.eraseEntry category name) <|
  .change (fun r => r.dropBucket category) <|
  .change (fun r => r.setCount (r.count - 1)) <|
  .reply (.removed true)

/-- Reads the entries at some places of a bucket, one after the other. -/
def readEntries (bucket : Nat) : (places : List Nat) → (seen : List (Entry τ)) →
    (next : List (Entry τ) → Body τ) → Body τ
  | [], seen, next => next seen
  | place :: places, seen, next =>
    .look fun r =>
      let entry := r.buckets[bucket]?.bind fun b => b.2[place]?
      readEntries bucket places (seen ++ (entry.map Prod.snd).toList) next

/-- Reads the entries of the buckets at some places, one after the other. -/
def readBuckets : (buckets : List Nat) → (seen : List (Entry τ)) →
    (next : List (Entry τ) → Body τ) → Body τ
  | [], seen, next => next seen
  | bucket :: buckets, seen, next =>
    .look fun r =>
      let size := (r.buckets[bucket]?.map fun b => b.2.length).getD 0
      readEntries bucket (List.range size) seen fun seen => readBuckets buckets seen next

def readAll (next : List (Entry τ) → Body τ) : Body τ :=
  .look fun r => readBuckets (List.range r.buckets.length) [] next

/-- The body of a call. -/
def ofCall : Call τ → Body τ
  | .register entry =>
    let category := entry.check.category
    let name := entry.check.name
    .look fun r =>
      if (r.bucket? category).isSome then
        .look fun r =>
          if r.contains category name then .reply (.refused (.duplicate name category))
          else insert entry
      else .change (fun r => r.openBucket category) (insert entry)
  | .unregister category name =>
    .look fun r =>
      if (r.bucket? category).isSome then
        .look fun r =>
          if r.contains category name then remove category name else .reply (.removed false)
      else .reply (.removed false)
  | .clear =>
    .change (fun r => { r with buckets := [] }) <|
    .change (fun r => r.setCount 0) <|
    .reply .cleared
  | .get category name =>
    .look fun r =>
      if (r.bucket? category).isSome then .look fun r => .reply (.found (r.get? category name))
      else .reply (.found none)
  | .all => readAll fun entries => .reply (.entries entries)
  | .ofCategory category =>
    .look fun r =>
      if (r.bucket? category).isSome then
        .look fun r => .reply (.inCategory (r.ofCategory? category))
      else .reply (.inCategory none)
  | .checks => readAll fun entries => .reply (.checks (entries.map Entry.check))
  | .categories => .look fun r => .reply (.categories r.categories)
  | .total => .look fun r => .reply (.total r.total)

end Body

/-! ### Threads -/

/-- Where a thread is: between two calls, in a call and waiting for its side of the lock, or in the
body of a call. A call knows when it began. -/
inductive Place (τ : Type) where
  | outside
  | waiting (call : Call τ) (began : Nat)
  | inside (call : Call τ) (began : Nat) (body : Body τ)

/-- A thread: where it is, and the calls that it has not begun yet. -/
structure Worker (τ : Type) where
  place : Place τ := .outside
  todo : List (Call τ)

/-- A call that has returned, with when it began and ended. -/
structure Done (τ : Type) where
  thread : Nat
  call : Call τ
  reply : Reply τ
  began : Nat
  ended : Nat

/-- A registry and its lock, the threads around them, how many steps they have made, and the calls
that have returned. -/
structure Shared (τ : Type) where
  crowd : Lock.Crowd
  registry : Registry (Entry τ) := {}
  workers : List (Worker τ)
  time : Nat := 0
  done : List (Done τ) := []

namespace Shared

/-- An empty registry, and threads that are about to make calls. -/
def start (programs : List (List (Call τ))) : Shared τ :=
  { crowd := { phases := programs.map fun _ => .idle }
    workers := programs.map fun calls => { todo := calls } }

/-- Puts a thread somewhere else; this takes a step. -/
def moveOn (s : Shared τ) (thread : Nat) (place : Place τ) (todo : List (Call τ)) : Shared τ :=
  { s with workers := s.workers.set thread { place, todo }, time := s.time + 1 }

/-- A thread has asked for its side of the lock: it goes into its body, or waits. -/
def asked (s : Shared τ) (thread : Nat) (call : Call τ) (began : Nat) (todo : List (Call τ)) :
    Lock.Crowd × Option Lock.Finish → Shared τ
  | (crowd, some _) =>
    ({ s with crowd } : Shared τ).moveOn thread (.inside call began (.ofCall call)) todo
  | (crowd, none) => ({ s with crowd } : Shared τ).moveOn thread (.waiting call began) todo

/-- A thread has given its side of the lock back: its call returns, unless that raised a fault. -/
def returned (s : Shared τ) (thread : Nat) (call : Call τ) (began : Nat) (reply : Reply τ)
    (todo : List (Call τ)) : Lock.Crowd × Option Lock.Finish → Shared τ
  | (crowd, finish) =>
    let reply := ((finish.bind Lock.Finish.fault).map Reply.refused).getD reply
    let done := s.done ++ [{ thread, call, reply, began, ended := s.time }]
    ({ s with crowd, done } : Shared τ).moveOn thread .outside todo

/-- A thread makes its next step; `none` if it cannot. -/
def step (s : Shared τ) (thread : Nat) : Option (Shared τ) :=
  match s.workers[thread]? with
  | none => none
  | some { place := .outside, todo := [] } => none
  | some { place := .outside, todo := call :: todo } =>
    (s.crowd.step (.call thread (.acquire call.side .keep))).map
      (s.asked thread call s.time todo)
  | some { place := .waiting call began, todo } =>
    (s.crowd.step (.resume thread)).map (s.asked thread call began todo)
  | some { place := .inside call began (.look next), todo } =>
    some (s.moveOn thread (.inside call began (next s.registry)) todo)
  | some { place := .inside call began (.change change next), todo } =>
    let s : Shared τ := { s with registry := change s.registry }
    some (s.moveOn thread (.inside call began next) todo)
  | some { place := .inside call began (.reply reply), todo } =>
    (s.crowd.step (.call thread (.release call.side))).map
      (s.returned thread call began reply todo)

def run (s : Shared τ) : (schedule : List Nat) → Option (Shared τ)
  | [] => some s
  | thread :: schedule => (s.step thread).bind fun s => s.run schedule

end Shared

end Checkup.Registry
