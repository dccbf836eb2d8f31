import Checkup.Proofs.Lock.Holds
import Checkup.Proofs.Registry.Sound

/-!
Calls on a shared registry, one after the other.

The lock counts who is inside. While a writer is, nobody else is, so its steps go on undisturbed;
while readers are, the registry is what the calls that have returned made of it, and stays so. Hence
the calls that have returned might as well have been made one by one, in the order in which they
returned.

Main statements: `goes_of_step` (all that a thread can do in a step), `Agrees.goes` (what every step
keeps of the registry and the bodies around it), `program_goes` (no call of a thread is lost or
added) and `calls_linearize`.
-/

namespace Checkup.Registry

open Lock (Crowd Move Finish)

variable {τ : Type}

/-! ### Calls one by one -/

/-- What calls leave that are made one by one. -/
def after (r : Registry (Entry τ)) (calls : List (Call τ)) : Registry (Entry τ) :=
  calls.foldl (fun r call => (call.answer r).2) r

def answers (r : Registry (Entry τ)) : List (Call τ) → List (Reply τ)
  | [] => []
  | call :: calls => (call.answer r).1 :: answers (call.answer r).2 calls

theorem after_concat (r : Registry (Entry τ)) (calls : List (Call τ)) (call : Call τ) :
    after r (calls ++ [call]) = (call.answer (after r calls)).2 := by
  simp [after]

theorem answers_concat (r : Registry (Entry τ)) (calls : List (Call τ)) (call : Call τ) :
    answers r (calls ++ [call]) = answers r calls ++ [(call.answer (after r calls)).1] := by
  induction calls generalizing r with
  | nil => rfl
  | cons first calls ih => simp [answers, ih, after]

/-- Calls that are made one by one keep a registry sound. -/
theorem sound_after {r : Registry (Entry τ)} (sound : r.Sound) (calls : List (Call τ)) :
    (after r calls).Sound := by
  induction calls generalizing r with
  | nil => exact sound
  | cons call calls ih => exact ih (sound.answer call)

def Done.Before (a b : Done τ) : Prop := a.ended < b.began

/-- An order of calls in which they return what they returned, made one by one on an empty registry,
and which no two of them contradict that did not overlap. -/
structure Linearizes (order history : List (Done τ)) : Prop where
  perm : order.Perm history
  realTime : order.Pairwise fun a b => ¬ b.Before a
  replies : answers {} (order.map Done.call) = order.map Done.reply

/-! ### Places -/

namespace Place

def holds (side : Side) : Place τ → Bool
  | inside call .. => call.side = side
  | outside | waiting .. => false

/-- The call that a thread is in, and when that began. -/
def current? : Place τ → Option (Call τ × Nat)
  | outside => none
  | waiting call began | inside call began _ => some (call, began)

/-- What the lock knows of a thread: only that it waits. -/
def Fits : Place τ → Lock.Phase → Prop
  | waiting call _, phase => ∃ woken, phase = .parked call.side .keep woken
  | outside, phase | inside .., phase => phase = .idle

theorem Fits.wake {place : Place τ} {phase : Lock.Phase} (fits : place.Fits phase) :
    place.Fits phase.wake := by
  cases place with
  | waiting call began =>
      obtain ⟨woken, rfl⟩ := fits
      exact ⟨true, rfl⟩
  | outside | inside =>
      obtain rfl : phase = .idle := fits
      rfl

end Place

/-! ### Threads around the lock -/

section Crowds

variable {crowd : Crowd} {workers : List (Worker τ)} {i j : Nat} {w other : Worker τ}
  {place : Place τ} {todo : List (Call τ)} {side : Side}

/-- The lock counts the threads that hold it, and knows which of them wait. -/
structure Fits (crowd : Crowd) (workers : List (Worker τ)) : Prop where
  counted : crowd.Counted workers.length
  phases {i : Nat} {w : Worker τ} : workers[i]? = some w → w.place.Fits (crowd.phase i)
  holders (side : Side) : crowd.lock.holders side = workers.countP fun w => w.place.holds side

theorem countP_holds_set (here : workers[i]? = some w) (place : Place τ) (todo : List (Call τ))
    (side : Side) : ((workers.set i ⟨place, todo⟩).countP fun w => w.place.holds side) +
        (w.place.holds side).toNat =
      (workers.countP fun w => w.place.holds side) + (place.holds side).toNat := by
  obtain ⟨inside, rfl⟩ := List.getElem?_eq_some_iff.mp here
  exact Crowd.countP_set_add (fun w : Worker τ => w.place.holds side) ⟨place, todo⟩ inside

/-- A thread that holds a side is counted. -/
theorem Fits.holders_pos (fits : Fits crowd workers) (here : workers[i]? = some w)
    (holds : w.place.holds side = true) : 0 < crowd.lock.holders side := by
  rw [fits.holders]
  exact Int.natCast_pos.mpr
    (List.countP_pos_iff.mpr ⟨w, List.mem_of_getElem? here, holds⟩)

/-- While a thread is inside as a reader, no writer is. -/
theorem Fits.no_writer (fits : Fits crowd workers) (here : workers[i]? = some w)
    (reads : w.place.holds .read = true) : crowd.lock.writer = false := by
  have readers : 0 < crowd.lock.readers := fits.holders_pos here reads
  refine Bool.eq_false_iff.mpr fun taken => ?_
  exact absurd (fits.counted.apart taken) (Int.ne_of_gt readers)

/-- While a thread is inside as a writer, the lock is taken. -/
theorem Fits.writer (fits : Fits crowd workers) (here : workers[i]? = some w)
    (writes : w.place.holds .write = true) : crowd.lock.writer = true := by
  have holders := fits.holders_pos here writes
  cases taken : crowd.lock.writer with
  | true => rfl
  | false => simp [Lock.holders, taken] at holders

/-- The side of the lock that a call needs is held while its thread is inside. -/
theorem Fits.isHeld (fits : Fits crowd workers) {call : Call τ} {began : Nat} {body : Body τ}
    (here : workers[i]? = some ⟨.inside call began body, todo⟩) :
    crowd.lock.isHeld call.side = true := by
  have counts : 0 < crowd.lock.holders call.side := fits.holders_pos here (decide_eq_true rfl)
  revert counts
  cases call.side with
  | read => exact fun counts => decide_eq_true counts
  | write => cases taken : crowd.lock.writer <;> simp [Lock.holders, Lock.isHeld, taken]

/-- While a thread is inside as a writer, nobody else is inside. -/
theorem Fits.alone (fits : Fits crowd workers) (here : workers[i]? = some w)
    (writes : w.place.holds .write = true) (there : workers[j]? = some other)
    (holds : other.place.holds side = true) : j = i := by
  have taken := fits.writer here writes
  by_contra apart
  cases side with
  | read =>
      rw [fits.no_writer there holds] at taken
      cases taken
  | write =>
      -- Without the first thread, the second still counts: two of them are more than the lock has.
      have still : (workers.set i ⟨.outside, []⟩)[j]? = some other := by
        rw [List.getElem?_set_ne (Ne.symm apart)]
        exact there
      have one : 0 < (workers.set i ⟨.outside, []⟩).countP fun w => w.place.holds .write :=
        List.countP_pos_iff.mpr ⟨other, List.mem_of_getElem? still, holds⟩
      have two := countP_holds_set here .outside [] .write
      have counted := fits.holders .write
      simp only [Lock.holders, taken, if_true] at counted
      rw [writes, Bool.toNat_true, show Place.outside.holds .write = false from rfl,
        Bool.toNat_false] at two
      omega

/-- A move of a thread's actor keeps the count if the lock changes by what the thread takes or gives
back. -/
theorem Fits.moved (fits : Fits crowd workers) (here : workers[i]? = some w) {m : Move}
    (actor : m.actor = i) {l : Lock} {wake : Bool} {next : Lock.Phase} {done : Option Finish}
    (makes : crowd.step m = some (crowd.moved i l wake next, done)) (fit : place.Fits next)
    (changes : ∀ side, l.holders side + (w.place.holds side).toNat =
      crowd.lock.holders side + (place.holds side).toNat) :
    Fits (crowd.moved i l wake next) (workers.set i ⟨place, todo⟩) := by
  have inside := (List.getElem?_eq_some_iff.mp here).1
  constructor
  · rw [List.length_set]
    exact Crowd.counted_step fits.counted (actor ▸ inside) makes
  · intro j other there
    rw [Crowd.phase_moved (fits.counted.length_eq.symm ▸ inside)]
    by_cases same : j = i
    · subst same
      rw [List.getElem?_set_self inside] at there
      cases there
      rwa [if_pos rfl]
    · rw [List.getElem?_set_ne (Ne.symm same)] at there
      have before := fits.phases there
      rw [if_neg same]
      split
      · exact before.wake
      · exact before
  · intro side
    have counts := countP_holds_set here place todo side
    have before := fits.holders side
    have change := changes side
    rw [Crowd.lock_moved]
    omega

/-- A thread that stays inside is counted as before. -/
theorem Fits.stays (fits : Fits crowd workers) {call : Call τ} {began : Nat} {body next : Body τ}
    (here : workers[i]? = some ⟨.inside call began body, todo⟩) :
    Fits crowd (workers.set i ⟨.inside call began next, todo⟩) := by
  have inside := (List.getElem?_eq_some_iff.mp here).1
  constructor
  · rw [List.length_set]
    exact fits.counted
  · intro j other there
    by_cases same : j = i
    · subst same
      rw [List.getElem?_set_self inside] at there
      cases there
      have idle : crowd.phase j = .idle := fits.phases here
      exact idle
    · rw [List.getElem?_set_ne (Ne.symm same)] at there
      exact fits.phases there
  · intro side
    have counts := countP_holds_set here (.inside call began next) todo side
    have before := fits.holders side
    have same : (Worker.mk (.inside call began body) todo).place.holds side =
      (Place.inside call began next).holds side := rfl
    rw [same] at counts
    omega

end Crowds

namespace Shared

variable {s s' : Shared τ} {i j : Nat} {call : Call τ} {began : Nat} {todo : List (Call τ)}
  {body : Body τ} {m : Move} {w : Worker τ} {programs : List (List (Call τ))}

/-! ### What a step does -/

/-- A thread asks for its side of the lock, for the first time or again. -/
inductive Asks (s : Shared τ) (i : Nat) (call : Call τ) : Nat → List (Call τ) → Move → Prop
  | first {todo : List (Call τ)} : s.workers[i]? = some ⟨.outside, call :: todo⟩ →
      Asks s i call s.time todo (.call i (.acquire call.side .keep))
  | again {began : Nat} {todo : List (Call τ)} :
      s.workers[i]? = some ⟨.waiting call began, todo⟩ → Asks s i call began todo (.resume i)

/-- All that a thread can do in a step, with what it needs. -/
inductive Goes (s : Shared τ) (i : Nat) : Shared τ → Prop
  | enter {call : Call τ} {began : Nat} {todo : List (Call τ)} {m : Move} {rest : Lock}
      {crowd : Crowd} {done : Option Finish} : s.Asks i call began todo m →
      s.crowd.Tests i call.side .keep m rest → rest.isOpen call.side = true →
      crowd = s.crowd.moved i (rest.hold call.side) false .idle →
      s.crowd.step m = some (crowd, done) →
      Goes s i (moveOn { s with crowd } i (.inside call began (.ofCall call)) todo)
  | wait {call : Call τ} {began : Nat} {todo : List (Call τ)} {m : Move} {rest : Lock}
      {crowd : Crowd} {done : Option Finish} : s.Asks i call began todo m →
      s.crowd.Tests i call.side .keep m rest →
      crowd = s.crowd.moved i (rest.announce call.side) false (.parked call.side .keep false) →
      s.crowd.step m = some (crowd, done) →
      Goes s i (moveOn { s with crowd } i (.waiting call began) todo)
  | look {call : Call τ} {began : Nat} {todo : List (Call τ)}
      {next : Registry (Entry τ) → Body τ} :
      s.workers[i]? = some ⟨.inside call began (.look next), todo⟩ →
      Goes s i (s.moveOn i (.inside call began (next s.registry)) todo)
  | change {call : Call τ} {began : Nat} {todo : List (Call τ)}
      {how : Registry (Entry τ) → Registry (Entry τ)} {next : Body τ} :
      s.workers[i]? = some ⟨.inside call began (.change how next), todo⟩ →
      Goes s i (moveOn { s with registry := how s.registry } i (.inside call began next) todo)
  | leave {call : Call τ} {began : Nat} {todo : List (Call τ)} {reply : Reply τ} {l : Lock}
      {wake : Bool} {crowd : Crowd} {done : Option Finish} :
      s.workers[i]? = some ⟨.inside call began (.reply reply), todo⟩ →
      s.crowd.lock.release call.side = .ok (wake, l) → crowd = s.crowd.moved i l wake .idle →
      s.crowd.step (.call i (.release call.side)) = some (crowd, done) →
      Goes s i (moveOn { s with
        crowd, done := s.done ++ [⟨i, call, reply, began, s.time⟩] } i .outside todo)

theorem Asks.here (asks : s.Asks i call began todo m) : ∃ w, s.workers[i]? = some w ∧
    (∀ side, w.place.holds side = false) ∧
    w.place.current?.toList.map Prod.fst ++ w.todo = call :: todo ∧ m.actor = i := by
  cases asks with
  | first here => exact ⟨_, here, fun _ => rfl, rfl, rfl⟩
  | again here => exact ⟨_, here, fun _ => rfl, rfl, rfl⟩

/-- A thread that asks for its side of the lock has got it, or waits for it. -/
theorem goes_of_asks (asks : s.Asks i call began todo m) {rest : Lock}
    (tests : s.crowd.Tests i call.side .keep m rest)
    (makes : (s.crowd.step m).map (s.asked i call began todo) = some s') : s.Goes i s' := by
  cases isOpen : rest.isOpen call.side with
  | true =>
      have moves := Crowd.step_of_open tests isOpen
      rw [moves] at makes
      cases makes
      exact .enter asks tests isOpen rfl moves
  | false =>
      have moves := Crowd.step_of_closed tests isOpen
      rw [moves] at makes
      cases makes
      exact .wait asks tests rfl moves

/-- A step of a thread is one of those that `Goes` names. -/
theorem goes_of_step (fits : Fits s.crowd s.workers) (makes : s.step i = some s') :
    s.Goes i s' := by
  unfold step at makes
  split at makes
  · cases makes
  · cases makes
  · rename_i call todo here
    exact goes_of_asks (.first here) (.first (fits.phases here)) makes
  · rename_i call began todo here
    obtain ⟨woken, parked⟩ := fits.phases here
    cases woken with
    | false => simp [Crowd.step, parked] at makes
    | true => exact goes_of_asks (.again here) (.again parked) makes
  · rename_i here
    cases makes
    exact .look here
  · rename_i here
    cases makes
    exact .change here
  · rename_i call began reply todo here
    obtain ⟨l, wake, released, moves⟩ :=
      Crowd.step_of_held (.told (fits.phases here)) (fits.isHeld here)
    rw [moves] at makes
    cases makes
    exact .leave here released rfl moves

/-! ### What a step keeps -/

/-- The lock goes on counting the threads that hold it. -/
theorem fits_goes (fits : Fits s.crowd s.workers) (goes : s.Goes i s') :
    Fits s'.crowd s'.workers := by
  cases goes with
  | @enter call began _ m rest _ _ asks tests isOpen moved makes =>
      obtain ⟨w, here, free, -, actor⟩ := asks.here
      subst moved
      refine fits.moved here actor makes rfl fun side => ?_
      have does := Crowd.Does.enter call.side .keep tests isOpen
      rw [Crowd.holders_of_does does, Crowd.deed_of_tests tests, if_pos isOpen, free,
        Lock.Deed.change, Place.holds]
      by_cases same : call.side = side <;> simp [same]
  | @wait call began _ m rest _ _ asks tests moved makes =>
      obtain ⟨w, here, free, -, actor⟩ := asks.here
      subst moved
      refine fits.moved here actor makes ⟨false, rfl⟩ fun side => ?_
      obtain ⟨readers, writer, -⟩ := Crowd.rest_of_tests tests
      rw [free, Place.holds]
      cases side <;> simp [Lock.holders, readers, writer]
  | look here => exact fits.stays here
  | change here => exact fits.stays here
  | @leave call began _ reply l wake _ _ here released moved makes =>
      subst moved
      refine fits.moved here rfl makes rfl fun side => ?_
      have does := Crowd.Does.giveBack call.side (.told (fits.phases here)) released
      rw [Crowd.holders_of_does does, Crowd.deed, if_pos (Lock.isHeld_of_release released),
        Lock.Deed.change, Place.holds, Place.holds]
      by_cases same : call.side = side <;> simp [same]

def settled (s : Shared τ) : Registry (Entry τ) := after {} (s.done.map Done.call)

/-- The calls that have returned might have been made one by one; so might the calls that are
inside, after them and without each other. -/
structure Agrees (s : Shared τ) : Prop where
  replies : answers {} (s.done.map Done.call) = s.done.map Done.reply
  quiet : s.crowd.lock.writer = false → s.registry = s.settled
  inside {i : Nat} {call : Call τ} {began : Nat} {body : Body τ} {todo : List (Call τ)} :
    s.workers[i]? = some ⟨.inside call began body, todo⟩ →
      body.run s.registry = call.answer s.settled ∧ (call.side = .read → body.IsReadOnly)

/-- A thread that is inside after one thread has gone somewhere else. -/
theorem inside_cases {place : Place τ} {todo' : List (Call τ)}
    (there : (s.workers.set i ⟨place, todo'⟩)[j]? = some ⟨.inside call began body, todo⟩) :
    (j = i ∧ place = .inside call began body) ∨
      (j ≠ i ∧ s.workers[j]? = some ⟨.inside call began body, todo⟩) := by
  by_cases same : j = i
  · subst same
    have inside : j < s.workers.length := by
      simpa using (List.getElem?_eq_some_iff.mp there).1
    rw [List.getElem?_set_self inside] at there
    cases there
    exact .inl ⟨rfl, rfl⟩
  · rw [List.getElem?_set_ne (Ne.symm same)] at there
    exact .inr ⟨same, there⟩

/-- Where two threads are inside they are readers, and no change is half made. -/
theorem Agrees.registry_eq (agrees : s.Agrees) (fits : Fits s.crowd s.workers)
    (here : s.workers[i]? = some ⟨.inside call began body, todo⟩) {call' : Call τ} {began' : Nat}
    {body' : Body τ} {todo' : List (Call τ)}
    (there : s.workers[j]? = some ⟨.inside call' began' body', todo'⟩) (apart : j ≠ i) :
    s.registry = s.settled := by
  cases side : call.side with
  | read => exact agrees.quiet (fits.no_writer here (decide_eq_true side))
  | write =>
      have alone := fits.alone here (decide_eq_true side) there (decide_eq_true rfl)
      exact absurd alone apart

/-- A body that changes the registry is a writer's, and nobody else is inside. -/
theorem Agrees.change (agrees : s.Agrees) (fits : Fits s.crowd s.workers)
    {how : Registry (Entry τ) → Registry (Entry τ)} {next : Body τ}
    (here : s.workers[i]? = some ⟨.inside call began (.change how next), todo⟩) :
    (moveOn { s with registry := how s.registry } i (.inside call began next) todo).Agrees := by
  obtain ⟨runs, reads⟩ := agrees.inside here
  have writes : call.side = .write := by
    cases side : call.side with
    | read => exact (reads side).elim
    | write => rfl
  have holds : (Place.inside call began (.change how next)).holds .write = true :=
    decide_eq_true writes
  refine ⟨agrees.replies, fun free => ?_, fun there => ?_⟩
  · have taken := fits.writer here holds
    rw [show s.crowd.lock.writer = false from free] at taken
    cases taken
  · rcases inside_cases there with ⟨rfl, changed⟩ | ⟨other, before⟩
    · cases changed
      exact ⟨runs, fun side => absurd (side.symm.trans writes) nofun⟩
    · exact absurd (fits.alone here holds before (decide_eq_true rfl)) other

/-- A call that returns is the next of those that might have been made one by one. -/
theorem Agrees.leave (agrees : s.Agrees) (fits : Fits s.crowd s.workers) {reply : Reply τ}
    (here : s.workers[i]? = some ⟨.inside call began (.reply reply), todo⟩) (crowd : Crowd) :
    (moveOn { s with crowd, done := s.done ++ [⟨i, call, reply, began, s.time⟩] } i .outside
      todo).Agrees := by
  have answer : call.answer s.settled = (reply, s.registry) := (agrees.inside here).1.symm
  let left : Done τ := ⟨i, call, reply, began, s.time⟩
  have now : after {} ((s.done ++ [left]).map Done.call) = s.registry := by
    rw [List.map_append, List.map_singleton, after_concat]
    exact congrArg Prod.snd answer
  refine ⟨?_, fun _ => now.symm, fun {_ other _ _ _} there => ?_⟩
  · change answers {} ((s.done ++ [left]).map Done.call) = (s.done ++ [left]).map Done.reply
    rw [List.map_append, List.map_append, List.map_singleton, answers_concat, agrees.replies]
    exact congrArg (s.done.map Done.reply ++ [·]) (congrArg Prod.fst answer)
  · rcases inside_cases there with ⟨-, outside⟩ | ⟨apart, before⟩
    · cases outside
    · obtain ⟨runs, reads⟩ := agrees.inside before
      rw [← agrees.registry_eq fits here before apart] at runs
      exact ⟨runs.trans (congrArg other.answer now.symm), reads⟩

/-- Every step keeps the history in agreement with the registry: the calls that have returned, made
one by one, give the answers and the state that are there. -/
theorem Agrees.goes (agrees : s.Agrees) (fits : Fits s.crowd s.workers) (goes : s.Goes i s') :
    s'.Agrees := by
  cases goes with
  | @enter call began _ m rest _ _ asks tests isOpen moved makes =>
      subst moved
      obtain ⟨-, writer, -⟩ := Crowd.rest_of_tests tests
      have same := agrees.quiet (writer ▸ Lock.writer_of_isOpen isOpen)
      refine ⟨agrees.replies, fun _ => same, fun there => ?_⟩
      rcases inside_cases there with ⟨rfl, entered⟩ | ⟨-, before⟩
      · cases entered
        refine ⟨?_, Body.readOnly_ofCall⟩
        rw [Body.run_ofCall]
        exact congrArg call.answer same
      · exact agrees.inside before
  | @wait call began _ m rest _ _ asks tests moved makes =>
      subst moved
      obtain ⟨-, writer, -⟩ := Crowd.rest_of_tests tests
      refine ⟨agrees.replies, fun free => agrees.quiet ?_, fun there => ?_⟩
      · simpa [moveOn, writer] using free
      · rcases inside_cases there with ⟨-, waits⟩ | ⟨-, before⟩
        · cases waits
        · exact agrees.inside before
  | look here =>
      refine ⟨agrees.replies, agrees.quiet, fun there => ?_⟩
      rcases inside_cases there with ⟨rfl, looked⟩ | ⟨-, before⟩
      · cases looked
        obtain ⟨runs, reads⟩ := agrees.inside here
        exact ⟨runs, fun side => reads side _⟩
      · exact agrees.inside before
  | change here => exact agrees.change fits here
  | leave here released moved makes => exact agrees.leave fits here _

/-- The calls of a thread: those that have returned, the one that it is in, and those to come. -/
def program (s : Shared τ) (i : Nat) : Option (List (Call τ)) :=
  s.workers[i]?.map fun w =>
    (s.done.filter fun d => d.thread = i).map Done.call ++
      (w.place.current?.toList.map Prod.fst ++ w.todo)

/-- What a step does not do to the calls of its thread keeps those of every thread. -/
theorem program_moveOn {s₁ : Shared τ} {place : Place τ} (workers : s₁.workers = s.workers)
    (done : ∃ last, s₁.done = s.done ++ last ∧ (∀ d ∈ last, d.thread = i) ∧
      ∀ w, s.workers[i]? = some w →
        w.place.current?.toList.map Prod.fst ++ w.todo =
          last.map Done.call ++ (place.current?.toList.map Prod.fst ++ todo)) :
    (s₁.moveOn i place todo).program j = s.program j := by
  obtain ⟨last, done, mine, same⟩ := done
  have kept : (s₁.moveOn i place todo).workers = s.workers.set i ⟨place, todo⟩ := by
    rw [← workers]
    rfl
  have told : (s₁.moveOn i place todo).done = s.done ++ last := done
  unfold program
  rw [kept, told, List.filter_append]
  by_cases here : j = i
  · subst here
    rw [List.filter_eq_self.mpr fun d mem => decide_eq_true (mine d mem)]
    cases at' : s.workers[j]? with
    | none => simp [List.getElem?_eq_none_iff.mp at']
    | some w =>
        rw [List.getElem?_set_self (List.getElem?_eq_some_iff.mp at').1]
        simp [same w at']
  · have none : (last.filter fun d => d.thread = j) = [] :=
      List.filter_eq_nil_iff.mpr fun d mem => by simpa [mine d mem] using Ne.symm here
    rw [List.getElem?_set_ne (Ne.symm here), none, List.append_nil]

/-- No call of a thread is lost or added. -/
theorem program_goes (goes : s.Goes i s') : s'.program j = s.program j := by
  cases goes with
  | enter asks tests isOpen moved makes =>
      obtain ⟨w, here, -, calls, -⟩ := asks.here
      refine program_moveOn rfl ⟨[], (List.append_nil _).symm, List.forall_mem_nil _, fun w' there => ?_⟩
      cases here.symm.trans there
      exact calls
  | wait asks tests moved makes =>
      obtain ⟨w, here, -, calls, -⟩ := asks.here
      refine program_moveOn rfl ⟨[], (List.append_nil _).symm, List.forall_mem_nil _, fun w' there => ?_⟩
      cases here.symm.trans there
      exact calls
  | look here =>
      refine program_moveOn rfl ⟨[], (List.append_nil _).symm, List.forall_mem_nil _, fun w' there => ?_⟩
      cases here.symm.trans there
      rfl
  | change here =>
      refine program_moveOn rfl ⟨[], (List.append_nil _).symm, List.forall_mem_nil _, fun w' there => ?_⟩
      cases here.symm.trans there
      rfl
  | leave here released moved makes =>
      refine program_moveOn rfl ⟨_, rfl, fun d mem => ?_, fun w' there => ?_⟩
      · rw [List.mem_singleton.mp mem]
      · cases here.symm.trans there
        rfl

/-- Steps are counted, calls end after they began, and one after the other. -/
structure Timed (s : Shared τ) : Prop where
  began {w : Worker τ} {call : Call τ} {began : Nat} :
    w ∈ s.workers → w.place.current? = some (call, began) → began < s.time
  ended {d : Done τ} : d ∈ s.done → d.began < d.ended ∧ d.ended < s.time
  ordered : s.done.Pairwise fun a b => a.ended < b.ended

/-- A step of a thread whose call has begun by now keeps the times. -/
theorem Timed.moveOn (timed : s.Timed) {s₁ : Shared τ} {place : Place τ}
    (workers : s₁.workers = s.workers) (time : s₁.time = s.time)
    (begun : ∀ call began, place.current? = some (call, began) → began ≤ s.time)
    (done : s₁.done = s.done ∨ ∃ d, s₁.done = s.done ++ [d] ∧ d.began < d.ended ∧
      d.ended = s.time) : (s₁.moveOn i place todo).Timed := by
  constructor
  · intro w call began mem current
    change began < s₁.time + 1
    rw [time]
    change w ∈ s₁.workers.set i _ at mem
    rw [workers] at mem
    rcases List.mem_or_eq_of_mem_set mem with mem | rfl
    · exact Nat.lt_succ_of_lt (timed.began mem current)
    · exact Nat.lt_succ_of_le (begun call began current)
  · intro d mem
    change d ∈ s₁.done at mem
    change _ ∧ d.ended < s₁.time + 1
    rw [time]
    rcases done with same | ⟨last, more, before, now⟩
    · rw [same] at mem
      exact ⟨(timed.ended mem).1, Nat.lt_succ_of_lt (timed.ended mem).2⟩
    · rw [more] at mem
      rcases List.mem_append.mp mem with mem | mem
      · exact ⟨(timed.ended mem).1, Nat.lt_succ_of_lt (timed.ended mem).2⟩
      · rw [List.mem_singleton.mp mem]
        exact ⟨before, now ▸ Nat.lt_succ_self _⟩
  · change s₁.done.Pairwise _
    rcases done with same | ⟨last, more, -, now⟩
    · rw [same]
      exact timed.ordered
    · rw [more]
      refine List.pairwise_append.mpr ⟨timed.ordered, List.pairwise_singleton _ _, ?_⟩
      intro d mem d' mem'
      rw [List.mem_singleton.mp mem', now]
      exact (timed.ended mem).2

theorem Asks.begun (asks : s.Asks i call began todo m) (timed : s.Timed) : began ≤ s.time := by
  cases asks with
  | first => exact Nat.le_refl _
  | again here => exact Nat.le_of_lt (timed.began (List.mem_of_getElem? here) rfl)

/-- A step keeps the times in order. -/
theorem Timed.goes (timed : s.Timed) (goes : s.Goes i s') : s'.Timed := by
  cases goes with
  | enter asks tests isOpen moved makes =>
      refine timed.moveOn rfl rfl (fun call began current => ?_) (.inl rfl)
      cases current
      exact asks.begun timed
  | wait asks tests moved makes =>
      refine timed.moveOn rfl rfl (fun call began current => ?_) (.inl rfl)
      cases current
      exact asks.begun timed
  | look here =>
      refine timed.moveOn rfl rfl (fun call began current => ?_) (.inl rfl)
      cases current
      exact Nat.le_of_lt (timed.began (List.mem_of_getElem? here) rfl)
  | change here =>
      refine timed.moveOn rfl rfl (fun call began current => ?_) (.inl rfl)
      cases current
      exact Nat.le_of_lt (timed.began (List.mem_of_getElem? here) rfl)
  | leave here released moved makes =>
      refine timed.moveOn rfl rfl nofun (.inr ⟨_, rfl, ?_, rfl⟩)
      exact timed.began (List.mem_of_getElem? here) rfl

/-! ### Runs -/

/-- What holds after any steps of threads with given calls to make. -/
structure Orderly (programs : List (List (Call τ))) (s : Shared τ) : Prop where
  fits : Fits s.crowd s.workers
  agrees : s.Agrees
  timed : s.Timed
  programs (i : Nat) : s.program i = programs[i]?

theorem crowd_start (programs : List (List (Call τ))) :
    (start programs).crowd = Crowd.start programs.length := by
  simp [start, Crowd.start, List.map_const']

theorem worker_start {w : Worker τ} (here : (start programs).workers[i]? = some w) :
    w.place = .outside ∧ programs[i]? = some w.todo := by
  rw [start, List.getElem?_map] at here
  obtain ⟨calls, there, rfl⟩ := Option.map_eq_some_iff.mp here
  exact ⟨rfl, there⟩

theorem orderly_start (programs : List (List (Call τ))) : (start programs).Orderly programs := by
  have outside {i : Nat} {w : Worker τ} (here : (start programs).workers[i]? = some w) :=
    (worker_start here).1
  have length : (start programs).workers.length = programs.length := List.length_map _
  refine ⟨⟨?_, ?_, ?_⟩, ⟨rfl, fun _ => rfl, ?_⟩, ⟨?_, nofun, List.Pairwise.nil⟩, ?_⟩
  · rw [crowd_start, length]
    exact Crowd.counted_start _
  · intro i w here
    rw [crowd_start, Crowd.phase_start, outside here]
    rfl
  · intro side
    have none : ((start programs).workers.countP fun w => w.place.holds side) = 0 := by
      refine List.countP_eq_zero.mpr fun w mem => ?_
      obtain ⟨i, here⟩ := List.mem_iff_getElem?.mp mem
      simp [outside here, Place.holds]
    rw [none, crowd_start]
    cases side <;> rfl
  · intro i call began body todo here
    cases outside here
  · intro w call began mem current
    obtain ⟨i, here⟩ := List.mem_iff_getElem?.mp mem
    rw [outside here] at current
    cases current
  · intro i
    simp only [program, start, List.getElem?_map, Option.map_map]
    cases programs[i]? <;> rfl

theorem orderly_step (orderly : s.Orderly programs) (makes : s.step i = some s') :
    s'.Orderly programs := by
  have goes := goes_of_step orderly.fits makes
  exact ⟨fits_goes orderly.fits goes, orderly.agrees.goes orderly.fits goes,
    orderly.timed.goes goes, fun j => (program_goes goes).trans (orderly.programs j)⟩

theorem isRun : IsRun (step (τ := τ)) run := ⟨fun _ => rfl, fun _ _ _ => rfl⟩

/-- A run keeps a registry and its lock in order. -/
theorem orderly_run {schedule : List Nat} (orderly : s.Orderly programs)
    (runs : s.run schedule = some s') : s'.Orderly programs :=
  isRun.invariant orderly_step runs orderly

/-- Whatever order the steps of threads come in that share a registry: the calls that have returned
can be put in one order, which no two of them contradict that did not overlap, and in which they
would have returned just what they returned if they had been made one by one; every thread has made,
makes or will make its own calls in their order; and while a thread holds the side of readers the
total of the registry is the number of its entries, and no bucket is empty. -/
theorem calls_linearize {schedule : List Nat} (runs : (start programs).run schedule = some s) :
    (∃ order, Linearizes order s.done) ∧ (∀ i, s.program i = programs[i]?) ∧
      ∀ w ∈ s.workers, w.place.holds .read = true → s.registry.Sound := by
  have orderly := orderly_run (orderly_start programs) runs
  refine ⟨⟨s.done, .refl _, ?_, orderly.agrees.replies⟩, orderly.programs, ?_⟩
  · refine orderly.timed.ordered.imp_of_mem fun {a b} mem _ later before => ?_
    exact Nat.lt_asymm (Nat.lt_trans (orderly.timed.ended mem).1 later) before
  · intro w mem reads
    obtain ⟨i, here⟩ := List.mem_iff_getElem?.mp mem
    rw [orderly.agrees.quiet (orderly.fits.no_writer here reads)]
    exact sound_after sound_empty _

/-- A writer that puts an entry where there was none, and a reader that asks for the total. -/
def newcomer : List (List (Call Nat)) :=
  [[.register { check := { name := "disk", description := "", category := "storage" }
                probe := .done .none }],
    [.total]]

theorem reader_waits_for_total : ∃ s, (start newcomer).run [0, 0, 1, 0, 0, 0, 0, 1] = some s ∧
    s.registry.count = 1 ∧ (∃ order, Linearizes order s.done) ∧ s.registry.Sound := by
  obtain ⟨s, runs, count, w, mem, reads⟩ : ∃ s,
      (start newcomer).run [0, 0, 1, 0, 0, 0, 0, 1] = some s ∧ s.registry.count = 1 ∧
        ∃ w ∈ s.workers, w.place.holds .read = true :=
    ⟨_, rfl, rfl, _, List.mem_of_getElem? (i := 1) rfl, rfl⟩
  have ⟨linear, _, sound⟩ := calls_linearize runs
  exact ⟨s, runs, count, linear, sound w mem reads⟩

end Shared

end Checkup.Registry
