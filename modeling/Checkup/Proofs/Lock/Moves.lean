import Checkup.Lock.Crowd
import Checkup.Proofs.Runs
import Mathlib.Data.List.Basic

/-!
The moves of actors around a lock, taken apart.

In a critical section an actor does one of three things. It tests whether it gets a side, for the
first time or again once it is woken; it gives a side back, because it is told to or at the end of
its body; or it is interrupted while it is parked.

Main statements: `does_of_step` (all that a move can do, with what it needs), `count_moved` (what
moving one actor does to a count of phases) and `follow_history` (what every move keeps, of the
moves made so far and the state they lead to, holds after a run).
-/

namespace Checkup.Lock

def Move.actor : Move → Nat
  | .call i _ | .resume i | .interrupt i => i

def Aim.next (side : Side) : Aim → Phase
  | .keep => .idle
  | .body failure => .inside side failure

def Aim.finish? (i : Nat) : Aim → Option Finish
  | .keep => some { actor := i, fault := none }
  | .body _ => none

def isHeld (l : Lock) : Side → Bool
  | .read => 0 < l.readers
  | .write => l.writer

/-! ### Counters -/

section Counters

variable {l l' : Lock} {side : Side} {wake : Bool}

/-- Whether a side can be taken does not depend on the writers that wait for it. -/
theorem isOpen_withdraw (l : Lock) (side : Side) :
    (l.withdraw side).isOpen side = l.isOpen side := by
  cases side <;> rfl

theorem announce_withdraw (l : Lock) (side : Side) : (l.withdraw side).announce side = l := by
  cases side with
  | read => rfl
  | write => simp [withdraw, announce]

@[simp] theorem readers_announce (l : Lock) (side : Side) :
    (l.announce side).readers = l.readers := by
  cases side <;> rfl

@[simp] theorem writer_announce (l : Lock) (side : Side) : (l.announce side).writer = l.writer := by
  cases side <;> rfl

@[simp] theorem readers_withdraw (l : Lock) (side : Side) :
    (l.withdraw side).readers = l.readers := by
  cases side <;> rfl

@[simp] theorem writer_withdraw (l : Lock) (side : Side) : (l.withdraw side).writer = l.writer := by
  cases side <;> rfl

@[simp] theorem waitingWriters_hold (l : Lock) (side : Side) :
    (l.hold side).waitingWriters = l.waitingWriters := by
  cases side <;> rfl

/-- Readers get in where no writer is inside and none waits. -/
theorem isOpen_read_iff : l.isOpen .read = true ↔ l.writer = false ∧ l.waitingWriters = 0 := by
  simp [isOpen]

/-- Writers get in where nobody is inside. -/
theorem isOpen_write_iff : l.isOpen .write = true ↔ l.writer = false ∧ l.readers = 0 := by
  simp [isOpen]

theorem writer_of_isOpen (isOpen : l.isOpen side = true) : l.writer = false := by
  cases side with
  | read => exact (isOpen_read_iff.mp isOpen).1
  | write => exact (isOpen_write_iff.mp isOpen).1

/-- What giving a side back needs, and what it leaves. -/
theorem release_cases (released : l.release side = .ok (wake, l')) :
    (side = .read ∧ 0 < l.readers ∧ wake = (l.readers == 1) ∧
      l' = { l with readers := l.readers - 1 }) ∨
    (side = .write ∧ l.writer = true ∧ wake = true ∧ l' = { l with writer := false }) := by
  cases side with
  | read =>
      simp only [release] at released
      split at released
      · cases released
      · rename_i held
        cases released
        exact .inl ⟨rfl, Int.not_le.mp held, rfl, rfl⟩
  | write =>
      simp only [release] at released
      split at released
      · rename_i held
        cases released
        exact .inr ⟨rfl, held, rfl, rfl⟩
      · cases released

/-- A side is given back only where somebody holds it. -/
theorem isHeld_of_release (released : l.release side = .ok (wake, l')) : l.isHeld side = true := by
  rcases release_cases released with ⟨rfl, held, -, -⟩ | ⟨rfl, held, -, -⟩
  · exact decide_eq_true held
  · exact held

/-- A side that nobody holds cannot be given back. -/
theorem release_of_not_isHeld (unheld : l.isHeld side = false) :
    l.release side = .error (notHeld side) := by
  cases side with
  | read =>
      have none : l.readers ≤ 0 := by simpa [isHeld] using unheld
      simp [release, none]
  | write =>
      have free : l.writer = false := unheld
      simp [release, free]

/-- A side is refused back only where nobody holds it. -/
theorem not_isHeld_of_refused {fault : Fault} (refused : l.release side = .error fault) :
    l.isHeld side = false := by
  cases side with
  | read =>
      simp only [release] at refused
      split at refused
      · rename_i none
        exact decide_eq_false (Int.not_lt.mpr none)
      · cases refused
  | write =>
      simp only [release] at refused
      split at refused
      · cases refused
      · rename_i free
        exact Bool.eq_false_iff.mpr free

theorem waitingWriters_of_release (released : l.release side = .ok (wake, l')) :
    l'.waitingWriters = l.waitingWriters := by
  rcases release_cases released with ⟨-, -, -, rfl⟩ | ⟨-, -, -, rfl⟩ <;> rfl

end Counters

namespace Crowd

variable {c c' next : Crowd} {m : Move} {moves : List Move} {i j : Nat} {side : Side} {aim : Aim}
  {fault : Option Fault} {done : Option Finish} {p : Phase}

/-! ### Runs -/

def start (count : Nat) : Crowd := { phases := List.replicate count .idle }

/-- Makes moves one after the other; `none` if one of them cannot be made. -/
def follow (c : Crowd) : List Move → Option Crowd
  | [] => some c
  | m :: moves => (c.step m).bind fun made => made.1.follow moves

theorem isRun : IsRun (fun c m => (step c m).map Prod.fst) follow :=
  ⟨fun _ => rfl, fun c m moves => by rw [follow, Option.bind_map]; rfl⟩

/-- What every move keeps, of the moves made so far and the state they lead to, holds after a
run. -/
theorem follow_history {I : List Move → Crowd → Prop} {moves : List Move}
    (runs : c.follow moves = some c')
    (keeps : ∀ {past : List Move} {c c' : Crowd} {m : Move} {done : Option Finish},
      m ∈ moves → I past c → c.step m = some (c', done) → I (past ++ [m]) c')
    (past : List Move) (holds : I past c) :
    I (past ++ moves) c' := by
  refine isRun.history_of_mem (fun mem holds made => ?_) past runs holds
  obtain ⟨⟨next, done⟩, makes, rfl⟩ := Option.map_eq_some_iff.mp made
  exact keeps mem holds makes

theorem follow_concat {past : List Move} (runs : c.follow past = some c')
    (makes : c'.step m = some (next, done)) : c.follow (past ++ [m]) = some next := by
  refine isRun.append runs (isRun.singleton_eq_some_iff.mpr ?_)
  rw [makes, Option.map_some]

/-! ### Phases -/

@[simp] theorem phase_start (count i : Nat) : (start count).phase i = .idle := by
  simp only [phase, start, List.getElem?_replicate]
  split <;> rfl

/-- An actor that is not idle is one of those there are. -/
theorem getElem?_of_busy (busy : c.phase i ≠ .idle) : c.phases[i]? = some (c.phase i) := by
  unfold phase at busy ⊢
  cases here : c.phases[i]? with
  | none => simp [here] at busy
  | some p => rfl

theorem lt_length_of_busy (busy : c.phase i ≠ .idle) : i < c.phases.length :=
  (List.getElem?_eq_some_iff.mp (getElem?_of_busy busy)).1

/-- The state after an actor has gone on to the next phase, with a lock, and has woken the others if
there is a reason. -/
def moved (c : Crowd) (i : Nat) (l : Lock) (wake : Bool) (next : Phase) : Crowd :=
  ({ c with lock := l }.wakeIf wake).setPhase i next

@[simp] theorem lock_moved (c : Crowd) (i : Nat) (l : Lock) (wake : Bool) (next : Phase) :
    (c.moved i l wake next).lock = l := by
  cases wake <;> rfl

@[simp] theorem length_moved (c : Crowd) (i : Nat) (l : Lock) (wake : Bool) (next : Phase) :
    (c.moved i l wake next).phases.length = c.phases.length := by
  cases wake <;> simp [moved, wakeIf, setPhase]

/-- A move changes the phase of its actor; the others are at most woken. -/
theorem phase_moved (inside : i < c.phases.length) (l : Lock) (wake : Bool) (next : Phase)
    (j : Nat) : (c.moved i l wake next).phase j =
      if j = i then next else if wake then (c.phase j).wake else c.phase j := by
  have woken : (({ c with lock := l }.wakeIf wake).phases[j]?).getD .idle =
      if wake then (c.phase j).wake else c.phase j := by
    cases wake with
    | false => rfl
    | true =>
        simp only [wakeIf, if_true, phase, List.getElem?_map]
        cases c.phases[j]? <;> rfl
  have length : ({ c with lock := l }.wakeIf wake).phases.length = c.phases.length := by
    cases wake <;> simp [wakeIf]
  by_cases same : i = j
  · subst same
    simp [moved, setPhase, phase, length, inside]
  · rw [if_neg (Ne.symm same), ← woken]
    simp only [moved, setPhase, phase, List.getElem?_set, if_neg same]

/-- Putting one element of a list somewhere else changes a count by that element. -/
theorem countP_set_add {β : Type} (test : β → Bool) (y : β) {xs : List β} (inside : i < xs.length) :
    (xs.set i y).countP test + (test xs[i]).toNat = xs.countP test + (test y).toNat := by
  have new : (test y).toNat = if test y = true then 1 else 0 := by cases test y <;> rfl
  rw [List.countP_set inside, new]
  cases passes : test xs[i] with
  | false => simp
  | true =>
      have counts : 0 < xs.countP test :=
        List.countP_pos_iff.mpr ⟨_, List.getElem_mem inside, passes⟩
      simp only [Bool.toNat_true, if_true]
      omega

def count (c : Crowd) (test : Phase → Bool) : Nat := c.phases.countP test

/-- Moving an actor changes each count by that actor, if waking the others changes nothing. -/
theorem count_moved (inside : i < c.phases.length) (l : Lock) (wake : Bool) (next : Phase)
    {test : Phase → Bool} (same : ∀ p, test p.wake = test p) :
    (c.moved i l wake next).count test + (test (c.phase i)).toNat =
      c.count test + (test next).toNat := by
  let woken := ({ c with lock := l }.wakeIf wake).phases
  have length : i < woken.length := by cases wake <;> simpa [woken, wakeIf] using inside
  have counted : woken.countP test = c.phases.countP test := by
    cases wake with
    | false => rfl
    | true =>
        simp only [woken, wakeIf, if_true, List.countP_map]
        exact List.countP_congr fun p _ => by rw [Function.comp, same]
  have here : test woken[i] = test (c.phase i) := by
    have phase : c.phase i = c.phases[i] := by simp [phase, inside]
    rw [phase]
    cases wake with
    | false => rfl
    | true => simp [woken, wakeIf, same]
  have set := countP_set_add test next length
  rwa [here, counted] at set

/-! ### What a move does -/

/-- An actor tests whether it gets a side, for the first time or again; `rest` is the lock without
what the actor has announced before. -/
inductive Tests (c : Crowd) (i : Nat) (side : Side) (aim : Aim) : Move → Lock → Prop
  | first : c.phase i = .idle → Tests c i side aim (.call i (.acquire side aim)) c.lock
  | again : c.phase i = .parked side aim true →
      Tests c i side aim (.resume i) (c.lock.withdraw side)

/-- An actor gives a side back, because it is told to or at the end of its body; `fault` is what
that ends with if the side is held. -/
inductive Returns (c : Crowd) (i : Nat) (side : Side) : Move → Option Fault → Prop
  | told : c.phase i = .idle → Returns c i side (.call i (.release side)) none
  | leaving (failure : Option Fault) : c.phase i = .inside side failure →
      Returns c i side (.resume i) failure

/-- All that an actor can do in a move, with what it needs: the lock that it leaves, whether it
wakes the others, where it goes, and whether it is done. -/
inductive Does (c : Crowd) (i : Nat) : Move → Lock → Bool → Phase → Option Finish → Prop
  | enter {m : Move} {rest : Lock} (side : Side) (aim : Aim) :
      c.Tests i side aim m rest → rest.isOpen side = true →
      Does c i m (rest.hold side) false (aim.next side) (aim.finish? i)
  | park {m : Move} {rest : Lock} (side : Side) (aim : Aim) :
      c.Tests i side aim m rest → rest.isOpen side = false →
      Does c i m (rest.announce side) false (.parked side aim false) none
  | giveBack {m : Move} {fault : Option Fault} {wake : Bool} {lock : Lock} (side : Side) :
      c.Returns i side m fault → c.lock.release side = .ok (wake, lock) →
      Does c i m lock wake .idle (some { actor := i, fault })
  | refuse {m : Move} {fault : Option Fault} {error : Fault} (side : Side) :
      c.Returns i side m fault → c.lock.release side = .error error →
      Does c i m c.lock false .idle (some { actor := i, fault := some error })
  | interrupt (side : Side) (aim : Aim) (woken : Bool) : c.phase i = .parked side aim woken →
      Does c i (.interrupt i) (c.lock.withdraw side) (side = Side.write) .idle
        (some { actor := i, fault := some interrupted })

/-- To get a side is to move on with the lock taken. -/
theorem enter_eq (c : Crowd) (i : Nat) (side : Side) (lock : Lock) (aim : Aim) :
    c.enter i side lock aim =
      (c.moved i (lock.hold side) false (aim.next side), aim.finish? i) := by
  cases aim <;> rfl

theorem Returns.does (returns : c.Returns i side m fault) : ∃ l wake done,
    c.Does i m l wake .idle done ∧ c.leave i side fault = (c.moved i l wake .idle, done) := by
  unfold leave
  cases released : c.lock.release side with
  | error error => exact ⟨_, _, _, .refuse side returns released, rfl⟩
  | ok result => exact ⟨_, _, _, .giveBack side returns released, rfl⟩

/-- Every move is one of those that `Does` names. -/
theorem does_of_step (makes : c.step m = some (c', done)) : ∃ i l wake next,
    m.actor = i ∧ c.Does i m l wake next done ∧ c' = c.moved i l wake next := by
  cases m with
  | call i what =>
      simp only [step] at makes
      split at makes
      · rename_i side aim idle
        split at makes
        · rename_i isOpen
          rw [enter_eq] at makes
          cases makes
          exact ⟨i, _, _, _, rfl, .enter side aim (.first idle) isOpen, rfl⟩
        · rename_i closed
          cases makes
          refine ⟨i, _, false, _, rfl, .park side aim (.first idle) ?_, rfl⟩
          exact Bool.eq_false_iff.mpr closed
      · rename_i side idle
        obtain ⟨l, wake, done, does, leaves⟩ := ((.told idle : c.Returns i side _ _)).does
        rw [leaves] at makes
        cases makes
        exact ⟨i, l, wake, .idle, rfl, does, rfl⟩
      · cases makes
  | resume i =>
      simp only [step] at makes
      split at makes
      · rename_i side aim woken
        split at makes
        · rename_i isOpen
          rw [enter_eq] at makes
          cases makes
          refine ⟨i, _, _, _, rfl, .enter side aim (.again woken) ?_, rfl⟩
          rw [isOpen_withdraw]
          exact isOpen
        · rename_i closed
          cases makes
          have does := Does.park side aim (.again woken)
            (by rw [isOpen_withdraw]; exact Bool.eq_false_iff.mpr closed)
          rw [announce_withdraw] at does
          exact ⟨i, _, false, _, rfl, does, rfl⟩
      · rename_i side failure inside
        obtain ⟨l, wake, done, does, leaves⟩ := (Returns.leaving failure inside).does
        rw [leaves] at makes
        cases makes
        exact ⟨i, l, wake, .idle, rfl, does, rfl⟩
      · cases makes
  | interrupt i =>
      simp only [step] at makes
      split at makes
      · rename_i side aim woken parked
        cases makes
        exact ⟨i, _, _, _, rfl, .interrupt side aim woken parked, rfl⟩
      · cases makes

/-! ### Moves that can always be made -/

/-- Who finds a side closed is parked, and is counted if it is a writer. -/
theorem step_of_closed {rest : Lock} (tests : c.Tests i side aim m rest)
    (closed : rest.isOpen side = false) :
    c.step m = some (c.moved i (rest.announce side) false (.parked side aim false), none) := by
  cases tests with
  | first idle =>
      simp only [step, idle, closed, Bool.false_eq_true, if_false]
      rfl
  | again woken =>
      rw [isOpen_withdraw] at closed
      simp only [step, woken, closed, Bool.false_eq_true, if_false, announce_withdraw]
      rfl

/-- Who finds a side open takes it. -/
theorem step_of_open {rest : Lock} (tests : c.Tests i side aim m rest)
    (isOpen : rest.isOpen side = true) :
    c.step m = some (c.moved i (rest.hold side) false (aim.next side), aim.finish? i) := by
  cases tests with
  | first idle =>
      simp only [step, idle, isOpen, if_true, enter_eq]
  | again woken =>
      rw [isOpen_withdraw] at isOpen
      simp only [step, woken, isOpen, if_true, enter_eq]

theorem step_of_held (returns : c.Returns i side m fault) (held : c.lock.isHeld side = true) :
    ∃ l wake, c.lock.release side = .ok (wake, l) ∧
      c.step m = some (c.moved i l wake .idle, some { actor := i, fault }) := by
  cases released : c.lock.release side with
  | error error => exact absurd held (Bool.eq_false_iff.mp (not_isHeld_of_refused released))
  | ok result =>
      obtain ⟨wake, l⟩ := result
      refine ⟨l, wake, rfl, ?_⟩
      have leaves (fault : Option Fault) : c.leave i side fault =
          (c.moved i l wake .idle, some { actor := i, fault }) := by
        simp only [leave, released]
        rfl
      cases returns with
      | told idle => simp only [step, idle, leaves]
      | leaving failure inside => simp only [step, inside, leaves]

/-- Who gives back what nobody holds is told so, and the lock stays as it is. -/
theorem step_of_unheld (returns : c.Returns i side m fault) (unheld : c.lock.isHeld side = false) :
    c.step m = some (c.moved i c.lock false .idle,
      some { actor := i, fault := some (notHeld side) }) := by
  have leaves (fault : Option Fault) : c.leave i side fault =
      (c.moved i c.lock false .idle, some { actor := i, fault := some (notHeld side) }) := by
    simp only [leave, release_of_not_isHeld unheld]
    rfl
  cases returns with
  | told idle => simp only [step, idle, leaves]
  | leaving failure inside => simp only [step, inside, leaves]

/-- Who is interrupted while parked is counted no more; a writer wakes the others. -/
theorem step_interrupt {woken : Bool} (parked : c.phase i = .parked side aim woken) :
    c.step (.interrupt i) = some (c.moved i (c.lock.withdraw side) (side = Side.write) .idle,
      some { actor := i, fault := some interrupted }) := by
  simp only [step, parked]
  rfl

end Crowd

end Checkup.Lock
