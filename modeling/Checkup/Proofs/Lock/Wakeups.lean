import Checkup.Proofs.Lock.Holds

/-!
No wake-up is lost around a lock.

Those who wait are woken at few places only: when the last reader leaves, when a writer leaves, and
when a writer gives up waiting. That is enough, because every move keeps closed what an actor that
is parked and not woken waits for: a move that could open a side to someone wakes everyone.

Main statements: `alert_step` (what every move keeps) and `parked_for_a_reason` (where nobody can go
on by itself, everyone who is parked has someone to wait for).
-/

namespace Checkup.Lock.Crowd

variable {c c' : Crowd} {m : Move} {moves : List Move} {i j n : Nat} {side : Side} {aim : Aim}
  {done : Option Finish} {l rest : Lock} {wake woken : Bool} {next : Phase}

/-- Nobody can go on by itself: everyone is idle, or parked and not woken. -/
def IsStill (c : Crowd) : Prop := ∀ p ∈ c.phases, p.isReady = false

/-- What an actor waits for that is parked and not woken is closed. -/
def Alert (c : Crowd) : Prop :=
  ∀ i side aim, c.phase i = .parked side aim false → c.lock.isOpen side = false

theorem alert_start (n : Nat) : (start n).Alert := by
  intro i side aim parked
  rw [phase_start] at parked
  cases parked

/-! ### What a move opens -/

theorem Counted.waiting_nonneg (counted : c.Counted n) : 0 ≤ c.lock.waitingWriters := by
  rw [counted.waiting]
  exact Int.natCast_nonneg _

/-- Whoever gets a side opens none. -/
theorem isOpen_of_enter (counted : c.Counted n) (tests : c.Tests i side aim m rest)
    (entered : rest.isOpen side = true) {other : Side} (opened : (rest.hold side).isOpen other) :
    c.lock.isOpen other = true := by
  cases side with
  | write => cases other <;> cases opened
  | read =>
      cases other with
      | read =>
          cases tests with
          | first => exact entered
          | again => exact entered
      | write =>
          have readers := (rest_of_tests tests).1
          have gone : rest.readers + 1 = 0 := (isOpen_write_iff.mp opened).2
          have nonneg := counted.nonneg
          omega

/-- Whoever parks opens no side. -/
theorem isOpen_of_park (counted : c.Counted n) (tests : c.Tests i side aim m rest) {other : Side}
    (opened : (rest.announce side).isOpen other) : c.lock.isOpen other = true := by
  cases tests with
  | again woken => rwa [announce_withdraw] at opened
  | first idle =>
      cases side with
      | read => exact opened
      | write =>
          cases other with
          | write => exact opened
          | read =>
              have gone : c.lock.waitingWriters + 1 = 0 := (isOpen_read_iff.mp opened).2
              have nonneg := counted.waiting_nonneg
              omega

/-- A move that wakes nobody opens no side. -/
theorem isOpen_of_does (counted : c.Counted n) (does : c.Does i m l wake next done)
    (quiet : wake = false) (opened : l.isOpen side = true) : c.lock.isOpen side = true := by
  cases does with
  | enter side' aim tests entered => exact isOpen_of_enter counted tests entered opened
  | park side' aim tests closed => exact isOpen_of_park counted tests opened
  | giveBack side' returns released =>
      rcases release_cases released with ⟨-, -, rfl, rfl⟩ | ⟨-, -, rfl, -⟩
      · cases side with
        | read => exact opened
        | write =>
            have last : c.lock.readers - 1 = 0 := (isOpen_write_iff.mp opened).2
            rw [beq_eq_false_iff_ne] at quiet
            omega
      · cases quiet
  | refuse side' returns refused => exact opened
  | interrupt side' aim woken parked =>
      cases side' with
      | read => exact opened
      | write => cases quiet

/-- Every move keeps closed what those wait for who are not woken. -/
theorem alert_step (alert : c.Alert) (counted : c.Counted n) (inside : m.actor < n)
    (makes : c.step m = some (c', done)) : c'.Alert := by
  obtain ⟨i, l, wake, next, actor, does, rfl⟩ := does_of_step makes
  rw [actor, ← counted.length_eq] at inside
  intro j side aim parked
  rw [phase_moved inside] at parked
  rw [lock_moved]
  split at parked
  · cases does with
    | park side' aim' tests closed =>
        cases parked
        cases side <;> exact closed
    | @enter _ _ side' aim' => cases aim' <;> cases parked
    | giveBack | refuse | interrupt => cases parked
  · split at parked
    · cases phase : c.phase j <;> rw [phase] at parked <;> cases parked
    · rename_i quiet
      have closed := alert j side aim parked
      rw [← Bool.not_eq_true] at closed ⊢
      exact fun opened => closed (isOpen_of_does counted does (Bool.eq_false_iff.mpr quiet) opened)

/-- After any moves, what a parked actor waits for that was not woken is closed. -/
theorem alert_run (runs : (start n).follow moves = some c) (among : ∀ m ∈ moves, m.actor < n) :
    c.Alert :=
  (follow_history (I := fun _ c => c.Counted n ∧ c.Alert) runs
    (fun mem ⟨counted, alert⟩ makes => ⟨counted_step counted (among _ mem) makes,
      alert_step alert counted (among _ mem) makes⟩)
    [] ⟨counted_start n, alert_start n⟩).2

/-! ### Where nobody can go on -/

/-- Where nobody can go on, what a parked actor waits for is closed. -/
theorem IsStill.isOpen_eq_false (still : c.IsStill) (alert : c.Alert)
    (parked : c.phase i = .parked side aim woken) : c.lock.isOpen side = false := by
  have busy : c.phase i ≠ .idle := by simp [parked]
  have unready := still _ (List.mem_of_getElem? (getElem?_of_busy busy))
  rw [parked] at unready
  change woken = false at unready
  exact alert i side aim (unready ▸ parked)

/-- Someone waits for the side of writers if writers that wait are counted. -/
theorem Counted.exists_awaitsWrite (counted : c.Counted n) (waits : 0 < c.lock.waitingWriters) :
    ∃ i aim woken, c.phase i = .parked .write aim woken := by
  rw [counted.waiting] at waits
  obtain ⟨p, mem, writes⟩ := List.countP_pos_iff.mp (Int.natCast_pos.mp waits)
  obtain ⟨i, here⟩ := List.mem_iff_getElem?.mp mem
  have phase : c.phase i = p := by simp [Crowd.phase, here]
  cases p with
  | parked side aim woken =>
      cases side with
      | read => cases writes
      | write => exact ⟨i, aim, woken, phase⟩
  | idle | inside => cases writes

/-- Where nobody can go on, a parked writer waits for the writer or the readers inside. -/
theorem IsStill.reason_of_writer (still : c.IsStill) (alert : c.Alert) (counted : c.Counted n)
    (parked : c.phase i = .parked .write aim woken) :
    c.lock.writer = true ∨ 0 < c.lock.readers := by
  have closed := still.isOpen_eq_false alert parked
  rw [← Bool.not_eq_true, isOpen_write_iff] at closed
  have nonneg := counted.nonneg
  cases taken : c.lock.writer with
  | true => exact .inl rfl
  | false =>
      have some : c.lock.readers ≠ 0 := fun none => closed ⟨taken, none⟩
      exact .inr (by omega)

/-- Where nobody can go on, a parked reader waits for the writer inside or for one that waits. -/
theorem IsStill.reason_of_reader (still : c.IsStill) (alert : c.Alert) (counted : c.Counted n)
    (parked : c.phase i = .parked .read aim woken) :
    c.lock.writer = true ∨ 0 < c.lock.waitingWriters := by
  have closed := still.isOpen_eq_false alert parked
  rw [← Bool.not_eq_true, isOpen_read_iff] at closed
  have nonneg := counted.waiting_nonneg
  cases taken : c.lock.writer with
  | true => exact .inl rfl
  | false =>
      have some : c.lock.waitingWriters ≠ 0 := fun none => closed ⟨taken, none⟩
      exact .inr (by omega)

/-- Where nobody can go on and someone is parked, a side is held. -/
theorem IsStill.exists_held (still : c.IsStill) (alert : c.Alert) (counted : c.Counted n)
    (parked : (c.phase i).isParked = true) : ∃ side, 0 < c.lock.holders side := by
  have held (reason : c.lock.writer = true ∨ 0 < c.lock.readers) :
      ∃ side, 0 < c.lock.holders side := by
    rcases reason with taken | readers
    · exact ⟨.write, by simp [holders, taken]⟩
    · exact ⟨.read, readers⟩
  cases phase : c.phase i with
  | parked side aim woken =>
      cases side with
      | write => exact held (still.reason_of_writer alert counted phase)
      | read =>
          rcases still.reason_of_reader alert counted phase with taken | waits
          · exact held (.inl taken)
          · obtain ⟨j, aim', woken', writer⟩ := counted.exists_awaitsWrite waits
            exact held (still.reason_of_writer alert counted writer)
  | idle | inside =>
      rw [phase] at parked
      cases parked

/-- Where nobody can go on by itself, a parked reader faces a writer inside or one that still waits,
a parked writer faces a writer or readers inside, and if anyone is parked then more holds were taken
than given back. A writer that gives up waiting leaves nobody parked who is not woken. -/
theorem parked_for_a_reason (runs : (start n).follow moves = some c)
    (among : ∀ m ∈ moves, m.actor < n) :
    (c.IsStill →
      (∀ i aim woken, c.phase i = .parked .read aim woken → c.lock.writer = true ∨
        0 < c.lock.waitingWriters ∧ ∃ j aim' woken', c.phase j = .parked .write aim' woken') ∧
      (∀ i aim woken, c.phase i = .parked .write aim woken →
        c.lock.writer = true ∨ 0 < c.lock.readers) ∧
      ((∃ i, (c.phase i).isParked = true) →
        ∃ side, 0 < (((start n).deeds moves).map (Deed.change side)).sum)) ∧
    (∀ i aim woken, c.phase i = .parked .write aim woken →
      ∃ c', c.step (.interrupt i) = some (c', some { actor := i, fault := some interrupted }) ∧
        c'.phase i = .idle ∧
        ∀ j side aim' woken', c'.phase j = .parked side aim' woken' → woken' = true) := by
  have counted := counted_run runs among
  have alert := alert_run runs among
  refine ⟨fun still => ⟨?_, ?_, ?_⟩, ?_⟩
  · intro i aim woken parked
    refine (still.reason_of_reader alert counted parked).imp_right fun waits => ⟨waits, ?_⟩
    exact counted.exists_awaitsWrite waits
  · intro i aim woken parked
    exact still.reason_of_writer alert counted parked
  · rintro ⟨i, parked⟩
    obtain ⟨side, held⟩ := still.exists_held alert counted parked
    exact ⟨side, holders_eq_sum runs side ▸ held⟩
  · intro i aim woken parked
    have inside := lt_length_of_busy (c := c) (i := i) (by simp [parked])
    refine ⟨_, step_interrupt parked, ?_, ?_⟩
    · rw [phase_moved inside, if_pos rfl]
    · intro j side aim' woken' here
      rw [phase_moved inside] at here
      split at here
      · cases here
      · cases phase : c.phase j <;> rw [phase] at here <;> cases here
        rfl

/-- A reader is inside, a writer waits for it, and a second reader waits behind the writer. -/
def queued : List Move :=
  [.call 0 (.acquire .read .keep), .call 1 (.acquire .write .keep), .call 2 (.acquire .read .keep)]

theorem queued_reader_is_woken : (∀ m ∈ queued, m.actor < 3) ∧
    ∃ c, (start 3).follow queued = some c ∧ c.IsStill ∧ c.phase 1 = .parked .write .keep false ∧
      c.phase 2 = .parked .read .keep false ∧
      (c.lock.writer = true ∨ 0 < c.lock.waitingWriters) ∧
      (c.lock.writer = true ∨ 0 < c.lock.readers) ∧
      ∃ c' done, c.step (.interrupt 1) = some (c', done) ∧
        ∀ woken, c'.phase 2 = .parked .read .keep woken → woken = true := by
  have among : ∀ m ∈ queued, m.actor < 3 := by decide
  obtain ⟨c, runs, still, writer, reader⟩ : ∃ c, (start 3).follow queued = some c ∧ c.IsStill ∧
      c.phase 1 = .parked .write .keep false ∧ c.phase 2 = .parked .read .keep false := by
    refine ⟨_, rfl, ?_, rfl, rfl⟩
    unfold IsStill
    decide
  have ⟨waits, abandoned⟩ := parked_for_a_reason runs among
  obtain ⟨c', step, -, woken⟩ := abandoned 1 .keep false writer
  refine ⟨among, c, runs, still, writer, reader, ?_, (waits still).2.1 1 _ _ writer, c', _, step,
    ?_⟩
  · exact ((waits still).1 2 _ _ reader).imp_right fun h => h.1
  · exact fun w here => woken 2 _ _ w here

end Checkup.Lock.Crowd
