import Checkup.Proofs.Lock.Holds

/-!
Writers go first.

While an actor waits for the side of writers it is counted among the writers that wait, whoever else
comes and goes, is woken, tests again or gives up. So until it gets its side or is interrupted the
side of readers stays closed, and readers can only leave.

Main statements: `stays_parked_of_step` (a writer that waits goes on waiting, unless it gets in or
is interrupted), `turnsReadersAway_of_step` (what a move can do while a writer waits) and
`waiting_writer_bars_readers` (the same of whole runs).
-/

namespace Checkup.Lock.Crowd

variable {c c' : Crowd} {m : Move} {moves past between : List Move} {i n : Nat} {aim : Aim}
  {done : Option Finish} {l : Lock} {wake woken : Bool} {next : Phase}

/-! ### Waiting -/

/-- An actor is parked until it can get the side of writers, woken or not. -/
def AwaitsWrite (c : Crowd) (i : Nat) (aim : Aim) : Prop :=
  ∃ woken, c.phase i = .parked .write aim woken

/-- In a run of moves an actor neither gets the side of writers nor is interrupted. -/
structure StillWaits (c : Crowd) (i : Nat) (moves : List Move) : Prop where
  notIn : .takes ⟨i, .write⟩ ∉ c.deeds moves
  notOut : .interrupt i ∉ moves

/-- A move lets no reader in: whoever tests for the side of readers parks and does not finish, none
is taken, and there are no more readers inside than before. -/
structure TurnsReadersAway (c : Crowd) (m : Move) (c' : Crowd) (done : Option Finish) : Prop where
  parks (j : Nat) (aim : Aim) (rest : Lock) : c.Tests j .read aim m rest →
    done = none ∧ c'.phase j = .parked .read aim false
  takes_none (j : Nat) : c.deed m ≠ .takes ⟨j, .read⟩
  readers_le : c'.lock.readers ≤ c.lock.readers

/-- A writer that waits is counted. -/
theorem AwaitsWrite.waiting_pos (waits : c.AwaitsWrite i aim) (counted : c.Counted n) :
    0 < c.lock.waitingWriters := by
  obtain ⟨woken, parked⟩ := waits
  have here := getElem?_of_busy (c := c) (i := i) (by simp [parked])
  have counts : 0 < c.count Phase.awaitsWrite :=
    List.countP_pos_iff.mpr ⟨_, List.mem_of_getElem? here, by rw [parked]; rfl⟩
  rw [counted.waiting]
  exact Int.natCast_pos.mpr counts

/-- While a writer waits, the side of readers is closed. -/
theorem AwaitsWrite.isOpen_read (waits : c.AwaitsWrite i aim) (counted : c.Counted n) :
    c.lock.isOpen .read = false := by
  have positive := waits.waiting_pos counted
  rw [← Bool.not_eq_true, isOpen_read_iff]
  rintro ⟨-, none⟩
  rw [none] at positive
  exact absurd positive (Int.lt_irrefl 0)

/-! ### One move -/

/-- Only a side that is open is taken. -/
theorem isOpen_of_takes {hold : Hold} (takes : c.deed m = .takes hold) :
    c.lock.isOpen hold.side = true := by
  unfold deed at takes
  split at takes
  · split at takes
    · rename_i isOpen
      cases takes
      exact isOpen
    · cases takes
  · split at takes <;> cases takes
  · split at takes
    · cases takes
    · split at takes
      · rename_i isOpen
        cases takes
        exact isOpen
      · cases takes
    · split at takes <;> cases takes
  · cases takes

/-- A writer that waits tests again and parks again, if it does not get in. -/
theorem parks_again_of_does (does : c.Does i m l wake next done)
    (waits : c.AwaitsWrite i aim) (notIn : c.deed m ≠ .takes ⟨i, .write⟩)
    (notOut : m ≠ .interrupt i) : next = .parked .write aim false := by
  obtain ⟨before, parked⟩ := waits
  cases does with
  | enter side aim' tests isOpen =>
      cases tests with
      | first idle =>
          rw [parked] at idle
          cases idle
      | again woken =>
          rw [parked] at woken
          cases woken
          exact absurd ((deed_of_tests (.again parked)).trans (if_pos isOpen)) notIn
  | park side aim' tests closed =>
      cases tests with
      | first idle =>
          rw [parked] at idle
          cases idle
      | again woken =>
          rw [parked] at woken
          cases woken
          rfl
  | giveBack side returns released =>
      cases returns with
      | told idle => rw [parked] at idle; cases idle
      | leaving failure inside => rw [parked] at inside; cases inside
  | refuse side returns refused =>
      cases returns with
      | told idle => rw [parked] at idle; cases idle
      | leaving failure inside => rw [parked] at inside; cases inside
  | interrupt side aim' woken here => exact absurd rfl notOut

/-- A writer that waits goes on waiting, unless it gets in or is interrupted. -/
theorem stays_parked_of_step (waits : c.AwaitsWrite i aim) (here : m.actor < c.phases.length)
    (notIn : c.deed m ≠ .takes ⟨i, .write⟩) (notOut : m ≠ .interrupt i)
    (makes : c.step m = some (c', done)) : c'.AwaitsWrite i aim := by
  obtain ⟨j, l, wake, next, actor, does, rfl⟩ := does_of_step makes
  rw [actor] at here
  unfold AwaitsWrite
  rw [phase_moved here]
  by_cases same : i = j
  · subst same
    exact ⟨false, by rw [if_pos rfl, parks_again_of_does does waits notIn notOut]⟩
  · obtain ⟨woken, parked⟩ := waits
    rw [if_neg same, parked]
    cases wake with
    | true => exact ⟨true, rfl⟩
    | false => exact ⟨woken, rfl⟩

/-- While a writer waits no move lets a reader in. -/
theorem turnsReadersAway_of_step (waits : c.AwaitsWrite i aim) (counted : c.Counted n)
    (inside : m.actor < n) (makes : c.step m = some (c', done)) :
    c.TurnsReadersAway m c' done := by
  have closed := waits.isOpen_read counted
  rw [← counted.length_eq] at inside
  have takes_none (j : Nat) : c.deed m ≠ .takes ⟨j, .read⟩ := by
    intro takes
    have isOpen := isOpen_of_takes takes
    rw [closed] at isOpen
    cases isOpen
  refine ⟨?_, takes_none, ?_⟩
  · intro j aim' rest tests
    have shut : rest.isOpen .read = false := by
      cases tests with
      | first idle => exact closed
      | again woken => rwa [isOpen_withdraw]
    have actor : m.actor = j := by cases tests <;> rfl
    rw [step_of_closed tests shut] at makes
    cases makes
    rw [phase_moved (actor ▸ inside), if_pos rfl]
    exact ⟨rfl, rfl⟩
  · obtain ⟨j, l, wake, next, -, does, rfl⟩ := does_of_step makes
    have counts : l.readers = c.lock.readers + (c.deed m).change .read := holders_of_does does .read
    rw [lock_moved, counts]
    cases deed : c.deed m with
    | takes hold =>
        obtain ⟨actor, side⟩ := hold
        cases side with
        | read => exact absurd deed (takes_none actor)
        | write => simp [Deed.change]
    | gives hold =>
        obtain ⟨actor, side⟩ := hold
        cases side <;> simp [Deed.change]
    | nothing => simp [Deed.change]

/-! ### Runs -/

theorem exists_of_follow_cons (runs : c.follow (m :: moves) = some c') :
    ∃ d done, c.step m = some (d, done) ∧ d.follow moves = some c' := by
  obtain ⟨⟨d, done⟩, makes, goesOn⟩ := Option.bind_eq_some_iff.mp runs
  exact ⟨d, done, makes, goesOn⟩

theorem StillWaits.of_cons {d : Crowd} (waits : c.StillWaits i (m :: moves))
    (makes : c.step m = some (d, done)) :
    c.deed m ≠ .takes ⟨i, .write⟩ ∧ m ≠ .interrupt i ∧ d.StillWaits i moves := by
  have notIn := waits.notIn
  have notOut := waits.notOut
  simp only [deeds, makes, Option.map_some, Option.getD_some, List.mem_cons, not_or] at notIn
  simp only [List.mem_cons, not_or] at notOut
  exact ⟨Ne.symm notIn.1, Ne.symm notOut.1, notIn.2, notOut.2⟩

/-- While a writer waits that neither gets in nor is interrupted, nobody takes the side of
readers. -/
theorem barred_run (counted : c.Counted n) (among : ∀ m ∈ between, m.actor < n)
    (waits : c.AwaitsWrite i aim) (still : c.StillWaits i between)
    (goesOn : c.follow between = some c') :
    c'.Counted n ∧ c'.AwaitsWrite i aim ∧ c'.lock.readers ≤ c.lock.readers ∧
      ∀ j, .takes ⟨j, .read⟩ ∉ c.deeds between := by
  induction between generalizing c with
  | nil =>
      cases goesOn
      exact ⟨counted, waits, Int.le_refl _, fun j => List.not_mem_nil⟩
  | cons m moves ih =>
      obtain ⟨d, done, makes, goesOn⟩ := exists_of_follow_cons goesOn
      have inside := among m List.mem_cons_self
      obtain ⟨notIn, notOut, still⟩ := still.of_cons makes
      have turns := turnsReadersAway_of_step waits counted inside makes
      have waits := stays_parked_of_step waits (counted.length_eq.symm ▸ inside) notIn notOut makes
      obtain ⟨counted, waits, fewer, untaken⟩ := ih (counted_step counted inside makes)
        (fun m' mem => among m' (List.mem_cons_of_mem m mem)) waits still goesOn
      refine ⟨counted, waits, Int.le_trans fewer turns.readers_le, fun j mem => ?_⟩
      simp only [deeds, makes, Option.map_some, Option.getD_some, List.mem_cons] at mem
      rcases mem with first | later
      · exact turns.takes_none j first.symm
      · exact untaken j later

/-- From where a writer is parked, wherever moves lead in which it neither gets its side nor is
interrupted: it still waits, no reader got in on the way, there are no more readers inside than
there were, and whichever move comes next lets none in, however many other writers come and go. -/
theorem waiting_writer_bars_readers (runs : (start n).follow past = some c)
    (parked : c.phase i = .parked .write aim woken) (goesOn : c.follow between = some c')
    (among : ∀ m ∈ past ++ between, m.actor < n) (still : c.StillWaits i between) :
    c'.AwaitsWrite i aim ∧ (∀ j, .takes ⟨j, .read⟩ ∉ c.deeds between) ∧
      c'.lock.readers ≤ c.lock.readers ∧
      ∀ m next done, m.actor < n → c'.step m = some (next, done) →
        c'.TurnsReadersAway m next done := by
  have counted := counted_run runs fun m mem => among m (List.mem_append_left _ mem)
  obtain ⟨counted', waits, fewer, untaken⟩ := barred_run counted
    (fun m mem => among m (List.mem_append_right _ mem)) ⟨woken, parked⟩ still goesOn
  refine ⟨waits, untaken, fewer, fun m next done inside makes => ?_⟩
  exact turnsReadersAway_of_step waits counted' inside makes

/-- A reader is inside, and two writers wait for it to leave. -/
def contended : List Move :=
  [.call 0 (.acquire .read .keep), .call 1 (.acquire .write .keep),
    .call 2 (.acquire .write .keep)]

/-- The writer that came later gets in and leaves first, and a reader who has been parked meanwhile
is woken and tests again. -/
def overtaken : List Move :=
  [.call 0 (.release .read), .resume 2, .call 3 (.acquire .read .keep), .call 2 (.release .write),
    .resume 3]

theorem overtaken_writer_bars_reader : (∀ m ∈ contended ++ overtaken, m.actor < 4) ∧
    ∃ c c', (start 4).follow contended = some c ∧ c.phase 1 = .parked .write .keep false ∧
      c.follow overtaken = some c' ∧ c.StillWaits 1 overtaken ∧ c.lock.readers = 1 ∧
      c'.lock.readers ≤ 1 ∧ c'.AwaitsWrite 1 .keep ∧ .takes ⟨3, .read⟩ ∉ c.deeds overtaken ∧
      c'.phase 3 = .parked .read .keep false := by
  have among : ∀ m ∈ contended ++ overtaken, m.actor < 4 := by decide
  obtain ⟨c, c', runs, parked, goesOn, notIn, inside, reader⟩ : ∃ c c',
      (start 4).follow contended = some c ∧ c.phase 1 = .parked .write .keep false ∧
      c.follow overtaken = some c' ∧ .takes ⟨1, .write⟩ ∉ c.deeds overtaken ∧
      c.lock.readers = 1 ∧ c'.phase 3 = .parked .read .keep false :=
    ⟨_, _, rfl, rfl, rfl, by decide, rfl, rfl⟩
  have still : c.StillWaits 1 overtaken := ⟨notIn, by simp [overtaken]⟩
  obtain ⟨waits, untaken, fewer, -⟩ :=
    waiting_writer_bars_readers runs parked goesOn among still
  exact ⟨among, c, c', runs, parked, goesOn, still, inside, inside ▸ fewer, waits,
    untaken 3, reader⟩

end Checkup.Lock.Crowd
