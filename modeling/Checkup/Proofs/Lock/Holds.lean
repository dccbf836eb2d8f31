import Checkup.Proofs.Lock.Moves
import Mathlib.Tactic.IntervalCases

/-!
The counters of a lock against the actors around it.

The counters say how many writers wait, how many readers are inside and whether a writer is,
whoever gives back what: an acquire that is interrupted takes its announcement back and leaves
nothing behind, and a side that nobody holds is refused. What the moves of a run took and gave back
makes a book of holds; where every actor gives back only what it took itself, the counters are read
off that book.

Main statements: `counted_step` (what every move keeps of the counters), `booked_step` (what a move
of actors who give back only their own keeps of the book) and `counters_are_exact`.
-/

namespace Checkup.Lock

/-! ### Holds -/

structure Hold where
  actor : Nat
  side : Side
  deriving DecidableEq, Repr

/-- What a move does to the holds of its actor. -/
inductive Deed where
  | takes (hold : Hold)
  | gives (hold : Hold)
  | nothing
  deriving DecidableEq, Repr

namespace Deed

/-- Enters a deed in a book of holds. -/
def book (held : List Hold) : Deed → List Hold
  | takes hold => hold :: held
  | gives hold => held.erase hold
  | nothing => held

/-- How a deed changes the number of holds of a side. -/
def change (side : Side) : Deed → Int
  | takes hold => if hold.side = side then 1 else 0
  | gives hold => if hold.side = side then -1 else 0
  | nothing => 0

end Deed

def holders (l : Lock) : Side → Int
  | .read => l.readers
  | .write => if l.writer then 1 else 0

namespace Phase

def awaitsWrite : Phase → Bool
  | parked .write .. => true
  | _ => false

@[simp] theorem awaitsWrite_wake (p : Phase) : p.wake.awaitsWrite = p.awaitsWrite := by
  cases p with
  | parked side aim woken => cases side <;> rfl
  | _ => rfl

end Phase

namespace Crowd

variable {c c' d : Crowd} {m : Move} {moves past : List Move} {i j n : Nat} {side : Side} {aim : Aim}
  {fault : Option Fault} {done : Option Finish} {l rest : Lock} {held : List Hold} {wake : Bool}
  {next : Phase}

/-- What a move that can be made takes or gives back. -/
def deed (c : Crowd) : Move → Deed
  | .call i (.acquire side _) => if c.lock.isOpen side then .takes ⟨i, side⟩ else .nothing
  | .call i (.release side) => if c.lock.isHeld side then .gives ⟨i, side⟩ else .nothing
  | .resume i =>
    match c.phase i with
    | .idle => .nothing
    | .parked side .. => if c.lock.isOpen side then .takes ⟨i, side⟩ else .nothing
    | .inside side _ => if c.lock.isHeld side then .gives ⟨i, side⟩ else .nothing
  | .interrupt _ => .nothing

def deeds (c : Crowd) : List Move → List Deed
  | [] => []
  | m :: moves => c.deed m :: ((c.step m).map fun made => made.1.deeds moves).getD []

def holds (n : Nat) (moves : List Move) : List Hold := ((start n).deeds moves).foldl Deed.book []

/-- Every actor that is told to give a side back holds it then. -/
def GivesOwn (n : Nat) (moves : List Move) : Prop :=
  ∀ (k i : Nat) (side : Side), moves[k]? = some (.call i (.release side)) →
    ⟨i, side⟩ ∈ holds n (moves.take k)

/-! ### What a move does to the counters -/

/-- A test takes the side where it finds it open, and nothing where it does not. -/
theorem deed_of_tests (tests : c.Tests i side aim m rest) :
    c.deed m = if rest.isOpen side then .takes ⟨i, side⟩ else .nothing := by
  cases tests with
  | first idle => rfl
  | again woken => simp only [deed, woken, isOpen_withdraw]

/-- A release gives back the side where anyone holds it, and nothing where nobody does. -/
theorem deed_of_returns (returns : c.Returns i side m fault) :
    c.deed m = if c.lock.isHeld side then .gives ⟨i, side⟩ else .nothing := by
  cases returns with
  | told idle => rfl
  | leaving failure inside => simp only [deed, inside]

/-- Without its own announcement an actor finds the lock as the others left it. -/
theorem rest_of_tests (tests : c.Tests i side aim m rest) :
    rest.readers = c.lock.readers ∧ rest.writer = c.lock.writer ∧
      c.lock.waitingWriters = rest.waitingWriters + (c.phase i).awaitsWrite.toNat := by
  cases tests with
  | first idle => simp [idle, Phase.awaitsWrite]
  | again woken =>
      refine ⟨readers_withdraw .., writer_withdraw .., ?_⟩
      cases side with
      | read => simp [woken, withdraw, Phase.awaitsWrite]
      | write => simp [woken, withdraw, Phase.awaitsWrite]

/-- An actor that gives a side back does not wait. -/
theorem awaitsWrite_of_returns (returns : c.Returns i side m fault) :
    (c.phase i).awaitsWrite = false := by
  cases returns with
  | told idle => rw [idle]; rfl
  | leaving failure inside => rw [inside]; rfl

/-- The counters go with what is taken and given back. -/
theorem holders_of_does (does : c.Does i m l wake next done) (side : Side) :
    l.holders side = c.lock.holders side + (c.deed m).change side := by
  cases does with
  | enter side' aim tests isOpen =>
      obtain ⟨readers, writer, -⟩ := rest_of_tests tests
      rw [deed_of_tests tests, if_pos isOpen]
      cases side' with
      | read => cases side <;> simp [hold, holders, Deed.change, readers, writer]
      | write =>
          have free := (isOpen_write_iff.mp isOpen).1
          rw [writer] at free
          cases side <;> simp [hold, holders, Deed.change, readers, free]
  | park side' aim tests closed =>
      obtain ⟨readers, writer, -⟩ := rest_of_tests tests
      rw [deed_of_tests tests, closed]
      cases side <;> simp [holders, Deed.change, readers, writer]
  | giveBack side' returns released =>
      rw [deed_of_returns returns, if_pos (isHeld_of_release released)]
      rcases release_cases released with ⟨rfl, -, -, rfl⟩ | ⟨rfl, held, -, rfl⟩
      · cases side <;> simp [holders, Deed.change, Int.sub_eq_add_neg]
      · cases side <;> simp [holders, Deed.change, held]
  | refuse side' returns refused =>
      rw [deed_of_returns returns, not_isHeld_of_refused refused]
      simp [Deed.change]
  | interrupt side' aim woken parked =>
      cases side <;> simp [holders, deed, Deed.change]

/-! ### Counters that are right whoever gives back what -/

/-- What holds of the counters after any moves of `n` actors. -/
structure Counted (n : Nat) (c : Crowd) : Prop where
  length_eq : c.phases.length = n
  nonneg : 0 ≤ c.lock.readers
  apart : c.lock.writer = true → c.lock.readers = 0
  waiting : c.lock.waitingWriters = c.count Phase.awaitsWrite

theorem counted_start (n : Nat) : (start n).Counted n := by
  refine ⟨List.length_replicate, Int.le_refl 0, nofun, ?_⟩
  simp [start, count, List.countP_replicate, Phase.awaitsWrite]

/-- Moving an actor keeps the counters right if the writers that wait are still counted. -/
theorem Counted.of_moved (counted : c.Counted n) (inside : i < n) (wake : Bool)
    (nonneg : 0 ≤ l.readers) (apart : l.writer = true → l.readers = 0)
    (waits : l.waitingWriters + (c.phase i).awaitsWrite.toNat =
      c.lock.waitingWriters + next.awaitsWrite.toNat) : (c.moved i l wake next).Counted n := by
  have counts := count_moved (counted.length_eq.symm ▸ inside) l wake next Phase.awaitsWrite_wake
  have waiting := counted.waiting
  refine ⟨by simpa using counted.length_eq, by simpa using nonneg, by simpa using apart, ?_⟩
  rw [lock_moved]
  omega

theorem counted_step (counted : c.Counted n) (inside : m.actor < n)
    (makes : c.step m = some (c', done)) : c'.Counted n := by
  have nonneg := counted.nonneg
  have apart := counted.apart
  obtain ⟨i, l, wake, next, actor, does, rfl⟩ := does_of_step makes
  rw [actor] at inside
  cases does with
  | @enter _ rest side aim tests isOpen =>
      obtain ⟨readers, writer, waits⟩ := rest_of_tests tests
      rw [← readers] at nonneg
      refine counted.of_moved inside _ ?_ ?_ ?_
      · cases side with
        | read => exact Int.le_add_one nonneg
        | write => exact nonneg
      · cases side with
        | read =>
            intro taken
            have free := (isOpen_read_iff.mp isOpen).1
            rw [show rest.writer = true from taken] at free
            cases free
        | write => exact fun _ => (isOpen_write_iff.mp isOpen).2
      · rw [waitingWriters_hold, ← waits]
        cases aim <;> simp [Aim.next, Phase.awaitsWrite]
  | park side aim tests closed =>
      obtain ⟨readers, writer, waits⟩ := rest_of_tests tests
      refine counted.of_moved inside _ ?_ ?_ ?_
      · simpa [readers] using nonneg
      · simpa [readers, writer] using apart
      · rw [waits]
        cases side with
        | read => simp [announce, Phase.awaitsWrite]
        | write =>
            simp only [announce, Phase.awaitsWrite, Bool.toNat_true]
            omega
  | giveBack side returns released =>
      refine counted.of_moved inside _ ?_ ?_ ?_
      · rcases release_cases released with ⟨-, held, -, rfl⟩ | ⟨-, -, -, rfl⟩
        · exact Int.le_sub_one_of_lt held
        · exact nonneg
      · rcases release_cases released with ⟨-, held, -, rfl⟩ | ⟨-, -, -, rfl⟩
        · intro taken
          exact absurd (apart taken) (Int.ne_of_gt held)
        · intro taken
          cases taken
      · rw [awaitsWrite_of_returns returns, waitingWriters_of_release released]
        rfl
  | refuse side returns refused =>
      refine counted.of_moved inside _ nonneg apart ?_
      rw [awaitsWrite_of_returns returns]
      rfl
  | interrupt side aim woken parked =>
      refine counted.of_moved inside _ ?_ ?_ ?_
      · simpa using nonneg
      · simpa using apart
      · rw [parked]
        cases side <;> simp [withdraw, Phase.awaitsWrite]

/-- After any moves the counters of the lock are equal to what is counted around it. -/
theorem counted_run (runs : (start n).follow moves = some c) (among : ∀ m ∈ moves, m.actor < n) :
    c.Counted n :=
  follow_history (I := fun _ c => c.Counted n) runs
    (fun mem counted makes => counted_step counted (among _ mem) makes) [] (counted_start n)

/-! ### The book -/

theorem emits_deeds :
    Emits (fun c m => (step c m).map Prod.fst) (fun c m => [c.deed m]) deeds := by
  refine ⟨fun _ => rfl, fun made moves => ?_⟩
  obtain ⟨_, makes, rfl⟩ := Option.map_eq_some_iff.mp made
  rw [deeds, makes]
  rfl

theorem deeds_concat (runs : c.follow past = some c') (makes : c'.step m = some (d, done)) :
    c.deeds (past ++ [m]) = c.deeds past ++ [c'.deed m] :=
  emits_deeds.concat isRun runs (Option.map_eq_some_iff.mpr ⟨_, makes, rfl⟩)

/-- One more move books one more deed. -/
theorem holds_concat (runs : (start n).follow past = some c) (makes : c.step m = some (d, done)) :
    holds n (past ++ [m]) = (c.deed m).book (holds n past) := by
  rw [holds, deeds_concat runs makes, List.foldl_append]
  rfl

/-- The counters are what the moves of a run took and did not give back. -/
theorem holders_eq_sum (runs : (start n).follow moves = some c) (side : Side) :
    c.lock.holders side = (((start n).deeds moves).map (Deed.change side)).sum := by
  have told := follow_history (I := fun past c =>
    (start n).follow past = some c ∧
      c.lock.holders side = (((start n).deeds past).map (Deed.change side)).sum) runs
    (fun _ ⟨ran, sum⟩ makes => by
      have deeds := deeds_concat ran makes
      refine ⟨follow_concat ran makes, ?_⟩
      obtain ⟨i, l, wake, next, -, does, rfl⟩ := does_of_step makes
      rw [deeds, List.map_append, List.sum_append, ← sum, lock_moved,
        holders_of_does does]
      simp) [] ⟨rfl, by cases side <;> rfl⟩
  exact told.2

/-- A book of holds is the lock's own, and whoever is in a body has the hold it needs. -/
structure Booked (held : List Hold) (c : Crowd) : Prop where
  holders_eq (side : Side) : c.lock.holders side = held.countP fun hold => hold.side = side
  inside {i : Nat} {side : Side} {failure : Option Fault} :
    c.phase i = .inside side failure → ⟨i, side⟩ ∈ held

/-- Entering a deed changes the number of holds by the deed. -/
theorem countP_book {d : Deed} (own : ∀ hold, d = .gives hold → hold ∈ held) (side : Side) :
    ((d.book held).countP fun hold => hold.side = side : Int) =
      (held.countP fun hold => hold.side = side) + d.change side := by
  cases d with
  | takes hold => by_cases same : hold.side = side <;> simp [Deed.book, Deed.change, same]
  | gives hold =>
      have perm := (List.perm_cons_erase (own hold rfl)).countP_eq fun hold => hold.side = side
      rw [List.countP_cons] at perm
      by_cases same : hold.side = side
      · simp only [same, decide_true, if_true] at perm
        simp only [Deed.book, Deed.change, same, if_true]
        omega
      · simp only [same, decide_false, Bool.false_eq_true, if_false] at perm
        simp only [Deed.book, Deed.change, same, if_false]
        omega
  | nothing => simp [Deed.book, Deed.change]

/-- An actor gives back what it was told to give back, or what it held in its body. -/
theorem does_of_gives (does : c.Does i m l wake next done) {hold : Hold}
    (gives : c.deed m = .gives hold) : ∃ side, hold = ⟨i, side⟩ ∧
      (m = .call i (.release side) ∨ ∃ failure, c.phase i = .inside side failure) := by
  cases does with
  | enter side aim tests isOpen =>
      rw [deed_of_tests tests, if_pos isOpen] at gives
      cases gives
  | park side aim tests closed =>
      rw [deed_of_tests tests, closed] at gives
      cases gives
  | giveBack side returns released =>
      rw [deed_of_returns returns, if_pos (isHeld_of_release released)] at gives
      cases gives
      refine ⟨side, rfl, ?_⟩
      cases returns with
      | told idle => exact .inl rfl
      | leaving _ inside => exact .inr ⟨_, inside⟩
  | refuse side returns refused =>
      rw [deed_of_returns returns, not_isHeld_of_refused refused] at gives
      cases gives
  | interrupt side aim woken parked => cases gives

/-- Who is in a body was there before, or has just got the side. -/
theorem inside_of_does (does : c.Does i m l wake next done) (here : i < c.phases.length)
    (inside : (c.moved i l wake next).phase j = .inside side fault) :
    (j ≠ i ∧ c.phase j = .inside side fault) ∨ c.deed m = .takes ⟨j, side⟩ := by
  rw [phase_moved here] at inside
  split at inside
  · rename_i same
    subst same
    cases does with
    | enter side' aim tests isOpen =>
        rw [deed_of_tests tests, if_pos isOpen]
        cases aim with
        | keep => cases inside
        | body failure =>
            cases inside
            exact .inr rfl
    | park | giveBack | refuse | interrupt => cases inside
  · rename_i other
    refine .inl ⟨other, ?_⟩
    split at inside
    · cases phase : c.phase j with
      | inside side' failure => rwa [phase] at inside
      | idle | parked => rw [phase] at inside; cases inside
    · exact inside

/-- A move of an actor that gives back only what it holds itself keeps the book. -/
theorem booked_step (booked : c.Booked held) (here : m.actor < c.phases.length)
    (own : ∀ i side, m = .call i (.release side) → ⟨i, side⟩ ∈ held)
    (makes : c.step m = some (c', done)) : c'.Booked ((c.deed m).book held) := by
  obtain ⟨i, l, wake, next, actor, does, rfl⟩ := does_of_step makes
  rw [actor] at here
  have gives (hold : Hold) (gives : c.deed m = .gives hold) : hold.actor = i ∧ hold ∈ held := by
    obtain ⟨side, rfl, told | ⟨failure, inside⟩⟩ := does_of_gives does gives
    · exact ⟨rfl, own _ _ told⟩
    · exact ⟨rfl, booked.inside inside⟩
  constructor
  · intro side
    rw [lock_moved, holders_of_does does, booked.holders_eq,
      countP_book fun hold h => (gives hold h).2]
  · intro j side failure inside
    rcases inside_of_does does here inside with ⟨other, before⟩ | takes
    · have mem := booked.inside before
      cases deed : c.deed m with
      | takes hold => exact List.mem_cons_of_mem hold mem
      | gives hold =>
          refine (List.mem_erase_of_ne ?_).mpr mem
          rintro rfl
          exact other (gives _ deed).1
      | nothing => exact mem
    · rw [takes]
      exact List.mem_cons_self

theorem GivesOwn.of_concat (gives : GivesOwn n (past ++ [m])) : GivesOwn n past ∧
    ∀ i side, m = .call i (.release side) → ⟨i, side⟩ ∈ holds n past := by
  constructor
  · intro k i side told
    have earlier := (List.getElem?_eq_some_iff.mp told).1
    have own := gives k i side (by rwa [List.getElem?_append_left earlier])
    rwa [List.take_append_of_le_length (Nat.le_of_lt earlier)] at own
  · rintro i side rfl
    have own := gives past.length i side List.getElem?_concat_length
    rwa [List.take_left] at own

/-- Where actors give back what they hold themselves, the lock counts the holds that are booked. -/
theorem booked_run (runs : (start n).follow moves = some c) (among : ∀ m ∈ moves, m.actor < n)
    (gives : GivesOwn n moves) : c.Booked (holds n moves) := by
  have told := follow_history (I := fun past c =>
    (start n).follow past = some c ∧ c.Counted n ∧ (GivesOwn n past → c.Booked (holds n past))) runs
    (fun mem ⟨ran, counted, booked⟩ makes => by
      refine ⟨follow_concat ran makes, counted_step counted (among _ mem) makes, fun gives => ?_⟩
      obtain ⟨before, own⟩ := gives.of_concat
      rw [holds_concat ran makes]
      exact booked_step (booked before) (counted.length_eq.symm ▸ among _ mem) own makes)
    [] ⟨rfl, counted_start n, fun _ => ⟨fun side => by cases side <;> rfl, fun inside => by
      rw [phase_start] at inside
      cases inside⟩⟩
  exact told.2.2 gives

/-- Every hold is of one side or the other. -/
theorem length_eq_sum_countP (held : List Hold) :
    held.length = (held.countP fun hold => hold.side = .read) +
      held.countP fun hold => hold.side = .write := by
  rw [List.length_eq_countP_add_countP fun hold : Hold => hold.side = .read]
  refine congrArg _ (List.countP_congr fun hold _ => ?_)
  cases hold.side <;> decide

/-- While the side of writers is held there is that hold and no other. -/
theorem Booked.eq_singleton (booked : c.Booked held) (counted : c.Counted n)
    (taken : c.lock.writer = true) : ∃ i, held = [⟨i, .write⟩] := by
  have readers := booked.holders_eq .read
  have writers := booked.holders_eq .write
  have length := length_eq_sum_countP held
  simp only [holders, counted.apart taken, taken, if_true] at readers writers
  obtain ⟨⟨i, side⟩, rfl⟩ := List.length_eq_one_iff.mp (by omega : held.length = 1)
  cases side with
  | read => simp at readers
  | write => exact ⟨i, rfl⟩

/-- Where the side of writers is held, the lock knows. -/
theorem Booked.writer_of_mem (booked : c.Booked held) (mem : ⟨i, .write⟩ ∈ held) :
    c.lock.writer = true := by
  have writers := booked.holders_eq .write
  have counts : 0 < held.countP fun hold => hold.side = .write :=
    List.countP_pos_iff.mpr ⟨_, mem, rfl⟩
  cases taken : c.lock.writer with
  | true => rfl
  | false =>
      simp only [holders, taken, Bool.false_eq_true, if_false] at writers
      omega

/-- Whatever actors do around a lock, giving back what others took included: readers are never
fewer than none, there are none while a writer is inside, and the writers that wait are counted; the
counters are what was taken and not given back. A side that nobody holds is refused and changes no
counter. An acquire that cannot go on changes nothing but its announcement, and takes that back when
it is interrupted. Where every actor gives back only what it holds, readers are the read holds that
are outstanding, and a writer is inside exactly while one actor holds that side, and nobody else
holds any. -/
theorem counters_are_exact (runs : (start n).follow moves = some c)
    (among : ∀ m ∈ moves, m.actor < n) :
    (0 ≤ c.lock.readers ∧ (c.lock.writer = true → c.lock.readers = 0) ∧
      c.lock.waitingWriters = c.count Phase.awaitsWrite) ∧
    (∀ side, c.lock.holders side = (((start n).deeds moves).map (Deed.change side)).sum) ∧
    (∀ i side m fault, c.Returns i side m fault → c.lock.isHeld side = false →
      (notHeld side).kind = .runtimeError ∧ ∃ c', c.step m =
        some (c', some { actor := i, fault := some (notHeld side) }) ∧ c'.lock = c.lock) ∧
    (∀ i side aim m rest, i < n → c.Tests i side aim m rest → rest.isOpen side = false →
      ∃ c', c.step m = some (c', none) ∧ c'.phase i = .parked side aim false ∧
        c'.lock = rest.announce side) ∧
    (∀ i side aim woken, c.phase i = .parked side aim woken →
      ∃ c', c.step (.interrupt i) = some (c', some { actor := i, fault := some interrupted }) ∧
        c'.phase i = .idle ∧ c.lock = c'.lock.announce side) ∧
    (GivesOwn n moves →
      c.lock.readers = (holds n moves).countP (fun hold => hold.side = .read) ∧
      (c.lock.writer = true ↔ ∃ i, holds n moves = [⟨i, .write⟩]) ∧
      ∀ i, ⟨i, .write⟩ ∈ holds n moves → holds n moves = [⟨i, .write⟩]) := by
  have counted := counted_run runs among
  have inside {i : Nat} (busy : i < n) : i < c.phases.length := counted.length_eq.symm ▸ busy
  refine ⟨⟨counted.nonneg, counted.apart, counted.waiting⟩, holders_eq_sum runs, ?_, ?_, ?_, ?_⟩
  · intro i side m fault returns unheld
    refine ⟨by cases side <;> rfl, _, step_of_unheld returns unheld, lock_moved ..⟩
  · intro i side aim m rest there tests closed
    refine ⟨_, step_of_closed tests closed, ?_, lock_moved ..⟩
    rw [phase_moved (inside there), if_pos rfl]
  · intro i side aim woken parked
    refine ⟨_, step_interrupt parked, ?_, ?_⟩
    · rw [phase_moved (lt_length_of_busy (by simp [parked])), if_pos rfl]
    · rw [lock_moved, announce_withdraw]
  · intro gives
    have booked := booked_run runs among gives
    refine ⟨booked.holders_eq .read, ⟨booked.eq_singleton counted, ?_⟩, ?_⟩
    · rintro ⟨i, only⟩
      exact booked.writer_of_mem (only ▸ List.mem_singleton_self _)
    · intro i mem
      obtain ⟨j, only⟩ := booked.eq_singleton counted (booked.writer_of_mem mem)
      rw [only, List.mem_singleton] at mem
      rw [only, mem]

/-- A writer gives up behind two holds of one reader, and gets in once both are given back. -/
def persistent : List Move :=
  [.call 0 (.acquire .read .keep), .call 0 (.acquire .read .keep), .call 1 (.acquire .write .keep),
    .interrupt 1, .call 0 (.release .read), .call 0 (.release .read),
    .call 1 (.acquire .write .keep)]

theorem persistent_holds_alone : (∀ m ∈ persistent, m.actor < 2) ∧ GivesOwn 2 persistent ∧
    ∃ c, (start 2).follow persistent = some c ∧ c.lock.writer = true ∧ c.lock.readers = 0 ∧
      c.lock.waitingWriters = c.count Phase.awaitsWrite ∧ holds 2 persistent = [⟨1, .write⟩] := by
  have among : ∀ m ∈ persistent, m.actor < 2 := by decide
  have gives : GivesOwn 2 persistent := by
    intro k i side told
    have short : k < 7 := (List.getElem?_eq_some_iff.mp told).1
    interval_cases k <;> cases told <;> decide
  obtain ⟨c, runs, taken, mine⟩ : ∃ c, (start 2).follow persistent = some c ∧
      c.lock.writer = true ∧ ⟨1, .write⟩ ∈ holds 2 persistent := ⟨_, rfl, rfl, by decide⟩
  have ⟨⟨_, apart, waiting⟩, _, _, _, _, own⟩ := counters_are_exact runs among
  exact ⟨among, gives, c, runs, taken, apart taken, waiting, (own gives).2.2 1 mine⟩

end Crowd

end Checkup.Lock
