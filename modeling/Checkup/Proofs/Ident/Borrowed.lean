import Checkup.Ident

/-!
How far identifiers run ahead of the clock.

A full count borrows the next millisecond from a clock that is not there yet, and a clock that
catches up takes back what was borrowed. A borrowed millisecond costs 4096 identifiers, so what is
ahead of the latest time shown, counted in identifiers, is never more than have been made.

Main statements: `Ahead.step` (one call) and `borrowed_le` (any run of calls).
-/

namespace Checkup.Ident.Generator

def millisecond (clock : Int) : Int := clock.fdiv perMillisecond

def after (g : Generator) (clocks : List Int) : Generator := clocks.foldl step g

/-- The latest millisecond shown, and at least the one in which a generator begins. -/
def latest (clocks : List Int) : Int := (clocks.map millisecond).foldl max (-1)

/-- The state has got to the latest millisecond shown, and what it is ahead of that is paid for by
the identifiers made. -/
structure Ahead (shown : Int) (made : Nat) (g : Generator) : Prop where
  arrived : shown ≤ g.lastMs
  paid : 4096 * (g.lastMs - shown) + g.sequence ≤ made

variable {g : Generator} {shown : Int} {made : Nat}

/-- A call goes on within its millisecond, moves to the one shown, or borrows the next. -/
theorem step_cases (g : Generator) (clock : Int) :
    g.lastMs < millisecond clock ∧ g.step clock = ⟨millisecond clock, 0⟩ ∨
      millisecond clock ≤ g.lastMs ∧
        (g.step clock = ⟨g.lastMs, g.sequence + 1⟩ ∨
          maxSequence ≤ g.sequence ∧ g.step clock = ⟨g.lastMs + 1, 0⟩) := by
  unfold step millisecond
  simp only
  split
  · exact .inl ⟨‹_›, rfl⟩
  · refine .inr ⟨Int.not_lt.mp ‹_›, ?_⟩
    split
    · exact .inl rfl
    · exact .inr ⟨Nat.not_lt.mp ‹_›, rfl⟩

/-- Every call adds one identifier, and what a borrowed millisecond costs has been made before. -/
theorem Ahead.step (ahead : Ahead shown made g) (clock : Int) :
    Ahead (max shown (millisecond clock)) (made + 1) (g.step clock) := by
  obtain ⟨arrived, paid⟩ := ahead
  rcases step_cases g clock with ⟨later, moves⟩ | ⟨reached, counts | ⟨full, borrows⟩⟩
  · -- The clock is ahead of the state, hence of all that it has shown before.
    rw [moves]
    constructor <;> simp only <;> omega
  · rw [counts]
    constructor <;> simp only <;> omega
  · -- A full count has 4095 identifiers behind it, and this one makes the price complete.
    rw [borrows]
    unfold maxSequence at full
    constructor <;> simp only <;> omega

/-- So it is call by call, whatever the clock shows. -/
theorem Ahead.run (ahead : Ahead shown made g) (clocks : List Int) :
    Ahead ((clocks.map millisecond).foldl max shown) (made + clocks.length)
      (g.after clocks) := by
  induction clocks generalizing g shown made with
  | nil => exact ahead
  | cons clock rest ih =>
      have later := ih (ahead.step clock)
      rw [Nat.add_assoc, Nat.add_comm 1] at later
      exact later

/-- Whatever the clock shows call by call, identifiers never lag behind the latest millisecond that
it has shown, and they are ahead of it by no more than one for every 4096 calls. -/
theorem borrowed_le (clocks : List Int) :
    latest clocks ≤ (after {} clocks).lastMs ∧
      4096 * ((after {} clocks).lastMs - latest clocks) + (after {} clocks).sequence ≤
        clocks.length := by
  have fresh : Ahead (-1) 0 {} := ⟨Int.le_refl _, by decide⟩
  obtain ⟨arrived, paid⟩ := fresh.run clocks
  rw [Nat.zero_add] at paid
  exact ⟨arrived, paid⟩

/-- Before the first millisecond the count goes on from where a generator begins, and a clock that
goes back takes nothing back. -/
example : after {} [-5, -5, 2000000, 1000000] = ⟨2, 1⟩ ∧
    latest [-5, -5, 2000000, 1000000] = 2 := by decide

end Checkup.Ident.Generator
