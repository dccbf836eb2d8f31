import Checkup.Power
import Checkup.Text.Quoted

/-!
Identifiers that sort by the time they were made (UUID version 7).

An identifier holds 48 bits of milliseconds, a count of the identifiers of that millisecond and 62
random bits. `Generator.step` keeps the pair of milliseconds and count growing whatever the clock
does: a clock that stands still or goes back leaves the milliseconds as they are and only the count
goes on, and a full count borrows the next millisecond.

Main statements: `sequence_step_le` (the count stays within its twelve bits) and `lt_step` (the
pair grows with every step).
-/

namespace Checkup.Ident

/-- The largest count within one millisecond. -/
def maxSequence : Nat := 0xfff

def perMillisecond : Int := 1000000

/-- The state between identifiers: the millisecond last used and the count within it. -/
structure Generator where
  lastMs : Int := -1
  sequence : Nat := 0
  deriving DecidableEq, Repr

namespace Generator

/-- The state of the next identifier, the clock showing `clock` nanoseconds. -/
def step (g : Generator) (clock : Int) : Generator :=
  let now := clock.fdiv perMillisecond
  if g.lastMs < now then ⟨now, 0⟩
  else if g.sequence < maxSequence then ⟨g.lastMs, g.sequence + 1⟩
  else ⟨g.lastMs + 1, 0⟩

theorem sequence_step_le (g : Generator) (clock : Int) :
    (g.step clock).sequence ≤ maxSequence := by
  unfold step
  simp only
  split
  · simp
  · split
    · assumption
    · simp

theorem lt_step (g : Generator) (clock : Int) :
    g.lastMs < (g.step clock).lastMs ∨
      g.lastMs = (g.step clock).lastMs ∧ g.sequence < (g.step clock).sequence := by
  unfold step
  simp only
  split
  · exact .inl ‹_›
  · split
    · exact .inr ⟨rfl, by simp⟩
    · exact .inl (Int.lt_add_one_of_le (Int.le_refl _))

end Generator

/-- The 128 bits of an identifier: the milliseconds modulo `2 ^ 48`, version 7, the count, the
variant and the random tail. -/
def bits (g : Generator) (tail : Nat) : Nat :=
  (g.lastMs % pow2 48).toNat * pow2 80 + 7 * pow2 76 + g.sequence * pow2 64 + 2 * pow2 62 + tail

/-- Thirty-two hexadecimal digits in groups of 8, 4, 4, 4 and 12. -/
def grouped (ds : List Char) : List Char :=
  ds.take 8 ++ '-' :: (ds.drop 8).take 4 ++ '-' :: (ds.drop 12).take 4 ++
    '-' :: (ds.drop 16).take 4 ++ '-' :: ds.drop 20

def text (g : Generator) (tail : Nat) : String :=
  String.ofList (grouped (Text.hex 32 (bits g tail)))

def next (g : Generator) (clock : Int) (tail : Nat) : String × Generator :=
  let g := g.step clock
  (text g tail, g)

/-! ### Runs -/

/-- A run of identifiers made while the clock shows one time: how many, and the time. -/
structure Burst where
  clock : Int
  count : Nat := 1
  deriving DecidableEq, Repr

/-- What is seen of a burst: its identifiers, the state after it, and whether every identifier so
far was greater than the one before. -/
structure Seen where
  ids : List String
  after : Generator
  increasing : Bool
  deriving Repr

/-- The state of a run: the generator, the tails still to be used before they start over, the
identifier made last, and whether all grew. -/
structure Run where
  generator : Generator := {}
  ahead : List Nat := []
  last : Option String := none
  increasing : Bool := true

/-- The next tail; a list of tails is used over and over. -/
def Run.nextTail (tails : List Nat) (r : Run) : Nat × List Nat :=
  match r.ahead with
  | tail :: rest => (tail, rest)
  | [] => match tails with
    | tail :: rest => (tail, rest)
    | [] => (0, [])

/-- Makes one identifier. -/
def Run.one (tails : List Nat) (clock : Int) (r : Run) : String × Run :=
  let (tail, ahead) := r.nextTail tails
  let (id, generator) := next r.generator clock tail
  let grows := r.last.elim true fun before => decide (before < id)
  (id, { generator, ahead, last := some id, increasing := r.increasing && grows })

/-- Makes the identifiers of a burst, the last one first. -/
def Run.many (tails : List Nat) (clock : Int) : Nat → List String → Run → List String × Run
  | 0, made, r => (made, r)
  | count + 1, made, r =>
    let (id, r) := r.one tails clock
    many tails clock count (id :: made) r

/-- The last 62 bits of a whole number, as a tail. -/
def tailOf (n : Int) : Nat := (n % pow2 62).toNat

/-- Makes the identifiers of one burst after the other. -/
def observe (tails : List Nat) (bursts : List Burst) (r : Run := {}) : List Seen :=
  match bursts with
  | [] => []
  | burst :: rest =>
    let (made, r) := r.many tails burst.clock burst.count []
    { ids := made.reverse, after := r.generator, increasing := r.increasing } ::
      observe tails rest r

end Checkup.Ident
