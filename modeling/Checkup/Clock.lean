import Checkup.Fault

/-!
Clock times and spans of time.

Everything that waits or expires is written over a `Clock`: a type of times that can be added,
subtracted and compared. Floating point serves a running service; exact rational time serves where
durations are reasoned about. A `Span` is a length of time as it was asked for, before it is known
to fit the clock.
-/

namespace Checkup

/-- Times that can be added, subtracted and compared. `ofInt?` is a whole number of seconds if it
fits, and `intLt` compares with one exactly. -/
class Clock (τ : Type) where
  zero : τ
  add : τ → τ → τ
  sub : τ → τ → τ
  lt : τ → τ → Bool
  le : τ → τ → Bool
  ofInt? : Int → Option τ
  intLt : Int → τ → Bool

instance : Clock Float where
  zero := 0.0
  add := (· + ·)
  sub := (· - ·)
  lt a b := decide (a < b)
  le a b := decide (a ≤ b)
  ofInt? := Decimal.ofInt?
  intLt := Decimal.intLt

instance : Clock Rat where
  zero := 0
  add := (· + ·)
  sub := (· - ·)
  lt a b := decide (a < b)
  le a b := decide (a ≤ b)
  ofInt? n := some n
  intLt n t := decide ((n : Rat) < t)

namespace Clock

variable {τ : Type} [Clock τ]

/-- The earlier of two times; of two that do not differ the first. -/
def earlier (a b : τ) : τ := if lt b a then b else a

/-- The later of two times; of two that do not differ the first. -/
def later (a b : τ) : τ := if lt a b then b else a

/-- The earlier of two times either of which may be missing. -/
def earliest? : Option τ → Option τ → Option τ
  | some a, some b => some (earlier a b)
  | some a, none => some a
  | none, b => b

end Clock

/-! ### Spans -/

/-- A length of time as it was asked for: a whole number of seconds of any size, a truth value
counting as 0 or 1, a time of the clock, or something that is no number at all. -/
inductive Span (τ : Type) where
  | whole (n : Int)
  | truth (b : Bool)
  | exact (t : τ)
  | unsuited (typeName : String)
  deriving DecidableEq, Repr

namespace Span

variable {τ : Type} [Clock τ]

/-- The whole number of seconds or the time that a span is, as a time. -/
def seconds? : Span τ → Except Fault τ
  | .whole n => ofWhole n
  | .truth b => ofWhole (if b then 1 else 0)
  | .exact t => .ok t
  | .unsuited name =>
    .error (.because .typeError s!"unsupported operand type(s) for +: 'float' and '{name}'")
where
  ofWhole (n : Int) : Except Fault τ :=
    match Clock.ofInt? n with
    | some t => .ok t
    | none => .error (.because .overflowError "int too large to convert to float")

/-- Whether a time is longer than a span. -/
def exceededBy (s : Span τ) (t : τ) : Bool :=
  match s with
  | .whole n => Clock.intLt n t
  | .truth b => Clock.intLt (if b then 1 else 0) t
  | .exact limit => Clock.lt limit t
  | .unsuited _ => false

/-- A value as a span of seconds. -/
def ofValue : Value → Span Float
  | .int n => .whole n
  | .bool b => .truth b
  | .float x => .exact x
  | other => .unsuited other.typeName

/-- A span as a value. -/
def toValue : Span Float → Value
  | .whole n => .int n
  | .truth b => .bool b
  | .exact x => .float x
  | .unsuited name => .foreign name

end Span

/-! ### Ends of a computation -/

/-- How a computation ends: it returns, it raises a fault, or it blocks and never comes back. -/
inductive Outcome (α : Type) where
  | returned (value : α)
  | raised (fault : Fault)
  | stalled
  deriving Repr

namespace Outcome

variable {α β : Type}

def map (f : α → β) : Outcome α → Outcome β
  | .returned a => .returned (f a)
  | .raised e => .raised e
  | .stalled => .stalled

def ofExcept : Except Fault α → Outcome α
  | .ok a => .returned a
  | .error e => .raised e

end Outcome

end Checkup
