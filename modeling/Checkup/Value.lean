import Checkup.Moment
import Checkup.Text.Points

/-!
Values as checks, settings and faults carry them: scalars, sequences and mappings of any depth.

Text is a string wherever it can be; text in which a surrogate stands alone is `ragged`. Mappings
keep their entries in order of insertion and never hold two equal keys;
`insertEntry` and `ofEntries` see to that. `sameKey` is the equality of keys: numbers are equal by
value whatever their kind, moments with offsets by the instant they name.
-/

namespace Checkup

/-- Text that no string holds, since a surrogate stands alone in it. -/
structure Ragged where
  points : Text.Points
  isRagged : List.any points Text.isSurrogate = true
  deriving DecidableEq, Repr

/-- A value of any depth. `view` is a mapping that cannot be changed through this handle, `foreign`
a value that is known only by the name of its type, and the two `within` values stand for a
collection that contains itself, at the place where it would begin again. -/
inductive Value where
  | none
  | bool (b : Bool)
  | int (n : Int)
  | float (x : Float)
  | str (s : String)
  | ragged (r : Ragged)
  | bytes (bs : List UInt8)
  | date (d : Date)
  | moment (m : Moment)
  | list (items : List Value)
  | tuple (items : List Value)
  | set (members : List Value)
  | mapping (entries : List (Value × Value))
  | view (entries : List (Value × Value))
  | foreign (typeName : String)
  | withinList
  | withinMapping
  deriving Repr, Inhabited

namespace Value

/-- Text as a value. -/
def ofPoints (text : Text.Points) : Value :=
  if h : List.any text Text.isSurrogate = true then .ragged ⟨text, h⟩ else .str text.lossy

/-- The name of a value's type. -/
def typeName : Value → String
  | .none => "NoneType"
  | .bool _ => "bool"
  | .int _ => "int"
  | .float _ => "float"
  | .str _ | .ragged _ => "str"
  | .bytes _ => "bytes"
  | .date _ => "date"
  | .moment _ => "datetime"
  | .list _ | .withinList => "list"
  | .tuple _ => "tuple"
  | .set _ => "set"
  | .mapping _ | .withinMapping => "dict"
  | .view _ => "mappingproxy"
  | .foreign name => name

/-- Whether a value counts as true in a condition: zero and everything empty do not. -/
def isTruthy : Value → Bool
  | .none => false
  | .bool b => b
  | .int n => n != 0
  | .float x => !(x == 0.0)
  | .str s => !s.isEmpty
  | .bytes bs => !bs.isEmpty
  | .list items | .tuple items | .set items => !items.isEmpty
  | .mapping entries | .view entries => !entries.isEmpty
  | _ => true

/-! ### Numbers -/

/-- A number as it takes part in arithmetic. -/
inductive Number where
  | whole (n : Int)
  | real (x : Float)
  deriving DecidableEq, Repr

/-- The number a value counts as; a truth value counts as 0 or 1. -/
def number? : Value → Option Number
  | .bool b => some (.whole (if b then 1 else 0))
  | .int n => some (.whole n)
  | .float x => some (.real x)
  | _ => Option.none

namespace Number

/-- Equality of the exact values. -/
def same : Number → Number → Bool
  | .whole a, .whole b => a == b
  | .whole a, .real b => Decimal.eqInt b a
  | .real a, .whole b => Decimal.eqInt a b
  | .real a, .real b => a == b

/-- Order of the exact values. What is not a number is neither below nor above anything. -/
def lt : Number → Number → Bool
  | .whole a, .whole b => decide (a < b)
  | .whole a, .real b => Decimal.intLt a b
  | .real a, .whole b => Decimal.ltInt a b
  | .real a, .real b => decide (a < b)

/-- `a` is at most `b`, for the exact values. -/
def le (a b : Number) : Bool := lt a b || same a b

end Number

/-! ### Keys -/

/-- Moments are equal when they name the same instant; one with an offset never equals one
without. -/
def sameMoment (a b : Moment) : Bool :=
  match a.offset, b.offset with
  | some x, some y =>
    (a.ticks : Int) - x * Moment.perSecond == (b.ticks : Int) - y * Moment.perSecond
  | Option.none, Option.none => a.ticks == b.ticks
  | _, _ => false

mutual

/-- Equality of keys. -/
def sameKey : Value → Value → Bool
  | .none, .none => true
  | .str a, .str b => a == b
  | .ragged a, .ragged b => a == b
  | .bytes a, .bytes b => a == b
  | .date a, .date b => a == b
  | .moment a, .moment b => sameMoment a b
  | .tuple a, .tuple b => sameKeys a b
  | a, b =>
    match a.number?, b.number? with
    | some x, some y => x.same y
    | _, _ => false

/-- Equality of sequences of keys. -/
def sameKeys : List Value → List Value → Bool
  | [], [] => true
  | a :: as, b :: bs => sameKey a b && sameKeys as bs
  | _, _ => false

end

/-! ### Entries -/

/-- Puts an entry: an equal key keeps its place and its spelling and gets the new value, any other
goes last. -/
def insertEntry (key value : Value) : List (Value × Value) → List (Value × Value)
  | [] => [(key, value)]
  | (k, v) :: rest =>
    if sameKey k key then (k, value) :: rest else (k, v) :: insertEntry key value rest

def ofEntries (entries : List (Value × Value)) : List (Value × Value) :=
  entries.foldl (fun built entry => insertEntry entry.1 entry.2 built) []

def lookup? (key : String) (entries : List (Value × Value)) : Option Value :=
  (entries.find? fun entry => sameKey entry.1 (.str key)).map (·.2)

/-- The entries of a mapping of either kind. -/
def entries? : Value → Option (List (Value × Value))
  | .mapping entries | .view entries => some entries
  | _ => Option.none

end Value

end Checkup
