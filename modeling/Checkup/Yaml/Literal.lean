import Checkup.Decimal.Numeral
import Checkup.Moment.Given
import Checkup.Text.Base64
import Checkup.Text.Digits
import Checkup.Text.LowerCase
import Checkup.Yaml.Node

/-!
The values of scalars.

A scalar's tag says which kind of value its text stands for. Underscores in numbers do not count;
a number with colons is written to the base 60. Where a tag was given and the text does not fit it,
the fault of the failed reading is the answer.
-/

namespace Checkup.Yaml

/-! ### Tags of the common schema -/

inductive Schema where
  | null
  | bool
  | int
  | float
  | binary
  | timestamp
  | orderedMap
  | pairs
  | set
  | str
  | seq
  | map
  deriving DecidableEq, Repr

namespace Schema

/-- The name of a kind in its tag. -/
def name : Schema → String
  | null => "null"
  | bool => "bool"
  | int => "int"
  | float => "float"
  | binary => "binary"
  | timestamp => "timestamp"
  | orderedMap => "omap"
  | pairs => "pairs"
  | set => "set"
  | str => "str"
  | seq => "seq"
  | map => "map"

def all : List Schema :=
  [null, bool, int, float, binary, timestamp, orderedMap, pairs, set, str, seq, map]

/-- The kind that a tag asks for; no value can be made for other tags. -/
def ofTag? (tag : String) : Option Schema := all.find? fun s => commonTag s.name == tag

end Schema

namespace Literal

/-! ### Whole numbers -/

/-- The value of a digit to any base up to 36, in either case. -/
def digitValue (c : Char) : Nat :=
  if c.isDigit then c.toNat - '0'.toNat
  else if 'a' ≤ c ∧ c ≤ 'z' then c.toNat - 'a'.toNat + 10
  else if 'A' ≤ c ∧ c ≤ 'Z' then c.toNat - 'A'.toNat + 10
  else 36

/-- The letter that may mark the base behind a leading zero. -/
def baseMark? : Nat → Option Char
  | 2 => some 'b'
  | 8 => some 'o'
  | 16 => some 'x'
  | _ => none

/-- Digits without the mark of their base. -/
def withoutMark (base : Nat) : List Char → List Char
  | '0' :: mark :: rest => if baseMark? base == some mark.toLower then rest else '0' :: mark :: rest
  | cs => cs

/-- The text that a message quotes, cut off where it is long. -/
def excerpt (text : Text.Points) : String :=
  String.ofList ((Text.quotedPoints text).toList.take 200)

/-- Reads a whole number with an optional sign. -/
def whole (base : Nat) (text : Text.Points) : Except Fault Int :=
  let (negative, cs) := Decimal.splitSign (Text.numeral text.chars)
  let ds := withoutMark base cs
  let run := ds.takeWhile fun c => digitValue c < base
  if base = 10 ∧ Value.maxDigits < run.length then .error (.tooLongToRead run.length)
  else if ds.isEmpty || run.length != ds.length then
    .error (.because .valueError
      s!"invalid literal for int() with base {base}: {excerpt text}")
  else
    let size := ds.foldl (fun n c => base * n + digitValue c) 0
    .ok (if negative then -size else size)

/-- The fault of looking for a sign in an empty text. -/
def emptyNumeral : Fault := .because .indexError "string index out of range"

def withoutUnderscores (text : Text.Points) : Text.Points := text.filter (· != '_'.toNat)

/-- A sign and what follows it; the text must not be empty. -/
def signed : Text.Points → Except Fault (Bool × Text.Points)
  | [] => .error emptyNumeral
  | first :: rest =>
    if first = '-'.toNat then .ok (true, rest)
    else if first = '+'.toNat then .ok (false, rest)
    else .ok (false, first :: rest)

def places (text : Text.Points) : List Text.Points := text.splitOn ':'.toNat

/-- Reads a whole number by its form. -/
def int (text : Text.Points) : Except Fault Int := do
  let (negative, ps) ← signed (withoutUnderscores text)
  let size ← match ps.chars with
    | ['0'] => pure 0
    | '0' :: 'b' :: _ => whole 2 (ps.drop 2)
    | '0' :: 'x' :: _ => whole 16 (ps.drop 2)
    | '0' :: _ => whole 8 ps
    | [] => throw emptyNumeral
    | cs =>
      if cs.contains ':' then
        let parts ← (places ps).mapM (whole 10)
        pure (parts.foldl (fun n part => 60 * n + part) 0)
      else whole 10 ps
  return if negative then -size else size

/-! ### Numbers with a point -/

/-- Reads a number with a point. -/
def real (text : Text.Points) : Except Fault Float :=
  match Decimal.read? (String.ofList (Text.numeral text.chars)) with
  | some x => .ok x
  | none =>
    .error (.because .valueError
      s!"could not convert string to float: {Text.quotedPoints text}")

/-- The sum of places to the base 60, the least significant first and `base` being its weight. -/
def sixtiethsFrom (sum : Float) (base : Nat) : List Float → Except Fault Float
  | [] => .ok sum
  | place :: rest =>
    match Decimal.ofInt? base with
    | none => .error (.because .overflowError "int too large to convert to float")
    | some weight => sixtiethsFrom (sum + place * weight) (base * 60) rest

/-- A number with a point as it is read: without underscores, in lower case, and its sign apart. -/
def signedReal (text : Text.Points) : Except Fault (Bool × Text.Points) :=
  signed (Text.lower (withoutUnderscores text))

/-- The usual spelling of what is not a number, behind its sign. -/
def isUsualNaN (size : Text.Points) : Bool := size == Text.Points.ofString ".nan"

/-- Reads a number with a point by its form. -/
def float (text : Text.Points) : Except Fault Float := do
  let (negative, ps) ← signedReal text
  if isUsualNaN ps then return Float.ofBits 0x7ff8000000000000
  else
    let size ←
      if ps == Text.Points.ofString ".inf" then pure (Decimal.assemble false (2047 * pow2 52))
      else if ps.contains ':'.toNat then
        let parts ← (places ps).mapM real
        sixtiethsFrom 0.0 1 parts.reverse
      else real ps
    return if negative then -size else size

/-! ### Truth values -/

def trueWords : List String := ["yes", "true", "on"]

def falseWords : List String := ["no", "false", "off"]

/-- Reads a truth value. -/
def truth (text : Text.Points) : Except Fault Bool :=
  let word := Text.lower text
  if trueWords.any fun known => Text.Points.ofString known == word then .ok true
  else if falseWords.any fun known => Text.Points.ofString known == word then .ok false
  else .error { kind := .keyError, args := [.ofPoints word] }

/-! ### Dates -/

/-- The microseconds that the digits behind a decimal point stand for. -/
def microseconds (fraction : List Char) : Nat :=
  Decimal.valueOf ((fraction ++ List.replicate 6 '0').take 6)

/-- The offset of a zone in seconds. -/
def offset : Option (Bool × List Char × List Char) → Int
  | none => 0
  | some (west, hours, minutes) =>
    let size : Int := Decimal.valueOf hours * 3600 + Decimal.valueOf minutes * 60
    if west then -size else size

/-- Reads a date or a moment; a line break behind it does not count. -/
def stamp (text : Text.Points) : Except Fault Value := do
  match stampParts (withoutLastBreak text.chars) with
  | none =>
    throw (.because .attributeError "'NoneType' object has no attribute 'groupdict'")
  | some parts =>
    let year := Decimal.valueOf parts.year
    let month := Decimal.valueOf parts.month
    let day := Decimal.valueOf parts.day
    match parts.time with
    | none =>
      match Moment.dateIssue? year month day with
      | some issue => throw (.because .valueError issue)
      | none => return .date ⟨year, month, day⟩
    | some (hour, minute, second, fraction) =>
      .moment <$> Moment.ofParts year month day (Decimal.valueOf hour) (Decimal.valueOf minute)
        (Decimal.valueOf second) (microseconds fraction) (parts.zone.map offset)

/-! ### Bytes -/

/-- Reads bytes in base 64. -/
def bytes (text : Text.Points) : Except Problem Value :=
  if text.all (· < 0x80) then
    match Text.fromBase64? text.chars with
    | some bs => .ok (.bytes bs)
    | none => .error .malformed
  else .error .malformed

end Literal

end Checkup.Yaml
