import Checkup.Decimal.Binary64

/-!
The shortest decimal text of a floating point number: the fewest digits that read back as the same
number, and of those the digits nearest to it.

`digits?` looks at the decimal grids of one to seventeen digits in turn. On each grid only the two
points beside the number can be nearest, so it tests these two for lying in the interval of reals
that round to the number. `Layout` holds the decisions of the written form.
-/

namespace Checkup.Decimal

/-- Digits `d₁ d₂ …` standing for `0.d₁d₂… · 10 ^ point`. -/
structure Digits where
  digits : List Nat
  point : Int
  deriving DecidableEq, Repr

/-- The decimal digits of a whole number, most significant first. -/
def digitsOf (n : Nat) : List Nat :=
  (Nat.toDigits 10 n).map fun c => c.toNat - '0'.toNat

def digitText (ds : List Nat) : String :=
  String.ofList (ds.map fun d => Char.ofNat ('0'.toNat + d))

/-- The position of the decimal point of `num / den`: the `p` with
`10 ^ (p - 1) ≤ num / den < 10 ^ p`. -/
def pointOf (num den : Nat) : Int :=
  if den ≤ num then ((digitsOf (num / den)).length : Int)
  else 1 - ((digitsOf ((den + num - 1) / num - 1)).length : Int)

/-- Digits without the zeros at their end, `n · 10 ^ unit` being the value. -/
def Digits.ofScaled (n : Nat) (unit : Int) : Digits :=
  let ds := digitsOf n
  let kept := (ds.reverse.dropWhile (· == 0)).reverse
  { digits := kept, point := unit + ds.length }

/-- The reals that round to `significand · 2 ^ exponent`, in units of a quarter of
`2 ^ exponent`: the lower end, the number, the upper end. The gap below a power of two is half as
wide as the gap above, except at the bottom of the range. -/
def interval (significand : Nat) (exponent : Int) : Nat × Nat × Nat :=
  let below := if significand = pow2 52 ∧ leastExponent < exponent then 1 else 2
  (4 * significand - below, 4 * significand, 4 * significand + 2)

/-- The grid point with `count` digits that is nearest to the number among those that read back
as it; of two equally near ones the even one. -/
def onGrid? (significand : Nat) (exponent : Int) (count : Nat) : Option Digits :=
  let (low, mid, high) := interval significand exponent
  let (scale, den) := ratio 1 (exponent - 2)
  let unit := pointOf (mid * scale) den - count
  -- everything times `up / down`, the reciprocal of the unit of the grid
  let (up, down) := match unit with
    | .ofNat u => (1, pow10 u)
    | .negSucc u => (pow10 (u + 1), 1)
  let per := den * down
  let at_ (k : Nat) : Nat := k * scale * up
  let floor := at_ mid / per
  let inside (n : Nat) : Bool :=
    if significand % 2 = 0 then decide (at_ low ≤ n * per) && decide (n * per ≤ at_ high)
    else decide (at_ low < n * per) && decide (n * per < at_ high)
  let best := roundHalfEven (at_ mid) per
  let other := if best = floor then floor + 1 else floor
  if inside best then some (.ofScaled best unit)
  else if inside other then some (.ofScaled other unit)
  else none

/-- The shortest digits of a number above zero. Seventeen digits always suffice, so the last
resort is never reached. -/
def shortest (significand : Nat) (exponent : Int) : Digits :=
  ((List.range 17).findSome? fun k => onGrid? significand exponent (k + 1)).getD
    (.ofScaled significand 0)

/-! ### The written form -/

/-- How a number is written: where positional notation is used, how an exponent looks, and the
words for what is not finite. -/
structure Layout where
  /-- The least decimal exponent that is written positionally. -/
  leastPositional : Int
  /-- The first decimal exponent that is no longer written positionally. -/
  firstScientific : Int
  /-- Written behind a whole number in positional notation. -/
  wholeEnd : String
  exponentMark : String
  exponentWidth : Nat
  infinity : String
  notANumber : String

/-- Numbers from `0.0001` up to below `10 ^ 16` are positional and always show a point; the
others have a signed exponent of at least two digits. -/
def Layout.plain : Layout :=
  { leastPositional := -4, firstScientific := 16, wholeEnd := ".0", exponentMark := "e"
    exponentWidth := 2, infinity := "inf", notANumber := "nan" }

def padLeft (width : Nat) (s : String) : String :=
  String.ofList (List.replicate (width - s.length) '0') ++ s

/-- Digits in positional notation. -/
def positional (l : Layout) (d : Digits) : String :=
  let count := d.digits.length
  if d.point ≤ 0 then
    "0." ++ digitText (List.replicate d.point.natAbs 0 ++ d.digits)
  else if count ≤ d.point.toNat then
    digitText (d.digits ++ List.replicate (d.point.toNat - count) 0) ++ l.wholeEnd
  else
    digitText (d.digits.take d.point.toNat) ++ "." ++ digitText (d.digits.drop d.point.toNat)

/-- Digits with an exponent. -/
def scientific (l : Layout) (d : Digits) : String :=
  let exponent := d.point - 1
  let lead := digitText (d.digits.take 1)
  let rest := d.digits.drop 1
  lead ++ (if rest.isEmpty then "" else "." ++ digitText rest) ++ l.exponentMark ++
    (if exponent < 0 then "-" else "+") ++ padLeft l.exponentWidth (toString exponent.natAbs)

/-- The text of a number's magnitude. -/
def magnitudeText (l : Layout) : Magnitude → String
  | .notANumber => l.notANumber
  | .infinite => l.infinity
  | .finite significand exponent =>
    let d := if significand = 0 then ⟨[0], 1⟩ else shortest significand exponent
    if l.leastPositional ≤ d.point - 1 ∧ d.point - 1 < l.firstScientific then positional l d
    else scientific l d

/-- The text of a number; what is not a number has no sign. -/
def text (x : Float) (l : Layout := .plain) : String :=
  let p := parts x
  (if p.negative ∧ p.magnitude ≠ .notANumber then "-" else "") ++ magnitudeText l p.magnitude

end Checkup.Decimal
