import Checkup.Power

/-!
Binary floating point taken apart and put together exactly.

A finite number is `± significand · 2 ^ exponent` with whole `significand` and `exponent`;
`parts` reads that off the bit pattern and `nearest` goes back from a ratio of whole numbers,
rounding to the nearest number and, half way between two, to the one with the even significand.
Comparing with a whole number is exact at any size, so nothing here depends on a rounded
conversion.

Main definitions: `parts` and `nearest`.
-/

namespace Checkup.Decimal

/-! ### Rounding a quotient -/

/-- The whole number nearest to `num / den`; of two equally near ones the even one. -/
def roundHalfEven (num den : Nat) : Nat :=
  let floor := num / den
  let rest := 2 * (num % den)
  if rest < den then floor
  else if den < rest then floor + 1
  else if floor % 2 = 0 then floor else floor + 1

/-! ### Reading the bits -/

inductive Magnitude where
  | finite (significand : Nat) (exponent : Int)
  | infinite
  | notANumber
  deriving DecidableEq, Repr

structure Parts where
  negative : Bool
  magnitude : Magnitude
  deriving DecidableEq, Repr

def leastExponent : Int := -1074

/-- One sign bit, eleven exponent bits, fifty-two fraction bits. -/
def parts (x : Float) : Parts :=
  let bits := x.toBits.toNat
  let scale := bits / pow2 52 % 2048
  let fraction := bits % pow2 52
  { negative := bits / pow2 63 == 1
    magnitude :=
      if scale = 2047 then (if fraction = 0 then .infinite else .notANumber)
      else if scale = 0 then .finite fraction leastExponent
      else .finite (pow2 52 + fraction) (leastExponent + (scale - 1 : Nat)) }

/-- `significand · 2 ^ exponent` as a numerator and a positive denominator. -/
def ratio (significand : Nat) (exponent : Int) : Nat × Nat :=
  match exponent with
  | .ofNat e => (significand * pow2 e, 1)
  | .negSucc e => (significand, pow2 (e + 1))

/-! ### Back to the nearest number -/

/-- The number with the given sign bit and remaining bits. -/
def assemble (negative : Bool) (bits : Nat) : Float :=
  Float.ofBits (UInt64.ofNat (bits + if negative then pow2 63 else 0))

/-- The exponent at which `num / den` has a significand of fifty-three bits, or the least one. -/
def scaleOf (num den : Nat) : Int :=
  let guess : Int := (num.log2 : Int) - den.log2
  let reached := match guess with
    | .ofNat e => decide (den * pow2 e ≤ num)
    | .negSucc e => decide (den ≤ num * pow2 (e + 1))
  max leastExponent ((if reached then guess else guess - 1) - 52)

/-- The number nearest to `± num / den`, ties to the even significand; `none` if that lies beyond
the largest finite number. The significand's leading bit carries into the exponent field by
itself, which is why the two are added. -/
def nearest (negative : Bool) (num den : Nat) : Option Float :=
  if num = 0 then some (assemble negative 0)
  else
    let exponent := scaleOf num den
    let significand := match exponent with
      | .ofNat e => roundHalfEven num (den * pow2 e)
      | .negSucc e => roundHalfEven (num * pow2 (e + 1)) den
    let bits := (exponent - leastExponent).toNat * pow2 52 + significand
    if bits < 2047 * pow2 52 then some (assemble negative bits) else none

/-- The number nearest to a whole number; `none` if it is too large. -/
def ofInt? (n : Int) : Option Float :=
  nearest (n < 0) n.natAbs 1

/-- The number nearest to a quotient of whole numbers, `den` not zero; `none` if too large. -/
def ofRatio? (num den : Int) : Option Float :=
  nearest (decide (num < 0) != decide (den < 0)) num.natAbs den.natAbs

/-! ### Exact comparison with whole numbers -/

/-- Whether `n < x`, for the exact values. -/
def intLt (n : Int) (x : Float) : Bool :=
  match parts x with
  | ⟨_, .notANumber⟩ => false
  | ⟨negative, .infinite⟩ => !negative
  | ⟨negative, .finite significand exponent⟩ =>
    let (num, den) := ratio significand exponent
    decide (n * den < if negative then -(num : Int) else num)

/-- Whether `x < n`, for the exact values. -/
def ltInt (x : Float) (n : Int) : Bool :=
  match parts x with
  | ⟨_, .notANumber⟩ => false
  | ⟨negative, .infinite⟩ => negative
  | ⟨negative, .finite significand exponent⟩ =>
    let (num, den) := ratio significand exponent
    decide ((if negative then -(num : Int) else num) < n * den)

/-- Whether `x` is exactly `n`. -/
def eqInt (x : Float) (n : Int) : Bool :=
  match parts x with
  | ⟨negative, .finite significand exponent⟩ =>
    let (num, den) := ratio significand exponent
    decide ((if negative then -(num : Int) else num) = n * den)
  | _ => false

/-- The whole part of a finite number, its fraction dropped; `none` for the others. -/
def truncate? (x : Float) : Option Int :=
  match parts x with
  | ⟨negative, .finite significand exponent⟩ =>
    let (num, den) := ratio significand exponent
    some (if negative then -((num / den : Nat) : Int) else (num / den : Nat))
  | _ => none

end Checkup.Decimal
