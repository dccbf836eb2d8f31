import Checkup.Decimal.Shortest

/-!
Numbers with a fixed count of decimal places: as text, and rounded to the nearest number.

Both round the exact binary value, and a value half way between two decimals goes to the even one.
-/

namespace Checkup.Decimal

/-- `significand · 2 ^ exponent` in units of `10 ^ -places`, rounded. -/
def inPlaces (places significand : Nat) (exponent : Int) : Nat :=
  let (num, den) := ratio significand exponent
  roundHalfEven (num * pow10 places) den

/-- A count of units of `10 ^ -places` in positional notation. -/
def placesText (places units : Nat) : String :=
  let whole := toString (units / pow10 places)
  if places = 0 then whole
  else whole ++ "." ++ padLeft places (toString (units % pow10 places))

/-- The text of a number with a fixed count of places. A negative number keeps its sign when it
rounds to zero. -/
def fixed (places : Nat) (x : Float) : String :=
  match parts x with
  | ⟨_, .notANumber⟩ => Layout.plain.notANumber
  | ⟨negative, .infinite⟩ => (if negative then "-" else "") ++ Layout.plain.infinity
  | ⟨negative, .finite significand exponent⟩ =>
    (if negative then "-" else "") ++ placesText places (inPlaces places significand exponent)

/-- The number nearest to `x` rounded to a count of places. What is not finite stays. -/
def roundTo (places : Nat) (x : Float) : Float :=
  match parts x with
  | ⟨negative, .finite significand exponent⟩ =>
    (nearest negative (inPlaces places significand exponent) (pow10 places)).getD x
  | _ => x

end Checkup.Decimal
