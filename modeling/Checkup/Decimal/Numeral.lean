import Checkup.Decimal.Binary64

/-!
Decimal numerals read as the nearest floating point number.

A numeral is an optional sign, digits with at most one point among them and at least one digit, and
an optional exponent; or one of the words for infinity and for what is not a number.
-/

namespace Checkup.Decimal

def valueOf (ds : List Char) : Nat :=
  ds.foldl (fun n c => 10 * n + (c.toNat - '0'.toNat)) 0

/-- The number nearest to `± n · 10 ^ exponent`; beyond the largest number it is infinite. An
exponent past any digit's reach is answered without computing the power. -/
def scaled (negative : Bool) (n : Nat) (exponent : Int) : Float :=
  let infinite := assemble negative (2047 * pow2 52)
  if n = 0 then assemble negative 0
  else if 400 < exponent then infinite
  else if exponent < -400 - (n.log2 : Int) then assemble negative 0
  else match exponent with
    | .ofNat e => (nearest negative (n * pow10 e) 1).getD infinite
    | .negSucc e => (nearest negative n (pow10 (e + 1))).getD infinite

/-- A sign in front, if there is one. -/
def splitSign : List Char → Bool × List Char
  | '-' :: rest => (true, rest)
  | '+' :: rest => (false, rest)
  | rest => (false, rest)

/-- An exponent behind a numeral: nothing, or a mark, an optional sign and digits. -/
def exponent? : List Char → Option Int
  | [] => some 0
  | mark :: rest =>
    if mark = 'e' ∨ mark = 'E' then
      let (negative, ds) := splitSign rest
      if ds ≠ [] ∧ ds.all Char.isDigit then
        some (if negative then -(valueOf ds : Int) else valueOf ds)
      else none
    else none

/-- Reads an unsigned numeral. -/
def magnitude? (negative : Bool) (cs : List Char) : Option Float :=
  let whole := cs.takeWhile Char.isDigit
  let afterWhole := cs.dropWhile Char.isDigit
  let (fraction, rest) := match afterWhole with
    | '.' :: more => (more.takeWhile Char.isDigit, more.dropWhile Char.isDigit)
    | _ => ([], afterWhole)
  if whole = [] ∧ fraction = [] then none
  else (exponent? rest).map fun e =>
    scaled negative (valueOf (whole ++ fraction)) (e - fraction.length)

/-- Reads a numeral; the words `inf`, `infinity` and `nan` count as numerals, in any case. -/
def read? (s : String) : Option Float :=
  let (negative, cs) := splitSign s.toList
  let word := String.ofList (cs.map Char.toLower)
  if word = "inf" ∨ word = "infinity" then some (assemble negative (2047 * pow2 52))
  else if word = "nan" then some (Float.ofBits 0x7ff8000000000000)
  else magnitude? negative cs

end Checkup.Decimal
