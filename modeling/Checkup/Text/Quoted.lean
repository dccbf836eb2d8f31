import Checkup.Text.Printable

/-!
Quoted text: a string or a run of bytes between quotes, with everything that does not print as
itself escaped.

Single quotes are used unless the text holds a single quote and no double quote. The quote in use
and the backslash are escaped, so are tab, line feed and carriage return by letter, and every other
unprintable character by the hexadecimal digits of its code point, as few of 2, 4 and 8 as hold it.
-/

namespace Checkup.Text

def hexDigit (d : Nat) : Char :=
  if d < 10 then Char.ofNat ('0'.toNat + d) else Char.ofNat ('a'.toNat + (d - 10))

/-- The last `width` hexadecimal digits of a number, most significant first. -/
def hex : (width n : Nat) → List Char
  | 0, _ => []
  | width + 1, n => hex width (n / 16) ++ [hexDigit (n % 16)]

theorem length_hex (width n : Nat) : (hex width n).length = width := by
  induction width generalizing n with
  | zero => rfl
  | succ width ih => simp [hex, ih]

/-- The quote for a text: double only where it saves an escape. -/
def quoteFor (hasSingle hasDouble : Bool) : Char :=
  if hasSingle && !hasDouble then '"' else '\''

/-- The escape by letter that a quoted text uses for a character, if there is one. -/
def letterEscape? (quote c : Char) : Option (List Char) :=
  if c = quote ∨ c = '\\' then some ['\\', c]
  else if c = '\t' then some ['\\', 't']
  else if c = '\n' then some ['\\', 'n']
  else if c = '\r' then some ['\\', 'r']
  else none

/-- One character of a quoted string. -/
def quotedChar (quote c : Char) : List Char :=
  match letterEscape? quote c with
  | some escape => escape
  | none =>
    if isPrintable c then [c]
    else if c.toNat < 0x100 then '\\' :: 'x' :: hex 2 c.toNat
    else if c.toNat < 0x10000 then '\\' :: 'u' :: hex 4 c.toNat
    else '\\' :: 'U' :: hex 8 c.toNat

/-- A string between quotes. -/
def quoted (s : String) : String :=
  let cs := s.toList
  let quote := quoteFor (cs.contains '\'') (cs.contains '"')
  String.ofList (quote :: cs.flatMap (quotedChar quote) ++ [quote])

/-- One byte of a quoted run of bytes. -/
def quotedByte (quote : Char) (b : UInt8) : List Char :=
  let c := Char.ofNat b.toNat
  match letterEscape? quote c with
  | some escape => escape
  | none =>
    if 0x20 ≤ b.toNat ∧ b.toNat < 0x7f then [c] else '\\' :: 'x' :: hex 2 b.toNat

def quotedBytes (bs : List UInt8) : String :=
  let quote := quoteFor (bs.contains 39) (bs.contains 34)
  String.ofList ('b' :: quote :: bs.flatMap (quotedByte quote) ++ [quote])

/-! ### Order -/

def ascending (a b : String) : Bool := !decide (b < a)

def sorted (xs : List String) : List String := xs.mergeSort ascending

end Checkup.Text
