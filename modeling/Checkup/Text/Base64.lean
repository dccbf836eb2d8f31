/-!
Bytes written in base 64.

Characters outside the alphabet are passed over. Padding ends the text where it completes a group
of four, and is passed over elsewhere; a text that ends inside a group is refused.
-/

namespace Checkup.Text

/-- The six bits a character stands for. -/
def sixBits? (c : Char) : Option Nat :=
  if 'A' ≤ c ∧ c ≤ 'Z' then some (c.toNat - 'A'.toNat)
  else if 'a' ≤ c ∧ c ≤ 'z' then some (c.toNat - 'a'.toNat + 26)
  else if c.isDigit then some (c.toNat - '0'.toNat + 52)
  else if c = '+' then some 62
  else if c = '/' then some 63
  else none

/-- Reads on, `place` being how many characters of the group were read, `left` the bits of the last
one that are not yet written, and `pads` the padding seen since. -/
def fromBase64From (place left pads : Nat) : List Char → Option (List UInt8)
  | [] => if place = 0 then some [] else none
  | '=' :: rest =>
    if 2 ≤ place ∧ 4 ≤ place + pads + 1 then some []
    else fromBase64From place left (if 2 ≤ place then pads + 1 else pads) rest
  | c :: rest =>
    match sixBits? c with
    | none => fromBase64From place left pads rest
    | some bits =>
      match place with
      | 0 => fromBase64From 1 bits 0 rest
      | 1 => (fromBase64From 2 (bits % 16) 0 rest).map ((left * 4 + bits / 16).toUInt8 :: ·)
      | 2 => (fromBase64From 3 (bits % 4) 0 rest).map ((left * 16 + bits / 4).toUInt8 :: ·)
      | _ => (fromBase64From 0 0 0 rest).map ((left * 64 + bits).toUInt8 :: ·)

/-- The bytes that a text in base 64 stands for. -/
def fromBase64? (cs : List Char) : Option (List UInt8) := fromBase64From 0 0 0 cs

end Checkup.Text
