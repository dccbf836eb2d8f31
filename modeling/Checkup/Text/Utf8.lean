/-!
Decoding UTF-8 byte by byte.

Bytes come in runs, and a run may end inside a character, which the next one finishes. An invalid
byte is noticed as soon as it stands where no text can have it.

Main definition: `decode`.
-/

namespace Checkup.Text

/-- The character that is being put together: how many bytes it still needs, between which bounds
the next must lie, and the bits so far. -/
structure OpenChar where
  needed : Nat
  low : Nat
  high : Nat
  bits : Nat

/-- What one byte comes to. -/
inductive ByteStep where
  | whole (c : Char)
  | more (o : OpenChar)
  | invalid

/-- The first byte of a character. The bounds for the second byte keep out surrogates, code points
beyond the last plane, and bytes that could be fewer. -/
def leadByte (b : Nat) : ByteStep :=
  if b < 0x80 then .whole (Char.ofNat b)
  else if b < 0xc2 then .invalid
  else if b < 0xe0 then .more ⟨1, 0x80, 0xbf, b - 0xc0⟩
  else if b < 0xf0 then
    .more ⟨2, if b = 0xe0 then 0xa0 else 0x80, if b = 0xed then 0x9f else 0xbf, b - 0xe0⟩
  else if b < 0xf5 then
    .more ⟨3, if b = 0xf0 then 0x90 else 0x80, if b = 0xf4 then 0x8f else 0xbf, b - 0xf0⟩
  else .invalid

/-- A further byte of a character. -/
def nextByte (o : OpenChar) (b : Nat) : ByteStep :=
  if o.low ≤ b ∧ b ≤ o.high then
    let bits := o.bits * 64 + b % 64
    if o.needed ≤ 1 then .whole (Char.ofNat bits) else .more ⟨o.needed - 1, 0x80, 0xbf, bits⟩
  else .invalid

/-- Decodes some bytes of a text, `opened` being the character that those before left unfinished.
Gives the characters and what is left unfinished; `none` where a byte is invalid. -/
def decode (opened : Option OpenChar) : List UInt8 → Option (List Char × Option OpenChar)
  | [] => some ([], opened)
  | b :: rest =>
    match opened.elim (leadByte b.toNat) (nextByte · b.toNat) with
    | .invalid => none
    | .more o => decode (some o) rest
    | .whole c => (decode none rest).map fun (cs, o) => (c :: cs, o)

end Checkup.Text
