import Checkup.Text.Quoted

/-!
Text as code points.

A string holds characters. Text that is put together from numbered code points can also hold
surrogates that stand alone, which are no characters; `Points` is text with or without them.

Main definitions: `Points.string?` (such text as a string, if it is one) and `quotedPoints`.
-/

namespace Checkup.Text

/-- Text as code points. -/
abbrev Points := List Nat

/-- A code point that is half of a pair and no character. -/
def isSurrogate (code : Nat) : Bool := 0xd800 ≤ code && code ≤ 0xdfff

/-- A code point as a character; a surrogate shows as the mark for what cannot be shown. -/
def pointChar (code : Nat) : Char :=
  if isSurrogate code then Char.ofNat 0xfffd else Char.ofNat code

namespace Points

def ofChars (cs : List Char) : Points := cs.map Char.toNat

def ofString (s : String) : Points := ofChars s.toList

/-- The characters of a text, each surrogate showing as the mark for what cannot be shown. -/
def chars (text : Points) : List Char := text.map pointChar

def lossy (text : Points) : String := String.ofList (chars text)

def string? (text : Points) : Option String :=
  if text.any isSurrogate then none else some (lossy text)

end Points

/-! ### Quoting -/

/-- One code point of a quoted text; a surrogate is escaped. -/
def quotedPoint (quote : Char) (code : Nat) : List Char :=
  if isSurrogate code then '\\' :: 'u' :: hex 4 code else quotedChar quote (Char.ofNat code)

/-- A text between quotes. -/
def quotedPoints (text : Points) : String :=
  let cs := Points.chars text
  let quote := quoteFor (cs.contains '\'') (cs.contains '"')
  String.ofList (quote :: text.flatMap (quotedPoint quote) ++ [quote])

end Checkup.Text
