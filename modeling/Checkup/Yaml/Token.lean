import Checkup.Yaml.Scalar

/-!
Tokens of a YAML text, and how those with a text of their own are read: names, tags and directives.

Each reader starts at the mark of its token and returns the token with the place behind it.
-/

namespace Checkup.Yaml

inductive Directive where
  | version (major minor : Nat)
  | tagHandle (handle standsFor : String)
  | other
  deriving Repr

inductive Token where
  | directive (d : Directive)
  | documentStart
  | documentEnd
  | streamEnd
  | blockSequenceStart
  | blockMappingStart
  | blockEnd
  | flowSequenceStart
  | flowSequenceEnd
  | flowMappingStart
  | flowMappingEnd
  | blockEntry
  | flowEntry
  | key
  | value
  | alias (name : String)
  | anchor (name : String)
  | tag (handle : Option String) (suffix : String)
  | scalar (text : Text.Points) (isPlain : Bool)
  deriving Repr

namespace Token

/-! ### Names and tags -/

/-- Reads the name of an anchor or an alias, its indicator being next. -/
def name (c : Cursor) : Except Problem (String × Cursor) :=
  let (cs, c) := c.step.takeWhile isNameChar
  let endsWell := isBlankOrEnd c.peek || c.peek.elim false ("?:,]\x7d%@".toList.contains ·) ||
    c.peek == some (Char.ofNat 0x60)
  if cs.isEmpty || !endsWell then .error c.misplaced else .ok (String.ofList cs, c)

/-- Reads a handle of tags: one mark, two marks, or a name between marks. -/
def handle (c : Cursor) : Except Problem (String × Cursor) :=
  if c.peek != some '!' then .error c.misplaced
  else if c.peekAt 1 == some ' ' then .ok ("!", c.step)
  else
    let (cs, behind) := c.step.takeWhile isNameChar
    if behind.peek == some '!' then .ok (String.ofList ('!' :: cs ++ ['!']), behind.step)
    else .error behind.misplaced

/-- A character of a tag's text that stands for itself. -/
def isTagChar (c : Char) : Bool :=
  isNameChar c || ";/?:@&=+$,_.!~*'()[]".toList.contains c

/-- Reads bytes written as a percent sign and two hexadecimal digits each, the last byte read
standing first in `bytes`. -/
def percentBytes : (fuel : Nat) → List UInt8 → Cursor → Except Problem (List UInt8 × Cursor)
  | 0, bytes, c => .ok (bytes.reverse, c)
  | fuel + 1, bytes, c =>
    match c.rest with
    | '%' :: a :: b :: _ =>
      if isHexDigit a && isHexDigit b then
        percentBytes fuel (UInt8.ofNat (hexNumber [a, b]) :: bytes) (c.move 3)
      else .error .malformed
    | '%' :: _ => .error (c.step.skipWhile isHexDigit).misplaced
    | _ => .ok (bytes.reverse, c)

/-- Reads the text of a tag, escapes included; `read` is the text so far, the last part first. -/
def tagText : (fuel : Nat) → (read : List (List Char)) → Cursor →
    Except Problem (List Char × Cursor)
  | 0, read, c => .ok (read.reverse.flatten, c)
  | fuel + 1, read, c => do
    let (run, c) := c.takeWhile isTagChar
    let read := run :: read
    if c.peek == some '%' then
      let (bytes, c) ← percentBytes (c.left + 1) [] c
      match String.fromUTF8? (ByteArray.mk bytes.toArray) with
      | some s => tagText fuel (s.toList :: read) c
      | none => throw .malformed
    else if read.all List.isEmpty then throw c.misplaced
    else return (read.reverse.flatten, c)

/-- Reads the text of a tag that may not be empty. -/
def suffix (c : Cursor) : Except Problem (String × Cursor) :=
  (tagText (c.left + 1) [] c).map fun (text, c) => (String.ofList text, c)

/-- Reads a tag, its mark being next. -/
def ofTag (c : Cursor) : Except Problem (Token × Cursor) := do
  let (made, c) ←
    if c.peekAt 1 == some '<' then do
      let (text, c) ← suffix (c.move 2)
      if c.peek == some '>' then pure (Token.tag none text, c.step) else throw c.misplaced
    else if isBlankOrEnd (c.peekAt 1) then pure (Token.tag none "!", c.step)
    else do
      let word := c.rest.drop 1 |>.takeWhile fun ch => !(ch == ' ' || isBreak ch || ch == '!')
      if let some p := c.cutWithin (word.length + 2) then throw p
      let hasHandle := c.peekAt (word.length + 1) == some '!'
      let (front, c) ← if hasHandle then handle c else pure ("!", c.step)
      let (text, c) ← suffix c
      pure (Token.tag (some front) text, c)
  if isSpaceOrEnd c.peek then return (made, c) else throw c.misplaced

/-! ### Directives -/

/-- Reads a whole number. -/
def number (c : Cursor) : Except Problem (Nat × Cursor) :=
  let (cs, c) := c.takeWhile Char.isDigit
  if cs.isEmpty then .error c.misplaced
  else if Value.maxDigits < cs.length then .error (.fault (.tooLongToRead cs.length))
  else .ok (cs.foldl (fun n d => 10 * n + (d.toNat - '0'.toNat)) 0, c)

/-- Reads a directive, its percent sign being next. -/
def ofDirective (c : Cursor) : Except Problem (Token × Cursor) := do
  let (word, c) := c.step.takeWhile isNameChar
  if word.isEmpty || !isSpaceOrEnd c.peek then throw c.misplaced
  let (d, c) ←
    if word = "YAML".toList then do
      let (major, c) ← number c.skipSpaces
      if c.peek != some '.' then throw c.misplaced
      let (minor, c) ← number c.step
      if !isSpaceOrEnd c.peek then throw c.misplaced
      pure (Directive.version major minor, c)
    else if word = "TAG".toList then do
      let (front, c) ← handle c.skipSpaces
      if c.peek != some ' ' then throw c.misplaced
      let (standsFor, c) ← suffix c.skipSpaces
      if !isSpaceOrEnd c.peek then throw c.misplaced
      pure (Directive.tagHandle front standsFor, c)
    else pure (Directive.other, c.skipLine)
  let c ← ignoredLine c
  return (.directive d, c)

end Token

end Checkup.Yaml
