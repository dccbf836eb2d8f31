import Checkup.Yaml.Cursor

/-!
The texts of scalars as they stand in a YAML text: plain, quoted, and in blocks.

Each reader starts at the first character of a scalar and returns its text and the place behind
it. Line breaks inside plain and quoted scalars fold: a single one counts as a space, of several
the first is dropped.
-/

namespace Checkup.Yaml

/-- The line breaks of a fold: a line feed alone becomes a space, before others it is dropped. -/
def folded (first : Char) (others : List Char) : List Char :=
  (if first != '\n' then [first] else if others.isEmpty then [' '] else []) ++ others

/-! ### Plain scalars -/

/-- The characters of a plain scalar up to a blank or an indicator. -/
def plainRun (inFlow : Bool) : List Char → List Char
  | [] => []
  | ch :: rest =>
    if isBlankOrEnd (some ch) then []
    else if ch == ':' && (isBlankOrEnd rest.head? ||
        (inFlow && rest.head?.elim false (",[]\x7b\x7d".toList.contains ·))) then []
    else if inFlow && ",?[]\x7b\x7d".toList.contains ch then []
    else ch :: plainRun inFlow rest

/-- The blanks between two parts of a plain scalar, read so far: how they count, whether a line
ended among them, and the place behind them. They count as nothing before a separator of
documents. -/
structure PlainGap where
  counted : List Char
  lineEnded : Bool
  behind : Cursor

/-- The further line breaks of a gap, at most `fuel` characters, the last one read standing first in
`breaks`; `none` before a separator. -/
def gapBreaks : (fuel : Nat) → (breaks : List Char) → Cursor → Option (List Char) × Cursor
  | 0, breaks, c => (some breaks.reverse, c)
  | fuel + 1, breaks, c =>
    if c.peek == some ' ' then gapBreaks fuel breaks c.step
    else match c.lineBreak with
      | (none, c) => (some breaks.reverse, c)
      | (some ch, c) => if c.atSeparator then (none, c) else gapBreaks fuel (ch :: breaks) c

/-- Reads the blanks behind a part of a plain scalar. -/
def plainGap (c : Cursor) : PlainGap :=
  let (spaces, c) := c.takeWhile (· == ' ')
  match c.lineBreak with
  | (none, c) => { counted := spaces, lineEnded := false, behind := c }
  | (some first, c) =>
    if c.atSeparator then { counted := [], lineEnded := true, behind := c }
    else match gapBreaks c.left [] c with
      | (none, c) => { counted := [], lineEnded := true, behind := c }
      | (some others, c) => { counted := folded first others, lineEnded := true, behind := c }

/-- Reads the parts of a plain scalar, `read` being those so far, the last one first; also says
whether a line ended behind them. -/
def plainParts (inFlow : Bool) (indent : Int) : (fuel : Nat) → (read : List (List Char)) →
    (gap : List Char) → (lineEnded : Bool) → Cursor → List (List Char) × Bool × Cursor
  | 0, read, _, lineEnded, c => (read, lineEnded, c)
  | fuel + 1, read, gap, lineEnded, c =>
    let run := plainRun inFlow c.rest
    if c.peek == some '#' || run.isEmpty then (read, lineEnded, c)
    else
      let read := run :: gap :: read
      let next := plainGap (c.move run.length)
      if next.counted.isEmpty || next.behind.peek == some '#' ||
          (!inFlow && decide ((next.behind.column : Int) < indent)) then
        (read, next.lineEnded, next.behind)
      else plainParts inFlow indent fuel read next.counted next.lineEnded next.behind

/-- Reads a plain scalar, `indent` being the least column of its further lines: its text, whether a
line ended behind it, and the place behind. -/
def plainScalar (inFlow : Bool) (indent : Int) (c : Cursor) : List Char × Bool × Cursor :=
  let (read, lineEnded, c) := plainParts inFlow indent (c.left + 1) [] [] false c
  (read.reverse.flatten, lineEnded, c)

/-! ### Quoted scalars -/

/-- The character that a letter stands for behind a backslash. -/
def escapeOf? (c : Char) : Option Char :=
  match c with
  | '0' => some (Char.ofNat 0)
  | 'a' => some (Char.ofNat 7)
  | 'b' => some (Char.ofNat 8)
  | 't' | '\t' => some '\t'
  | 'n' => some '\n'
  | 'v' => some (Char.ofNat 0xb)
  | 'f' => some (Char.ofNat 0xc)
  | 'r' => some '\r'
  | 'e' => some (Char.ofNat 0x1b)
  | ' ' | '"' | '\\' | '/' => some c
  | 'N' => some (Char.ofNat 0x85)
  | '_' => some (Char.ofNat 0xa0)
  | 'L' => some (Char.ofNat 0x2028)
  | 'P' => some (Char.ofNat 0x2029)
  | _ => none

/-- The number of hexadecimal digits behind a letter. -/
def escapeWidth? (c : Char) : Option Nat :=
  match c with
  | 'x' => some 2
  | 'u' => some 4
  | 'U' => some 8
  | _ => none

/-- A code point by its number; there are none beyond the last plane. -/
def codePoint (code : Nat) : Except Problem Nat :=
  if code < 0x110000 then .ok code
  else if code < pow2 31 then
    .error (.fault (.because .valueError "chr() arg not in range(0x110000)"))
  else .error (.fault (.because .overflowError "Python int too large to convert to C int"))

/-- The further line breaks behind the first one inside quotes, with the blanks between them; the
last one read stands first in `breaks`. -/
def quotedBreaks : (fuel : Nat) → (breaks : List Char) → Cursor →
    Except Problem (List Char × Cursor)
  | 0, breaks, c => .ok (breaks.reverse, c)
  | fuel + 1, breaks, c =>
    if let some p := c.cutWithin c.separatorReach then .error p
    else if c.atSeparator then .error .malformed
    else
      let c := c.skipWhile fun ch => ch == ' ' || ch == '\t'
      match c.lineBreak with
      | (none, c) => .ok (breaks.reverse, c)
      | (some ch, c) => quotedBreaks fuel (ch :: breaks) c

/-- Reads an escape by the number of a code point, the digits being next. -/
def numberedEscape (width : Nat) (c : Cursor) : Except Problem (Text.Points × Cursor) :=
  let (digits, behind) := { c with rest := c.rest.take width }.takeWhile isHexDigit
  if digits.length = width then
    (codePoint (hexNumber digits)).map fun code => ([code], c.move width)
  else .error ({ behind with rest := c.rest.drop digits.length } : Cursor).misplaced

/-- Reads one escape of a double-quoted scalar, the backslash being next. -/
def escape (c : Cursor) : Except Problem (Text.Points × Cursor) :=
  let c := c.step
  match c.peek with
  | none => .error c.misplaced
  | some letter =>
    match escapeOf? letter, escapeWidth? letter with
    | some ch, _ => .ok ([ch.toNat], c.step)
    | none, some width => numberedEscape width c.step
    | none, none =>
      match c.lineBreak with
      | (none, _) => .error .malformed
      | (some _, c) =>
        (quotedBreaks (c.left + 1) [] c).map fun (breaks, c) => (Text.Points.ofChars breaks, c)

/-- The blanks inside quotes, folded if there is a line break among them. -/
def quotedGap (c : Cursor) : Except Problem (List Char × Cursor) :=
  let (blanks, c) := c.takeWhile fun ch => ch == ' ' || ch == '\t'
  match c.lineBreak with
  | (none, c) => .ok (blanks, c)
  | (some first, c) =>
    (quotedBreaks (c.left + 1) [] c).map fun (others, c) => (folded first others, c)

/-- Whether a character stands for itself inside quotes wherever it is. -/
def isQuotedText (ch : Char) : Bool :=
  !(ch == ' ' || ch == '\t' || isBreak ch || ch == '\'' || ch == '"' || ch == '\\')

/-- Reads a quoted scalar up to and with its closing quote; `read` is its text so far, the last part
first. -/
def quotedParts (double : Bool) : (fuel : Nat) → (read : List Text.Points) → Cursor →
    Except Problem (List Text.Points × Cursor)
  | 0, _, _ => .error .malformed
  | fuel + 1, read, c =>
    match c.peek with
    | none => .error c.misplaced
    | some ch =>
      if isQuotedText ch then
        let (run, c) := c.takeWhile isQuotedText
        quotedParts double fuel (Text.Points.ofChars run :: read) c
      else if ch == ' ' || ch == '\t' || isBreak ch then
        match quotedGap c with
        | .error p => .error p
        | .ok (gap, c) => quotedParts double fuel (Text.Points.ofChars gap :: read) c
      else if !double && ch == '\'' && c.peekAt 1 == some '\'' then
        quotedParts double fuel ([ch.toNat] :: read) (c.move 2)
      else if ch == (if double then '"' else '\'') then .ok (read, c.step)
      else if double && ch == '\\' then
        match escape c with
        | .error p => .error p
        | .ok (points, c) => quotedParts double fuel (points :: read) c
      else quotedParts double fuel ([ch.toNat] :: read) c.step

/-- Reads a quoted scalar, its opening quote being next. -/
def quotedScalar (double : Bool) (c : Cursor) : Except Problem (Text.Points × Cursor) :=
  (quotedParts double (c.left + 1) [] c.step).map fun (read, c) => (read.reverse.flatten, c)

/-! ### Block scalars -/

/-- What becomes of the line breaks at the end of a block. -/
inductive Chomping where
  | clip
  | strip
  | keep
  deriving DecidableEq, Repr

def chomping? (c : Option Char) : Option Chomping :=
  if c == some '+' then some .keep else if c == some '-' then some .strip else none

/-- The indentation that a digit asks for; 0 is refused. -/
def increment? (c : Option Char) : Except Problem (Option Nat) :=
  match c with
  | some d =>
    if d.isDigit then
      if d == '0' then .error .malformed else .ok (some (d.toNat - '0'.toNat))
    else .ok none
  | none => .ok none

/-- Reads the marks behind the indicator of a block: chomping and indentation in either order. -/
def blockMarks (c : Cursor) : Except Problem (Chomping × Option Nat × Cursor) := do
  let (chomping, increment, c) ← match chomping? c.peek with
    | some chomping =>
      let c := c.step
      match ← increment? c.peek with
      | some n => pure (chomping, some n, c.step)
      | none => pure (chomping, none, c)
    | none =>
      match ← increment? c.peek with
      | some n =>
        let c := c.step
        match chomping? c.peek with
        | some chomping => pure (chomping, some n, c.step)
        | none => pure (Chomping.clip, some n, c)
      | none => pure (Chomping.clip, none, c)
  if isSpaceOrEnd c.peek then return (chomping, increment, c) else throw .malformed

/-- The rest of a line that may only hold a comment, with its line break. -/
def ignoredLine (c : Cursor) : Except Problem Cursor :=
  let c := c.skipSpaces
  let c := if c.peek == some '#' then c.skipLine else c
  if isLineEnd c.peek then .ok c.lineBreak.2 else .error .malformed

/-- The blank lines at the head of a block, the last one read standing first in `breaks`, and the
widest indentation among them. -/
def blockHead : (fuel : Nat) → (breaks : List Char) → (widest : Nat) → Cursor →
    List Char × Nat × Cursor
  | 0, breaks, widest, c => (breaks.reverse, widest, c)
  | fuel + 1, breaks, widest, c =>
    if c.peek == some ' ' then
      let c := c.step
      blockHead fuel breaks (max widest c.column) c
    else match c.lineBreak with
      | (none, c) => (breaks.reverse, widest, c)
      | (some ch, c) => blockHead fuel (ch :: breaks) widest c

/-- The place behind the indentation of a line, as far as it goes. -/
def skipIndent (indent : Nat) : (fuel : Nat) → Cursor → Cursor
  | 0, c => c
  | fuel + 1, c =>
    if c.column < indent ∧ c.peek = some ' ' then skipIndent indent fuel c.step else c

/-- The line breaks between two lines of a block, with the indentation behind each; the last one
read stands first in `breaks`. -/
def blockBreaks (indent : Nat) : (fuel : Nat) → (breaks : List Char) → Cursor →
    List Char × Cursor
  | 0, breaks, c => (breaks.reverse, c)
  | fuel + 1, breaks, c =>
    let c := skipIndent indent indent c
    match c.lineBreak with
    | (none, c) => (breaks.reverse, c)
    | (some ch, c) => blockBreaks indent fuel (ch :: breaks) c

/-- Reads the lines of a block, `read` being its text so far, the last part first. Returns the text
without the last line break, that break, and the breaks behind it. -/
def blockLines (fold : Bool) (indent : Nat) : (fuel : Nat) → (read : List (List Char)) →
    (breaks : List Char) → Cursor → List (List Char) × List Char × List Char × Cursor
  | 0, read, breaks, c => (read, [], breaks, c)
  | fuel + 1, read, breaks, c =>
    if c.column ≠ indent ∨ c.peek = none then (read, [], breaks, c)
    else
      let startsDark := !(c.peek == some ' ' || c.peek == some '\t')
      let (line, c) := c.takeWhile fun ch => !isBreak ch
      let read := line :: breaks :: read
      let (ended, c) := c.lineBreak
      let ending := ended.toList
      let (breaks, c) := blockBreaks indent (c.left + 1) [] c
      if c.column = indent ∧ c.peek ≠ none then
        let dark := startsDark && !(c.peek == some ' ' || c.peek == some '\t')
        let joint :=
          if fold && ending == ['\n'] && dark then (if breaks.isEmpty then [' '] else [])
          else ending
        blockLines fold indent fuel (joint :: read) breaks c
      else (read, ending, breaks, c)

/-- Reads a block scalar, its indicator being next and `outer` the indentation around it. -/
def blockScalar (fold : Bool) (outer : Int) (c : Cursor) : Except Problem (List Char × Cursor) := do
  let (chomping, increment, c) ← blockMarks c.step
  let c ← ignoredLine c
  let least : Nat := max 1 (outer + 1).toNat
  let (breaks, indent, c) := match increment with
    | some n =>
      let indent := least + n - 1
      let (breaks, c) := blockBreaks indent (c.left + 1) [] c
      (breaks, indent, c)
    | none =>
      let (breaks, widest, c) := blockHead (c.left + 1) [] 0 c
      (breaks, max least widest, c)
  let (read, ending, breaks, c) := blockLines fold indent (c.left + 1) [] breaks c
  let tail := match chomping with
    | .strip => []
    | .clip => ending
    | .keep => ending ++ breaks
  return (read.reverse.flatten ++ tail, c)

end Checkup.Yaml
