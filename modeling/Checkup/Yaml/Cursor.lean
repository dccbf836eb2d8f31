import Checkup.Document

/-!
Places in a YAML text.

A cursor holds what is left of the text and counts characters, lines and columns. The end of the
text is the absence of a next character. A text may be cut short by a problem, which comes up where
a character behind the cut is needed. The classes of characters are those of YAML 1.1, which knows
five line breaks.
-/

namespace Checkup.Yaml

/-! ### Characters -/

/-- A character that a text may hold at all. -/
def isAllowed (c : Char) : Bool :=
  let n := c.toNat
  n == 0x9 || n == 0xa || n == 0xd || (0x20 ≤ n && n ≤ 0x7e) || n == 0x85 ||
    (0xa0 ≤ n && n ≤ 0xd7ff) || (0xe000 ≤ n && n ≤ 0xfffd) || 0x10000 ≤ n

def isBreak (c : Char) : Bool :=
  c == '\n' || c == '\r' || c.toNat == 0x85 || c.toNat == 0x2028 || c.toNat == 0x2029

def isLineEnd (c : Option Char) : Bool := c.elim true isBreak

def isSpaceOrEnd (c : Option Char) : Bool := c.elim true fun c => c == ' ' || isBreak c

def isBlankOrEnd (c : Option Char) : Bool :=
  c.elim true fun c => c == ' ' || c == '\t' || isBreak c

/-- A character of names: a letter or digit of ASCII, a hyphen or an underscore. -/
def isNameChar (c : Char) : Bool := c.isAlphanum || c == '-' || c == '_'

def isHexDigit (c : Char) : Bool :=
  c.isDigit || ('a' ≤ c && c ≤ 'f') || ('A' ≤ c && c ≤ 'F')

/-- The value of a hexadecimal digit. -/
def hexValue (c : Char) : Nat :=
  if c.isDigit then c.toNat - '0'.toNat
  else if 'a' ≤ c then c.toNat - 'a'.toNat + 10
  else c.toNat - 'A'.toNat + 10

def hexNumber (cs : List Char) : Nat := cs.foldl (fun n c => 16 * n + hexValue c) 0

/-! ### Cursors -/

structure Cursor where
  rest : List Char
  /-- How many characters the text has. -/
  size : Nat
  /-- What cuts the text short, if anything does. -/
  cut : Option Problem := none
  index : Nat := 0
  line : Nat := 0
  column : Nat := 0
  deriving Repr

namespace Cursor

def start (text : List Char) (cut : Option Problem) : Cursor :=
  { rest := text, size := text.length, cut }

def left (c : Cursor) : Nat := c.size - c.index

/-- The problem of looking at the next `n` characters where the text is cut before the last of
them. -/
def cutWithin (c : Cursor) (n : Nat) : Option Problem :=
  if (c.rest.drop (n - 1)).isEmpty then c.cut else none

/-- The problem of going on from a place where the text is cut. -/
def cutHere (c : Cursor) : Option Problem := c.cutWithin 1

/-- The problem with a place where the text cannot go on as it does. -/
def misplaced (c : Cursor) : Problem := c.cutHere.getD .malformed

def peek (c : Cursor) : Option Char := c.rest.head?

def peekAt (c : Cursor) (n : Nat) : Option Char := c.rest[n]?

/-- The place behind the next character. A byte order mark takes no column. -/
def step (c : Cursor) : Cursor :=
  match c.rest with
  | [] => c
  | ch :: rest =>
    if isBreak ch && !(ch == '\r' && rest.head? == some '\n') then
      { c with rest, index := c.index + 1, line := c.line + 1, column := 0 }
    else if ch.toNat == 0xfeff then { c with rest, index := c.index + 1 }
    else { c with rest, index := c.index + 1, column := c.column + 1 }

def move (c : Cursor) : Nat → Cursor
  | 0 => c
  | n + 1 => move c.step n

/-- The characters up to the first that fails a test, and the place behind them. -/
def takeWhile (c : Cursor) (p : Char → Bool) : List Char × Cursor :=
  let taken := c.rest.takeWhile p
  (taken, c.move taken.length)

def skipWhile (c : Cursor) (p : Char → Bool) : Cursor := (c.takeWhile p).2

def skipSpaces (c : Cursor) : Cursor := c.skipWhile (· == ' ')

def skipLine (c : Cursor) : Cursor := c.skipWhile fun ch => !isBreak ch

/-- A line break as it counts in text, and the place behind it; nothing if there is none. The
separators of lines and of paragraphs stay as they are, the other breaks count as a line feed. -/
def lineBreak (c : Cursor) : Option Char × Cursor :=
  match c.rest with
  | '\r' :: '\n' :: _ => (some '\n', c.move 2)
  | ch :: _ =>
    if ch.toNat == 0x2028 || ch.toNat == 0x2029 then (some ch, c.step)
    else if isBreak ch then (some '\n', c.step)
    else (none, c)
  | [] => (none, c)

def hasThree (c : Cursor) (mark : Char) : Bool := c.rest.take 3 == [mark, mark, mark]

/-- Whether three equal marks and then a blank or the end come next. -/
def hasMarks (c : Cursor) (mark : Char) : Bool := c.hasThree mark && isBlankOrEnd (c.peekAt 3)

/-- Whether a separator of documents comes next. -/
def atSeparator (c : Cursor) : Bool := c.hasMarks '-' || c.hasMarks '.'

/-- How many characters tell whether a separator of documents comes next. -/
def separatorReach (c : Cursor) : Nat := if c.hasThree '-' || c.hasThree '.' then 4 else 3

end Cursor

end Checkup.Yaml
