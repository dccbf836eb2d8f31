import Checkup.Yaml.Token

/-!
Cutting a YAML text into tokens.

Indentation becomes explicit: a wider column opens a block and a narrower one closes it. Whether a
token is the key of a mapping is known only when the colon behind it is met, so places where a key
may have begun are remembered, one per level of brackets, and the marks for the key are put in
afterwards. A possible key ends with its line or after 1024 characters.

The text is cut no further than is needed to settle the next token, so a problem comes up only when
the tokens before it have been passed.

Main definitions: `Lexer.start`, `Lexer.peek` and `Lexer.skip`.
-/

namespace Checkup.Yaml

structure PossibleKey where
  /-- The number of tokens before it. -/
  position : Nat
  /-- Whether it must turn out to be a key, since it starts a line of a block. -/
  required : Bool
  index : Nat
  line : Nat
  column : Nat
  deriving Repr

/-- The state between two tokens. -/
structure Lexer where
  cursor : Cursor
  /-- The number of tokens that have been passed. -/
  passed : Nat := 0
  /-- The tokens that are cut and not passed. -/
  ahead : List Token := []
  /-- Whether the last token is cut. -/
  ended : Bool := false
  /-- The depth of open brackets. -/
  flow : Nat := 0
  /-- The column of the innermost block, and of those around it. -/
  indent : Int := -1
  outer : List Int := []
  /-- The possible key of each depth of brackets. -/
  keys : List (Nat × PossibleKey) := []
  /-- Whether a key may begin here. -/
  allowKey : Bool := true

namespace Lexer

def push (l : Lexer) (t : Token) : Lexer := { l with ahead := l.ahead ++ [t] }

/-- Puts a token in front of one that is not passed yet. -/
def insert (l : Lexer) (position : Nat) (t : Token) : Lexer :=
  { l with ahead := l.ahead.insertIdx (position - l.passed) t }

/-- The possible key of the present depth. -/
def key? (l : Lexer) : Option PossibleKey := (l.keys.find? (·.1 == l.flow)).map (·.2)

def dropKey (l : Lexer) : Lexer := { l with keys := l.keys.filter (·.1 != l.flow) }

/-- Gives up the possible key of the present depth; it may not have been required. -/
def giveUpKey (l : Lexer) : Except Problem Lexer :=
  match l.key? with
  | none => .ok l
  | some key => if key.required then .error .malformed else .ok l.dropKey

/-- Gives up the possible keys that began on another line or too far back. -/
def giveUpStale (l : Lexer) : Except Problem Lexer :=
  let isStale (key : PossibleKey) : Bool :=
    key.line != l.cursor.line || decide (1024 < l.cursor.index - key.index)
  if l.keys.any fun key => isStale key.2 && key.2.required then .error .malformed
  else .ok { l with keys := l.keys.filter fun key => !isStale key.2 }

/-- Remembers that a key may begin here, if one may. -/
def saveKey (l : Lexer) : Except Problem Lexer := do
  if l.allowKey then
    let l ← l.giveUpKey
    let key : PossibleKey :=
      { position := l.passed + l.ahead.length
        required := l.flow == 0 && l.indent == l.cursor.column
        index := l.cursor.index, line := l.cursor.line, column := l.cursor.column }
    return { l with keys := (l.flow, key) :: l.keys }
  else return l

/-- Closes the blocks that are wider than a column. -/
def closeBlocks (column : Int) : List Int → Lexer → Lexer
  | [], l => l
  | next :: outer, l =>
    if column < l.indent then
      closeBlocks column outer { l.push .blockEnd with indent := next, outer }
    else l

/-- Closes the blocks that are wider than a column, outside brackets. -/
def unwind (l : Lexer) (column : Int) : Lexer :=
  if l.flow = 0 then closeBlocks column l.outer l else l

/-- Opens a block at a column if it is wider than the innermost one. -/
def openBlock (l : Lexer) (column : Nat) : Bool × Lexer :=
  if l.indent < column then
    (true, { l with outer := l.indent :: l.outer, indent := column })
  else (false, l)

/-- Skips blanks, comments and line breaks; behind a line break outside brackets a key may
begin. -/
def skipBlanks : (fuel : Nat) → Lexer → Lexer
  | 0, l => l
  | fuel + 1, l =>
    let c := l.cursor.skipSpaces
    let c := if c.peek == some '#' then c.skipLine else c
    match c.lineBreak with
    | (none, c) => { l with cursor := c }
    | (some _, c) => skipBlanks fuel { l with cursor := c, allowKey := l.allowKey || l.flow == 0 }

/-- Adds a token that takes some characters. -/
def take (l : Lexer) (t : Token) (width : Nat) : Lexer :=
  { l.push t with cursor := l.cursor.move width }

/-- Adds a token that was read up to a place. -/
def took (l : Lexer) (read : Token × Cursor) : Lexer :=
  { l.push read.1 with cursor := read.2 }

/-- Ends every block and every possible key, as directives and document marks do. -/
def reset (l : Lexer) : Except Problem Lexer := do
  let l ← (l.unwind (-1)).giveUpKey
  return { l with allowKey := false }

def openFlow (l : Lexer) (t : Token) : Except Problem Lexer := do
  let l ← l.saveKey
  return { l.take t 1 with flow := l.flow + 1, allowKey := true }

def closeFlow (l : Lexer) (t : Token) : Except Problem Lexer := do
  let l ← l.giveUpKey
  return { l.take t 1 with flow := l.flow - 1, allowKey := false }

def flowEntry (l : Lexer) : Except Problem Lexer := do
  let l ← l.giveUpKey
  return { l.take .flowEntry 1 with allowKey := true }

/-- The mark of an item of a block sequence. -/
def blockEntry (l : Lexer) : Except Problem Lexer := do
  let l ←
    if l.flow = 0 then
      if l.allowKey then
        let (opened, l) := l.openBlock l.cursor.column
        pure (if opened then l.push .blockSequenceStart else l)
      else throw .malformed
    else pure l
  let l ← l.giveUpKey
  return { l.take .blockEntry 1 with allowKey := true }

/-- The mark of a key that is written out. -/
def keyMark (l : Lexer) : Except Problem Lexer := do
  let l ←
    if l.flow = 0 then
      if l.allowKey then
        let (opened, l) := l.openBlock l.cursor.column
        pure (if opened then l.push .blockMappingStart else l)
      else throw .malformed
    else pure l
  let l ← l.giveUpKey
  return { l.take .key 1 with allowKey := l.flow == 0 }

/-- The colon in front of a value. If a key may have begun at this depth it did, and the marks for
it go in front of its token. -/
def valueMark (l : Lexer) : Except Problem Lexer := do
  match l.key? with
  | some key =>
    let l := l.dropKey.insert key.position .key
    let l :=
      if l.flow = 0 then
        let (opened, l) := l.openBlock key.column
        if opened then l.insert key.position .blockMappingStart else l
      else l
    return { l.take .value 1 with allowKey := false }
  | none =>
    let l ←
      if l.flow = 0 then
        if l.allowKey then
          let (opened, l) := l.openBlock l.cursor.column
          pure (if opened then l.push .blockMappingStart else l)
        else throw .malformed
      else pure l
    let l ← ({ l with allowKey := l.flow == 0 } : Lexer).giveUpKey
    return l.take .value 1

/-- A token that may itself be a key: an alias, an anchor, a tag or a quoted scalar. -/
def keyLike (l : Lexer) (read : Cursor → Except Problem (Token × Cursor)) :
    Except Problem Lexer := do
  let l ← l.saveKey
  let t ← read l.cursor
  return { l.took t with allowKey := false }

/-- A plain scalar; a key may begin behind it only if its last line has ended. -/
def plain (l : Lexer) : Except Problem Lexer := do
  let l ← l.saveKey
  let (text, lineEnded, c) := plainScalar (l.flow != 0) (l.indent + 1) l.cursor
  let colonReach := if c.peek == some ':' then 2 else 1
  let lineReach := if lineEnded then c.separatorReach - c.column else 1
  if let some p := c.cutWithin (max colonReach lineReach) then throw p
  return { l.took (.scalar (Text.Points.ofChars text) true, c) with allowKey := lineEnded }

/-- A block scalar; a key may begin behind it. -/
def block (l : Lexer) (fold : Bool) : Except Problem Lexer := do
  let l ← l.giveUpKey
  let (text, c) ← blockScalar fold l.indent l.cursor
  return { l.took (.scalar (Text.Points.ofChars text) false, c) with allowKey := true }

/-- Whether a plain scalar can begin here. -/
def startsPlain (l : Lexer) (ch : Char) : Bool :=
  let indicators := "-?:,[]\x7b\x7d#&*!|>'\"%@".toList
  (!isBlankOrEnd (some ch) && !indicators.contains ch && ch.toNat != 0x60) ||
    (!isBlankOrEnd (l.cursor.peekAt 1) &&
      (ch == '-' || (l.flow == 0 && (ch == '?' || ch == ':'))))

/-- How many characters tell which token begins with a character. -/
def reach (l : Lexer) (ch : Char) : Nat :=
  if (ch == '-' || ch == '.') && l.cursor.column == 0 then
    l.cursor.separatorReach
  else if ch == '-' then 2
  else if ch == '?' || ch == ':' then (if l.flow == 0 then 2 else 1)
  else if ch == '%' then (if l.cursor.column == 0 then 1 else 2)
  else if ch == '|' || ch == '>' then (if l.flow == 0 then 1 else 2)
  else if ch == '\t' || ch == '@' || ch.toNat == 0x60 then 2
  else 1

/-- Adds the token that begins with a character. -/
def dispatch (l : Lexer) (ch : Char) : Except Problem Lexer :=
  let c := l.cursor
  let marksBlank := isBlankOrEnd (c.peekAt 1)
  if ch == '%' && c.column == 0 then do
    let l ← l.reset
    return l.took (← Token.ofDirective l.cursor)
  else if c.column == 0 && c.hasMarks '-' then do
    return (← l.reset).take .documentStart 3
  else if c.column == 0 && c.hasMarks '.' then do
    return (← l.reset).take .documentEnd 3
  else if ch == '[' then l.openFlow .flowSequenceStart
  else if ch == '\x7b' then l.openFlow .flowMappingStart
  else if ch == ']' then l.closeFlow .flowSequenceEnd
  else if ch == '\x7d' then l.closeFlow .flowMappingEnd
  else if ch == ',' then l.flowEntry
  else if ch == '-' && marksBlank then l.blockEntry
  else if ch == '?' && (l.flow != 0 || marksBlank) then l.keyMark
  else if ch == ':' && (l.flow != 0 || marksBlank) then l.valueMark
  else if ch == '*' then
    l.keyLike fun c => (Token.name c).map fun (name, c) => (.alias name, c)
  else if ch == '&' then
    l.keyLike fun c => (Token.name c).map fun (name, c) => (.anchor name, c)
  else if ch == '!' then l.keyLike Token.ofTag
  else if ch == '|' && l.flow == 0 then l.block false
  else if ch == '>' && l.flow == 0 then l.block true
  else if ch == '\'' then
    l.keyLike fun c => (quotedScalar false c).map fun (text, c) => (.scalar text false, c)
  else if ch == '"' then
    l.keyLike fun c => (quotedScalar true c).map fun (text, c) => (.scalar text false, c)
  else if l.startsPlain ch then l.plain
  else .error .malformed

/-- Goes on unless the text is cut within the next `n` characters. -/
def unlessCut (l : Lexer) (n : Nat) : Except Problem Lexer :=
  match l.cursor.cutWithin n with
  | some p => .error p
  | none => .ok l

def finish (l : Lexer) : Except Problem Lexer := do
  return { (← l.reset).push .streamEnd with ended := true }

/-- Adds the next token. -/
def next (l : Lexer) : Except Problem Lexer := do
  let l ← (skipBlanks (l.cursor.left + 1) l).unlessCut 1
  let l ← l.giveUpStale
  let l := l.unwind l.cursor.column
  match l.cursor.peek with
  | none => l.finish
  | some ch =>
    let l ← l.unlessCut (l.reach ch)
    (← l.dispatch ch).unlessCut 1

/-- Whether what is cut does not tell the next token yet: there is none, or it may be a key. -/
def isOpen (l : Lexer) : Bool := l.ahead.isEmpty || l.keys.any (·.2.position == l.passed)

/-- Adds tokens until the next one is settled. -/
def settle : (fuel : Nat) → Lexer → Except Problem Lexer
  | 0, l => .ok l
  | fuel + 1, l => do
    if l.ended then return l
    else
      let l ← if l.ahead.isEmpty then pure l else l.giveUpStale
      if l.isOpen then settle fuel (← l.next) else return l

/-- The next token; behind the last one it stays the last. -/
def peek (l : Lexer) : Except Problem (Token × Lexer) := do
  let l ← settle (l.cursor.left + 2) l
  return (l.ahead.head?.getD .streamEnd, l)

/-- Passes the next token, which must be settled. -/
def skip (l : Lexer) : Lexer := { l with passed := l.passed + 1, ahead := l.ahead.drop 1 }

/-- The start of a text. A byte order mark at its start is skipped. -/
def start (text : List Char) (cut : Option Problem) : Lexer :=
  let c := Cursor.start text cut
  { cursor := if c.peek.any fun ch => ch.toNat == 0xfeff then c.step else c }

end Lexer

end Checkup.Yaml
