import Checkup.Text.Utf8

/-!
Reading a text file in portions.

Whoever reads a long text from a file gets it portion by portion, so what is wrong with its bytes
shows only when the portion that needs them is asked for. The bytes are fetched in chunks, larger
ones where characters have taken many bytes so far, and decoded chunk by chunk. Line breaks of every
system count as line feeds; a carriage return at the end of a chunk waits for what follows.

Main definition: `Reading.ofBytes`.
-/

namespace Checkup.Text

/-- The portions that could be read, and whether reading failed behind them. -/
structure Reading where
  portions : List (List Char)
  failed : Bool

namespace Reading

def portionSize : Nat := 4096

/-- The least bytes that are fetched at once, where there are as many. -/
def chunkSize : Nat := 8192

/-- Text with a line feed for each line break. -/
def withLineFeeds : List Char → List Char
  | [] => []
  | '\r' :: '\n' :: rest => '\n' :: withLineFeeds rest
  | c :: rest => (if c = '\r' then '\n' else c) :: withLineFeeds rest

/-- The state between portions: the bytes ahead, the character left unfinished by those behind,
whether a carriage return waits, the characters that are decoded and not yet read, and how many
bytes and characters the last chunk had. -/
structure State where
  ahead : List UInt8
  opened : Option OpenChar := none
  waiting : Bool := false
  ready : List Char := []
  lastBytes : Nat := 0
  lastChars : Nat := 0

/-- How many bytes are asked for where some characters are wanted. -/
def State.request (s : State) (wanted : Nat) : Nat :=
  if s.lastChars = 0 then chunkSize else max chunkSize (wanted * s.lastBytes / s.lastChars)

/-- Takes the characters of a chunk, the last one of the file being empty. -/
def State.accept (s : State) (atEnd : Bool) (decoded : List Char) : State :=
  let held := s.waiting && (atEnd || !decoded.isEmpty)
  let decoded := if held then '\r' :: decoded else decoded
  let waits := !atEnd && decoded.getLast? == some '\r'
  let ready := withLineFeeds (if waits then decoded.dropLast else decoded)
  { s with ready, waiting := waits || (s.waiting && !held), lastChars := ready.length }

/-- Fetches a chunk and decodes it; says whether there was anything. `none` where that fails. -/
def State.fetch (s : State) (wanted : Nat) : Option (Bool × State) :=
  let chunk := s.ahead.take (s.request wanted)
  if chunk.isEmpty then
    if s.opened.isSome then none
    else
      let s := { s with lastBytes := 0 }.accept true []
      some (!s.ready.isEmpty, s)
  else
    (decode s.opened chunk).map fun (decoded, opened) =>
      let s := { s with ahead := s.ahead.drop chunk.length, opened, lastBytes := chunk.length }
      (true, s.accept false decoded)

/-- Reads a portion of so many characters, fetching at most `fuel` chunks. -/
def State.portion : (fuel wanted : Nat) → State → Option (List Char × State)
  | 0, wanted, s => some (s.ready.take wanted, { s with ready := s.ready.drop wanted })
  | fuel + 1, wanted, s =>
    let taken := s.ready.take wanted
    let s := { s with ready := s.ready.drop wanted }
    if taken.length = wanted then some (taken, s)
    else
      match s.fetch (wanted - taken.length) with
      | none => none
      | some (false, s) => some (taken, s)
      | some (true, s) =>
        (portion fuel (wanted - taken.length) s).map fun (more, s) => (taken ++ more, s)

/-- Reads portions up to the end or to a failure, at most `fuel` of them. -/
def State.portions : (fuel : Nat) → State → Reading
  | 0, _ => { portions := [], failed := false }
  | fuel + 1, s =>
    match s.portion (s.ahead.length + 2) portionSize with
    | none => { portions := [], failed := true }
    | some ([], _) => { portions := [], failed := false }
    | some (portion, s) =>
      let others := portions fuel s
      { others with portions := portion :: others.portions }

/-- Reads bytes as text. Every portion but the last is full, which bounds their number. -/
def ofBytes (bytes : ByteArray) : Reading :=
  State.portions (bytes.size / portionSize + 2) { ahead := bytes.toList }

end Reading

end Checkup.Text
