import Checkup.Value

/-!
The text of values: `shown` writes a value so that its kind can be told, with quotes around
strings; `text` writes a string as it is. Whole numbers are written with at most `maxDigits` digits;
`isWritable` says whether a value keeps to that.
-/

namespace Checkup.Value

def bracketed (before after : String) (items : List String) : String :=
  before ++ ", ".intercalate items ++ after

/-- A span of days and seconds, the seconds counted forward within the day. -/
def shownSpan (seconds : Int) : String :=
  let days := seconds / 86400
  let rest := seconds % 86400
  let parts := (if days = 0 then [] else [s!"days={days}"]) ++
    (if rest = 0 then [] else [s!"seconds={rest}"])
  bracketed "datetime.timedelta(" ")" (if parts.isEmpty then ["0"] else parts)

def shownOffset (seconds : Int) : String :=
  if seconds = 0 then "datetime.timezone.utc" else s!"datetime.timezone({shownSpan seconds})"

/-- A moment by its parts; seconds and microseconds are left off from the end while they are
zero. -/
def shownMoment (m : Moment) : String :=
  let parts := [m.date.year, m.date.month, m.date.day, m.hour, m.minute]
  let rest :=
    if m.microsecond ≠ 0 then [m.second, m.microsecond]
    else if m.second ≠ 0 then [m.second] else []
  bracketed "datetime.datetime(" ")" ((parts ++ rest).map toString ++
    m.offset.elim [] fun offset => [s!"tzinfo={shownOffset offset}"])

mutual

/-- A value with its kind showing. -/
def shown : Value → String
  | .none => "None"
  | .bool b => if b then "True" else "False"
  | .int n => toString n
  | .float x => Decimal.text x
  | .str s => Text.quoted s
  | .ragged r => Text.quotedPoints r.points
  | .bytes bs => Text.quotedBytes bs
  | .date d => s!"datetime.date({d.year}, {d.month}, {d.day})"
  | .moment m => shownMoment m
  | .list items => bracketed "[" "]" (shownAll items)
  | .tuple [item] => bracketed "(" ",)" [shown item]
  | .tuple items => bracketed "(" ")" (shownAll items)
  | .set [] => "set()"
  | .set members => bracketed "\x7b" "\x7d" (shownAll members)
  | .mapping entries => bracketed "\x7b" "\x7d" (shownEntries entries)
  | .view entries => "mappingproxy(" ++ bracketed "\x7b" "\x7d" (shownEntries entries) ++ ")"
  | .foreign name => "<" ++ name ++ " object>"
  | .withinList => "[...]"
  | .withinMapping => "\x7b...\x7d"

def shownAll : List Value → List String
  | [] => []
  | item :: rest => shown item :: shownAll rest

def shownEntries : List (Value × Value) → List String
  | [] => []
  | (key, value) :: rest => (shown key ++ ": " ++ shown value) :: shownEntries rest

end

/-- A value as plain text: strings as they are, dates and moments in their usual form, and a mapping
by its entries, however it is held. -/
def text : Value → String
  | .str s => s
  | .ragged r => r.points.lossy
  | .date d => d.text
  | .moment m => m.textWith " "
  | .view entries => shown (.mapping entries)
  | v => shown v

/-! ### Long numbers -/

/-- The most digits that a whole number is written or read with. -/
def maxDigits : Nat := 4300

def isShort (n : Int) : Bool := n.natAbs < pow10 maxDigits

mutual

/-- Whether every whole number in a value can be written. -/
def isWritable : Value → Bool
  | .int n => isShort n
  | .list items | .tuple items | .set items => areWritable items
  | .mapping entries | .view entries => areEntriesWritable entries
  | _ => true

def areWritable : List Value → Bool
  | [] => true
  | item :: rest => isWritable item && areWritable rest

def areEntriesWritable : List (Value × Value) → Bool
  | [] => true
  | (key, value) :: rest => isWritable key && isWritable value && areEntriesWritable rest

end

end Checkup.Value
