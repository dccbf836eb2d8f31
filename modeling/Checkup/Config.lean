import Checkup.Fault

/-!
Settings for running checks: how many may run at once, and the deadline of each.

`Config.make` validates the two settings, the first before the second; `Config.ofEntries` also
refuses unknown keys and does so first. A number of seconds may be whole or not, and one that is
not a number at all compares with nothing, so it is let through.
-/

namespace Checkup

/-- Settings for running checks. -/
structure Config where
  maxWorkers : Int
  timeout : Value.Number
  deriving DecidableEq, Repr

/-- Why settings are refused. -/
inductive ConfigIssue where
  | unknownKeys (keys : List Value)
  | workersNotWhole (given : Value)
  | workersTooFew (given : Int)
  | timeoutNotNumber (given : Value)
  | timeoutNotPositive (given : Value)
  | notMapping (typeName : String)
  | sectionNotMapping
  | malformed (path : String)
  deriving Repr

namespace ConfigIssue

def message : ConfigIssue → String
  | unknownKeys keys =>
    "Unknown diagnostics config keys: " ++ ", ".intercalate (Text.sorted (keys.map Value.text))
  | workersNotWhole given => s!"max_workers must be an integer, got {given.shown}"
  | workersTooFew given => s!"max_workers must be at least 1, got {given}"
  | timeoutNotNumber given => s!"timeout_seconds must be a number, got {given.shown}"
  | timeoutNotPositive given => s!"timeout_seconds must be positive, got {given.text}"
  | notMapping name => s!"Diagnostics config must be a mapping, got {name}"
  | sectionNotMapping => "'diagnostics' section must be a mapping"
  | malformed path => s!"Invalid YAML in {path}"

/-- The values that a message shows. -/
def shows : ConfigIssue → List Value
  | unknownKeys keys => keys
  | workersTooFew given => [.int given]
  | workersNotWhole given | timeoutNotNumber given | timeoutNotPositive given => [given]
  | _ => []

/-- The fault of an issue; if its message cannot be written, the fault of that. -/
def toFault (issue : ConfigIssue) : Fault :=
  if issue.shows.all Value.isWritable then .because .configError issue.message
  else .tooLongToWrite

end ConfigIssue

namespace Config

def workersKey : String := "max_workers"

def timeoutKey : String := "timeout_seconds"

def default : Config := { maxWorkers := 5, timeout := .real 5.0 }

def numberValue : Value.Number → Value
  | .whole n => .int n
  | .real x => .float x

/-- Validates the count of workers: a whole number, not a truth value, of at least 1. -/
def checkWorkers : Value → Except ConfigIssue Int
  | .int n => if n < 1 then .error (.workersTooFew n) else .ok n
  | other => .error (.workersNotWhole other)

/-- Validates the deadline: a number, not a truth value, that is not 0 or below. -/
def checkTimeout (given : Value) : Except ConfigIssue Value.Number :=
  match given with
  | .int n => positive (.whole n)
  | .float x => positive (.real x)
  | other => .error (.timeoutNotNumber other)
where
  positive (seconds : Value.Number) : Except ConfigIssue Value.Number :=
    if seconds.le (.whole 0) then .error (.timeoutNotPositive given) else .ok seconds

/-- Validates both settings. -/
def make (workers timeout : Value) : Except ConfigIssue Config := do
  let maxWorkers ← checkWorkers workers
  let timeout ← checkTimeout timeout
  return { maxWorkers, timeout }

/-- Settings from given values, the default for each that is missing. -/
def ofSettings (workers timeout : Option Value) : Except ConfigIssue Config :=
  make (workers.getD (.int default.maxWorkers)) (timeout.getD (numberValue default.timeout))

/-- Whether a key is the name of a setting. -/
def isKnown : Value → Bool
  | .str key => key == workersKey || key == timeoutKey
  | _ => false

def unknownKeys (entries : List (Value × Value)) : List Value :=
  (entries.map (·.1)).filter fun key => !isKnown key

/-- Settings from the entries of a mapping. -/
def ofEntries (entries : List (Value × Value)) : Except ConfigIssue Config :=
  match unknownKeys entries with
  | [] => ofSettings (Value.lookup? workersKey entries) (Value.lookup? timeoutKey entries)
  | keys => .error (.unknownKeys keys)

/-! ### Any value in place of a mapping -/

def charactersOf (text : Text.Points) : List Value := text.map fun point => .ofPoints [point]

/-- What is met in going through a value. -/
def membersOf : Value → Except Fault (List Value)
  | .list items | .tuple items | .set items => .ok items
  | .str s => .ok (charactersOf (.ofString s))
  | .ragged r => .ok (charactersOf r.points)
  | .bytes bs => .ok (bs.map fun b => .int b.toNat)
  | .mapping entries | .view entries => .ok (entries.map (·.1))
  | other => .error (.because .typeError s!"'{other.typeName}' object is not iterable")

mutual

/-- The type of the first part of a value that cannot be a key. -/
def unfitKey? : Value → Option String
  | .tuple items => unfitAmong? items
  | .list _ => some "list"
  | .set _ => some "set"
  | .mapping _ => some "dict"
  | .view _ => some "mappingproxy"
  | _ => none

/-- The type of the first part of some values that cannot be a key. -/
def unfitAmong? : List Value → Option String
  | [] => none
  | item :: rest => unfitKey? item <|> unfitAmong? rest

end

/-- Settings from a value, which should be a mapping. Anything that can be gone through is taken for
keys first, so unknown ones among them come up before it turns out that they have no values. -/
def ofValue (v : Value) : Except Fault Config :=
  match v.entries? with
  | some entries => (ofEntries entries).mapError ConfigIssue.toFault
  | none => do
    let keys ← membersOf v
    match unfitAmong? keys, unknownKeys ((Value.ofEntries (keys.map (·, .none)))), keys with
    | some name, _, _ => throw (.because .typeError s!"unhashable type: '{name}'")
    | none, [], [] => (ofEntries []).mapError ConfigIssue.toFault
    | none, [], first :: _ =>
      throw (.because .valueError ("dictionary update sequence element #0 has length " ++
        toString first.text.length ++ "; 2 is required"))
    | none, unknown, _ => throw (ConfigIssue.unknownKeys unknown).toFault

/-! ### Settings as a mapping -/

/-- Settings as the entries of a mapping. -/
def toEntries (c : Config) : List (Value × Value) :=
  [(.str workersKey, .int c.maxWorkers), (.str timeoutKey, numberValue c.timeout)]

def toValue (c : Config) : Value := .mapping c.toEntries

end Config

end Checkup
