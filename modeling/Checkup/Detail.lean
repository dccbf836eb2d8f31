import Checkup.Fault

/-!
Details: the mapping that a check returns, validated and copied.

Keys are text; values are text, numbers, truth values, and mappings and sequences of these. The
copy has plain mappings for mappings of either kind and lists for tuples. What is refused is named
by its place: `a.b` is the entry `b` of the mapping at `a`, `a[2]` the third item of the sequence
there.

Main statement: `normalize_none` (no mapping at all counts as an empty one).
-/

namespace Checkup

/-- Why a value cannot serve as details. -/
inductive DetailIssue where
  | notMapping (typeName : String)
  | keyNotText (key : Value) (path : String)
  | unsupported (typeName path : String)
  deriving Repr

namespace DetailIssue

def message : DetailIssue → String
  | notMapping name => s!"diagnostic returned {name}, expected a mapping of details"
  | keyNotText key path =>
    s!"detail key {key.shown} at '" ++ (if path.isEmpty then "." else path) ++
      "' is not a string"
  | unsupported name path => s!"unsupported detail value type {name} for '{path}'"

def isWritable : DetailIssue → Bool
  | keyNotText key _ => key.isWritable
  | notMapping _ | unsupported .. => true

/-- The fault of an issue; if its message cannot be written, the fault of that. -/
def toFault (issue : DetailIssue) : Fault :=
  if issue.isWritable then .because .typeError issue.message else .tooLongToWrite

end DetailIssue

namespace Detail

/-- The place of an entry in the mapping at `path`. -/
def entryPath (path key : String) : String := if path.isEmpty then key else s!"{path}.{key}"

/-- The place of an item in the sequence at `path`. -/
def itemPath (path : String) (index : Nat) : String := s!"{path}[{index}]"

/-- The name in a place of a key, which must be text, of the mapping at `path`. -/
def keyName (path : String) : Value → Except DetailIssue String
  | .str key => .ok key
  | .ragged key => .ok key.points.lossy
  | other => .error (.keyNotText other path)

mutual

/-- Copies the value at `path`. The stack that nested values need is left out: there is no bound on
how deep they may be nested. -/
def copy (path : String) : Value → Except DetailIssue Value
  | .str s => .ok (.str s)
  | .ragged r => .ok (.ragged r)
  | .int n => .ok (.int n)
  | .bool b => .ok (.bool b)
  | .float x => .ok (.float x)
  | .mapping entries => (copyEntries path entries).map .mapping
  | .view entries => (copyEntries path entries).map .mapping
  | .list items => (copyItems path 0 items).map .list
  | .tuple items => (copyItems path 0 items).map .list
  | other => .error (.unsupported other.typeName path)

/-- Copies the items of the sequence at `path` from the one with a given index on. -/
def copyItems (path : String) (index : Nat) : List Value → Except DetailIssue (List Value)
  | [] => .ok []
  | item :: rest => do
    let copied ← copy (itemPath path index) item
    let others ← copyItems path (index + 1) rest
    return copied :: others

/-- Copies the entries of the mapping at `path`; a key is looked at before its own value. -/
def copyEntries (path : String) : List (Value × Value) →
    Except DetailIssue (List (Value × Value))
  | [] => .ok []
  | (key, value) :: rest => do
    let name ← keyName path key
    let copied ← copy (entryPath path name) value
    let others ← copyEntries path rest
    return (key, copied) :: others

end

/-- Validates and copies what a check returned. -/
def normalize : Value → Except DetailIssue Value
  | .none => .ok (.mapping [])
  | .mapping entries => (copyEntries "" entries).map .mapping
  | .view entries => (copyEntries "" entries).map .mapping
  | other => .error (.notMapping other.typeName)

theorem normalize_none : normalize .none = .ok (.mapping []) := rfl

end Detail

end Checkup
