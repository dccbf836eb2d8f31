import Checkup.Config
import Checkup.Yaml.Document

/-!
Settings from a file.

The file is YAML, which a loader reads. Its root is a mapping, or nothing, which counts as an empty
one. The settings stand under the key `diagnostics`, or at the root if there is no such key. A text
that the loader calls malformed is a bad setting; any other fault of the loader comes out as it is.
-/

namespace Checkup

namespace Config

inductive File where
  | missing
  | holding (bytes : ByteArray)

def sectionKey : String := "diagnostics"

/-- Settings from entries, the value of each standing at a node. -/
def ofNodes (d : Document) (entries : List (Value × NodeId)) :
    Except ConfigIssue Config :=
  ofEntries (entries.map fun (key, id) => (key, d.value id))

/-- Settings from the mapping at a document's root. -/
def ofRoot (d : Document) (root : List (Value × NodeId)) : Except ConfigIssue Config :=
  match root.find? fun entry => Value.sameKey entry.1 (.str sectionKey) with
  | none => ofNodes d root
  | some (_, id) =>
    match d.builtAt id with
    | .scalar .none => ofEntries []
    | .mapping entries => ofNodes d entries
    | _ => .error .sectionNotMapping

/-- Settings from a document. -/
def ofDocument (d : Document) : Except ConfigIssue Config :=
  match d.root with
  | none => ofEntries []
  | some id =>
    match d.builtAt id with
    | .scalar .none => ofEntries []
    | .mapping entries => ofRoot d entries
    | _ => .error (.notMapping (d.value id).typeName)

/-- Settings that were loaded; loading them is noted, so that they must be fit to be written. -/
def noted (c : Config) : Except Fault Config :=
  if c.toValue.isWritable then .ok c else .error .tooLongToWrite

/-- Settings from what a loader makes of the file at `path`. -/
def loadWith (loader : Loader) (path : String) : File → Except Fault Config
  | .missing =>
    .error (.because .fileNotFound s!"Diagnostics config not found: {path}")
  | .holding bytes =>
    match loader bytes with
    | .error .malformed => .error (ConfigIssue.malformed path).toFault
    | .error (.fault f) => .error f
    | .ok d => (ofDocument d).mapError ConfigIssue.toFault >>= noted

/-- Settings from the file at `path`. -/
def load (path : String) (file : File) : Except Fault Config := loadWith Yaml.loader path file

end Config

end Checkup
