import Checkup.Value.Slots
import Checkup.Yaml.Literal
import Checkup.Yaml.Source

/-!
The values of a YAML document.

The nodes of a document are a graph, in which a collection may contain itself. `Build` makes the
value of each node that the root reaches, once: scalars as soon as they are met, collections empty
at first and filled in the order in which they were met. So a value that is shared stays shared,
and of several problems the first in that order is reported.

A mapping may take over the entries of others (`flatten`): those of the first mapping named win over
those of later ones, and its own entries win over all.
-/

namespace Checkup.Yaml

/-- The nodes with the values made so far, the collections that are to be filled, those met
meanwhile, the last one first, and the number of keys that take over entries. -/
structure Building where
  nodes : Array Node
  built : Array (Option Built)
  pending : List NodeId := []
  met : List NodeId := []
  merges : Nat

/-- A step of building. -/
abbrev Build := StateT Building (Except Problem)

abbrev NodeEntry := NodeId × NodeId

namespace Build

/-- What a node holds; nothing for a number that no node has. -/
def contentOf (id : NodeId) : Build Content := do
  return ((← get).nodes[id]?.map Node.content).getD (.scalar [])

def tagOf (id : NodeId) : Build String := do
  return ((← get).nodes[id]?.map Node.tag).getD ""

/-- The entries of a mapping node. -/
def entriesOf (id : NodeId) : Build (List NodeEntry) := do
  match ← contentOf id with
  | .mapping entries => return entries
  | _ => return []

def setEntries (id : NodeId) (entries : List NodeEntry) : Build Unit :=
  modify fun s =>
    { s with nodes := s.nodes.modify id fun node => { node with content := .mapping entries } }

def setTag (id : NodeId) (tag : String) : Build Unit :=
  modify fun s => { s with nodes := s.nodes.modify id fun node => { node with tag } }

/-- Makes a fault the problem. -/
def orFault {α : Type} : Except Fault α → Build α
  | .ok a => return a
  | .error f => throw (.fault f)

/-! ### Entries taken over -/

/-- The tag of a key whose value's entries are taken over. -/
def mergeTag : String := commonTag "merge"

/-- The tag of the key whose value stands for the whole mapping. -/
def valueTag : String := commonTag "value"

/-- The first key from `index` on that takes over entries, with its value. The keys before it that
would stand for the whole mapping become plain text. -/
def nextMerge (index : Nat) : List NodeEntry → Build (Option (Nat × NodeId))
  | [] => return none
  | (key, value) :: rest => do
    let tag ← tagOf key
    if tag == mergeTag then return some (index, value)
    else
      if tag == valueTag then setTag key (commonTag "str")
      nextMerge (index + 1) rest

/-- Takes over the entries that the keys of a mapping from `index` on ask for, `taken` being those
of the keys before. Each round takes one such key away, so their number bounds the rounds. -/
def flatten : (fuel : Nat) → NodeId → (index : Nat) → (taken : List NodeEntry) → Build Unit
  | 0, _, _, _ => throw .malformed
  | fuel + 1, id, index, taken => do
    match ← nextMerge index ((← entriesOf id).drop index) with
    | none => unless taken.isEmpty do setEntries id (taken ++ (← entriesOf id))
    | some (place, source) =>
      setEntries id ((← entriesOf id).eraseIdx place)
      let entries ← match ← contentOf source with
        | .mapping _ =>
          flatten fuel source 0 []
          entriesOf source
        | .sequence items =>
          let parts ← items.mapM fun item => do
            match ← contentOf item with
            | .mapping _ =>
              flatten fuel item 0 []
              entriesOf item
            | _ => throw .malformed
          pure parts.reverse.flatten
        | .scalar _ => throw .malformed
      flatten fuel id place (taken ++ entries)

/-! ### Values of nodes -/

/-- The text of a scalar; of a mapping, that of the value which stands for the whole. A mapping may
stand for itself in this way, which is followed only so deep. -/
def textOf : (fuel : Nat) → NodeId → Build Text.Points
  | 0, _ => throw (.fault .tooDeep)
  | fuel + 1, id => do
    match ← contentOf id with
    | .scalar text => return text
    | .sequence _ => throw .malformed
    | .mapping entries =>
      match ← entries.findM? fun entry => return (← tagOf entry.1) == valueTag with
      | some (_, value) => textOf fuel value
      | none => throw .malformed

def text (id : NodeId) : Build Text.Points := do textOf ((← get).nodes.size + 1) id

/-- A date needs a scalar of its own. -/
def stampText (id : NodeId) : Build Text.Points := do
  let text ← text id
  match ← contentOf id with
  | .scalar _ => return text
  | _ =>
    throw (.fault (.because .typeError "expected string or bytes-like object, got 'list'"))

/-- The value of a node as far as it is known at once. -/
def begun (id : NodeId) : Schema → Build Built
  | .null => do let _ ← text id; return .scalar .none
  | .str => return .scalar (.ofPoints (← text id))
  | .bool => do return .scalar (.bool (← orFault (Literal.truth (← text id))))
  | .int => do return .scalar (.int (← orFault (Literal.int (← text id))))
  | .float => do return .scalar (.float (← orFault (Literal.float (← text id))))
  | .timestamp => do return .scalar (← orFault (Literal.stamp (← stampText id)))
  | .binary => do return .scalar (← Literal.bytes (← text id))
  | .seq => return .list []
  | .orderedMap | .pairs => return .pairs []
  | .map => return .mapping []
  | .set => return .set []

def keep (id : NodeId) (b : Built) : Build Unit :=
  modify fun s => { s with built := s.built.setIfInBounds id (some b) }

/-- Whether a kind of value is filled later. -/
def isCollection : Schema → Bool
  | .seq | .orderedMap | .pairs | .map | .set => true
  | _ => false

/-- Makes the value of a node, unless it is there already. -/
def construct (id : NodeId) : Build Built := do
  match ((← get).built[id]?).join with
  | some b => return b
  | none =>
    match Schema.ofTag? (← tagOf id) with
    | none => throw .malformed
    | some schema =>
      let b ← begun id schema
      keep id b
      if isCollection schema then modify fun s => { s with met := id :: s.met }
      return b

/-- A key of a mapping. What is not a number equals only itself: it is one and the same wherever it
is spelled as usual, and otherwise belongs to the node `origin`. -/
structure Key where
  value : Value
  origin : Option NodeId

def isNaN : Value → Bool
  | .float x => x.isNaN
  | _ => false

/-- The node that a key which is not a number belongs to; none where it is spelled as usual. -/
def originOf (id : NodeId) : Build (Option NodeId) := do
  match Literal.signedReal (← text id) with
  | .ok (_, size) => return if Literal.isUsualNaN size then none else some id
  | .error _ => return some id

/-- The key that a node's value makes. -/
def keyOf (id : NodeId) (value : Value) : Build Key := do
  return { value, origin := ← if isNaN value then originOf id else pure none }

/-- Keys are equal as values are. -/
def Key.same (a b : Key) : Bool :=
  Value.sameKey a.value b.value || (isNaN a.value && isNaN b.value && a.origin == b.origin)

/-- Puts an entry as `Value.insertEntry` does. -/
def insertEntry (key : Key) (value : NodeId) : List (Key × NodeId) → List (Key × NodeId)
  | [] => [(key, value)]
  | (k, v) :: rest =>
    if k.same key then (k, value) :: rest else (k, v) :: insertEntry key value rest

/-- The entries of a mapping: only scalars can be keys. -/
def entries (id : NodeId) : Build (List (Value × NodeId)) := do
  match ← contentOf id with
  | .mapping _ =>
    flatten ((← get).merges + 1) id 0 []
    let built ← (← entriesOf id).foldlM (fun built (key, value) => do
      match ← construct key with
      | .scalar k =>
        let _ ← construct value
        return insertEntry (← keyOf key k) value built
      | _ => throw .malformed) []
    return built.map fun (key, value) => (key.value, value)
  | _ => throw .malformed

/-- The pairs of a sequence of mappings with one entry each. -/
def pairs (id : NodeId) : Build (List NodeEntry) := do
  match ← contentOf id with
  | .sequence items =>
    items.mapM fun item => do
      match ← contentOf item with
      | .mapping [(key, value)] =>
        let _ ← construct key
        let _ ← construct value
        return (key, value)
      | _ => throw .malformed
  | _ => throw .malformed

/-- Fills a collection. -/
def fill (id : NodeId) : Build Unit := do
  match ((← get).built[id]?).join with
  | some (.list _) =>
    match ← contentOf id with
    | .sequence items =>
      items.forM fun item => do let _ ← construct item
      keep id (.list items)
    | _ => throw .malformed
  | some (.pairs _) => keep id (.pairs (← pairs id))
  | some (.mapping _) => keep id (.mapping (← entries id))
  | some (.set _) => keep id (.set (Value.inSlots ((← entries id).map (·.1))))
  | _ => return

/-- Fills the pending collections, and those that come up meanwhile, in order. -/
def fillAll : (fuel : Nat) → Build Unit
  | 0 => return
  | fuel + 1 => do
    match (← get).pending, (← get).met with
    | [], [] => return
    | [], met =>
      modify fun s => { s with pending := met.reverse, met := [] }
      fillAll fuel
    | id :: rest, _ =>
      modify fun s => { s with pending := rest }
      fill id
      fillAll fuel

end Build

/-! ### Documents -/

/-- The number of keys that take over entries, in all mappings. -/
def mergeCount (nodes : Array Node) : Nat :=
  let isMerge (key : NodeId) : Bool := nodes[key]?.any fun node => node.tag == Build.mergeTag
  nodes.foldl (fun count node => match node.content with
    | .mapping entries => count + entries.countP fun entry => isMerge entry.1
    | _ => count) 0

/-- Reads a text. -/
def documentOf (source : Source) : Except Problem Document := do
  let (nodes, root) ← nodesOf source.text source.cut
  match root with
  | none => return { built := #[], root }
  | some id =>
    let building : Building :=
      { nodes, built := Array.replicate nodes.size none, merges := mergeCount nodes }
    let build : Build Unit := do
      let _ ← Build.construct id
      Build.fillAll (2 * nodes.size + 1)
    let (_, done) ← build.run building
    return { built := done.built, root }

/-- Reads the bytes of a file. -/
def loader : Loader := fun bytes => documentOf (.ofReading (.ofBytes bytes))

end Checkup.Yaml
