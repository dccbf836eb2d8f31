import Checkup.Ordered
import Checkup.Yaml.Form
import Checkup.Yaml.Lexer

/-!
Nodes of a YAML document.

A document is a graph: its nodes stand in an arena in the order in which they were begun, and
refer to each other by their numbers, since an alias refers back to an anchored node, also to one
that is still open. `Composer` builds the arena from tokens, each of which is cut only when it is
needed, so the first problem of a text is the one that comes up. Every node has a tag; where the
text gives none, a plain scalar gets the one that its form asks for (`resolve`). Collections nest
only so deep (`maxNesting`).
-/

namespace Checkup.Yaml

inductive Content where
  | scalar (text : Text.Points)
  | sequence (items : List NodeId)
  | mapping (entries : List (NodeId × NodeId))
  deriving Repr

structure Node where
  tag : String
  content : Content
  deriving Repr

/-! ### Composing -/

/-- How deep collections can be nested. What bounds this is the stack of the interpreter; the number
is where that ends with nothing else on it. -/
def maxNesting : Nat := 490

/-- The text ahead, the nodes begun so far, the anchored ones by name, what the handles of tags
stand for, and how many collections are open. -/
structure Composer where
  lexer : Lexer
  nodes : Array Node := #[]
  anchors : Ordered NodeId := []
  handles : Ordered String := []
  depth : Nat := 0

/-- A step of composing. -/
abbrev Compose := StateT Composer (Except Problem)

namespace Compose

def commonHandles : Ordered String := [("!", "!"), ("!!", commonTag "")]

/-- The next token. -/
def peek : Compose Token := do
  let s ← get
  let (t, lexer) ← s.lexer.peek
  set { s with lexer }
  return t

def skip : Compose Unit := modify fun s => { s with lexer := s.lexer.skip }

/-- Composes what is inside one more collection. -/
def nested {α : Type} (inside : Compose α) : Compose α := do
  if maxNesting ≤ (← get).depth then throw (.fault .tooDeep)
  modify fun s => { s with depth := s.depth + 1 }
  let a ← inside
  modify fun s => { s with depth := s.depth - 1 }
  return a

def add (node : Node) : Compose NodeId :=
  modifyGet fun s => (s.nodes.size, { s with nodes := s.nodes.push node })

/-- Adds a node for a scalar that is left out. -/
def addEmpty : Compose NodeId := add ⟨resolve [], .scalar []⟩

def fill (id : NodeId) (content : Content) : Compose Unit :=
  modify fun s => { s with nodes := s.nodes.modify id fun node => { node with content } }

/-- Names a node, if it has an anchor. -/
def anchorAt (anchor : Option String) (id : NodeId) : Compose Unit :=
  match anchor with
  | none => pure ()
  | some name => modify fun s => { s with anchors := Ordered.put name id s.anchors }

/-- Reads an anchor and a tag in either order, both optional. -/
def properties : Compose (Option String × Option (Option String × String)) := do
  match ← peek with
  | .anchor name =>
    skip
    match ← peek with
    | .tag handle suffix => skip; return (some name, some (handle, suffix))
    | _ => return (some name, none)
  | .tag handle suffix =>
    skip
    match ← peek with
    | .anchor name => skip; return (some name, some (handle, suffix))
    | _ => return (none, some (handle, suffix))
  | _ => return (none, none)

/-- A tag with its handle replaced by what it stands for. -/
def fullTag : Option (Option String × String) → Compose (Option String)
  | none => return none
  | some (none, suffix) => return some suffix
  | some (some handle, suffix) => do
    match Ordered.get? handle (← get).handles with
    | some standsFor => return some (standsFor ++ suffix)
    | none => throw .malformed

def endsBlockItem : Token → Bool
  | .key | .value | .blockEnd => true
  | _ => false

def endsFlowEntry : Token → Bool
  | .flowEntry | .flowMappingEnd => true
  | _ => false

def endsFlowItem : Token → Bool
  | .flowEntry | .flowSequenceEnd => true
  | _ => false

def isValueMark : Token → Bool
  | .value => true
  | _ => false

/-- Passes the comma between two items, which must be next. -/
def separator : (next : Token) → Compose Unit
  | .flowEntry => skip
  | _ => throw .malformed

/-- The tag that holds where none, or the mark for none, is given. -/
def tagOr (tag : Option String) (default : String) : String :=
  match tag with
  | none => default
  | some "!" => default
  | some given => given

/-- A node that has properties but no content. -/
def omitted (anchor tag : Option String) : Compose NodeId := do
  if anchor.isNone && tag.isNone then throw .malformed
  let id ← add ⟨tagOr tag (resolve []), .scalar []⟩
  anchorAt anchor id
  return id

mutual

/-- Reads a node. Block collections are allowed if `block` is set, and a sequence that is not
indented if `loose` is. -/
def node : (fuel : Nat) → (block loose : Bool) → Compose NodeId
  | 0, _, _ => throw .malformed
  | fuel + 1, block, loose => do
    match ← peek with
    | .alias name =>
      skip
      match Ordered.get? name (← get).anchors with
      | some id => return id
      | none => throw .malformed
    | _ => content fuel block loose

/-- Reads a node that is no alias. -/
def content : (fuel : Nat) → (block loose : Bool) → Compose NodeId
  | 0, _, _ => throw .malformed
  | fuel + 1, block, loose => do
    let (anchor, written) ← properties
    let tag ← fullTag written
    let next ← peek
    let known := (← get).anchors
    if anchor.any fun name => Ordered.has known name then throw .malformed
    let sequence (items : Compose (List NodeId)) : Compose NodeId := do
      let id ← add ⟨tagOr tag (commonTag "seq"), .sequence []⟩
      anchorAt anchor id
      fill id (.sequence (← nested items))
      return id
    let mapping (entries : Compose (List (NodeId × NodeId))) : Compose NodeId := do
      let id ← add ⟨tagOr tag (commonTag "map"), .mapping []⟩
      anchorAt anchor id
      fill id (.mapping (← nested entries))
      return id
    match next with
    | .blockEntry =>
      if loose then sequence (looseItems fuel []) else omitted anchor tag
    | .scalar text isPlain =>
      skip
      let default := if isPlain || tag == some "!" then resolve text else commonTag "str"
      let id ← add ⟨tagOr tag default, .scalar text⟩
      anchorAt anchor id
      return id
    | .flowSequenceStart => skip; sequence (flowItems fuel true [])
    | .flowMappingStart => skip; mapping (flowEntries fuel true [])
    | .blockSequenceStart =>
      if block then do skip; sequence (blockItems fuel []) else omitted anchor tag
    | .blockMappingStart =>
      if block then do skip; mapping (blockEntries fuel []) else omitted anchor tag
    | _ => omitted anchor tag

/-- Reads the items of a block sequence and its end; `read` holds those so far, the last first. -/
def blockItems : (fuel : Nat) → (read : List NodeId) → Compose (List NodeId)
  | 0, _ => throw .malformed
  | fuel + 1, read => do
    match ← peek with
    | .blockEntry =>
      skip
      let item ← match ← peek with
        | .blockEntry | .blockEnd => addEmpty
        | _ => node fuel true false
      blockItems fuel (item :: read)
    | .blockEnd => skip; return read.reverse
    | _ => throw .malformed

/-- Reads the items of a sequence that is not indented; what is no item ends it. -/
def looseItems : (fuel : Nat) → (read : List NodeId) → Compose (List NodeId)
  | 0, _ => throw .malformed
  | fuel + 1, read => do
    match ← peek with
    | .blockEntry =>
      skip
      let item ← match ← peek with
        | .blockEntry | .key | .value | .blockEnd => addEmpty
        | _ => node fuel true false
      looseItems fuel (item :: read)
    | _ => return read.reverse

/-- Reads the entries of a block mapping and its end. -/
def blockEntries : (fuel : Nat) → (read : List (NodeId × NodeId)) →
    Compose (List (NodeId × NodeId))
  | 0, _ => throw .malformed
  | fuel + 1, read => do
    match ← peek with
    | .key =>
      skip
      let key ← if endsBlockItem (← peek) then addEmpty else node fuel true true
      let value ← blockValue fuel
      blockEntries fuel ((key, value) :: read)
    | .blockEnd => skip; return read.reverse
    | _ => throw .malformed

/-- Reads the value of an entry of a block mapping, which may be left out. -/
def blockValue : (fuel : Nat) → Compose NodeId
  | 0 => throw .malformed
  | fuel + 1 => do
    match ← peek with
    | .value =>
      skip
      if endsBlockItem (← peek) then addEmpty else node fuel true true
    | _ => addEmpty

/-- Reads a key of a flow collection and its value, either of which may be left out; `ends` tells
what ends an item. -/
def flowPair : (fuel : Nat) → (ends : Token → Bool) → Compose (NodeId × NodeId)
  | 0, _ => throw .malformed
  | fuel + 1, ends => do
    let next ← peek
    let key ← if isValueMark next || ends next then addEmpty else node fuel false false
    match ← peek with
    | .value =>
      skip
      let value ← if ends (← peek) then addEmpty else node fuel false false
      return (key, value)
    | _ => return (key, ← addEmpty)

/-- Reads the items of a flow sequence and its end. An item with a key is a mapping of one
entry. -/
def flowItems : (fuel : Nat) → (first : Bool) → (read : List NodeId) → Compose (List NodeId)
  | 0, _, _ => throw .malformed
  | fuel + 1, first, read => do
    match ← peek with
    | .flowSequenceEnd => skip; return read.reverse
    | next =>
      unless first do separator next
      match ← peek with
      | .flowSequenceEnd => skip; return read.reverse
      | .key =>
        skip
        let id ← add ⟨commonTag "map", .mapping []⟩
        let entry ← nested (flowPair fuel endsFlowItem)
        fill id (.mapping [entry])
        flowItems fuel false (id :: read)
      | _ =>
        let item ← node fuel false false
        flowItems fuel false (item :: read)

/-- Reads the entries of a flow mapping and its end. -/
def flowEntries : (fuel : Nat) → (first : Bool) → (read : List (NodeId × NodeId)) →
    Compose (List (NodeId × NodeId))
  | 0, _, _ => throw .malformed
  | fuel + 1, first, read => do
    match ← peek with
    | .flowMappingEnd => skip; return read.reverse
    | next =>
      unless first do separator next
      match ← peek with
      | .flowMappingEnd => skip; return read.reverse
      | .key =>
        skip
        let entry ← flowPair fuel endsFlowEntry
        flowEntries fuel false (entry :: read)
      | _ =>
        let key ← node fuel false false
        let value ← addEmpty
        flowEntries fuel false ((key, value) :: read)

end

/-! ### Documents -/

/-- Reads the directives of a document: what they say of handles. -/
def directives : (fuel : Nat) → (versioned : Bool) → Ordered String → Compose (Ordered String)
  | 0, _, _ => throw .malformed
  | fuel + 1, versioned, handles => do
    match ← peek with
    | .directive (.version major _) =>
      skip
      if versioned || major != 1 then throw .malformed else directives fuel true handles
    | .directive (.tagHandle handle standsFor) =>
      skip
      if Ordered.has handles handle then throw .malformed
      else directives fuel versioned (Ordered.put handle standsFor handles)
    | .directive .other => skip; directives fuel versioned handles
    | _ => return handles

/-- The handles of a document: its own, and the common ones it does not redefine. -/
def withCommon (handles : Ordered String) : Ordered String :=
  handles ++ commonHandles.filter fun entry => !Ordered.has handles entry.1

/-- Reads the head of a document that is marked as one: directives and the mark for the start. -/
def head (fuel : Nat) : Compose Unit := do
  let handles ← directives fuel false []
  modify fun s => { s with handles := withCommon handles }
  match ← peek with
  | .documentStart => skip
  | _ => throw .malformed

/-- Passes the marks for the end of a document. -/
def skipEnds : (fuel : Nat) → Compose Unit
  | 0 => throw .malformed
  | fuel + 1 => do
    match ← peek with
    | .documentEnd => skip; skipEnds fuel
    | _ => return

/-- Reads the root of a marked document, which may be left out. -/
def markedRoot (fuel : Nat) : Compose NodeId := do
  match ← peek with
  | .directive _ | .documentStart | .documentEnd | .streamEnd => addEmpty
  | _ => node fuel true false

/-- Reads the only document of a text; a text without any has no root. Of a second document the
head is looked at before it is refused. -/
def document (fuel : Nat) : Compose (Option NodeId) := do
  match ← peek with
  | .streamEnd => return none
  | first =>
    let root ← match first with
      | .directive _ | .documentStart => do head fuel; markedRoot fuel
      | _ => do
        modify fun s => { s with handles := commonHandles }
        node fuel true false
    skipEnds fuel
    match ← peek with
    | .streamEnd => return some root
    | _ =>
      head fuel
      throw .malformed

end Compose

/-- The nodes of a text's only document, and which of them is its root. No character begins more
than a few tokens, which bounds the steps. -/
def nodesOf (text : List Char) (cut : Option Problem) :
    Except Problem (Array Node × Option NodeId) := do
  let lexer := Lexer.start text cut
  let (root, composer) ← (Compose.document (64 * (lexer.cursor.size + 2))).run { lexer }
  return (composer.nodes, root)

end Checkup.Yaml
