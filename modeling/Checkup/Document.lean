import Checkup.Fault

/-!
Documents as a loader hands them over.

The values of a document are a graph: one value may be a part of several others, and a collection
may contain itself. `Document.value` unfolds a value from a node; where a collection is met again
inside itself, a mark stands for it.
-/

namespace Checkup

abbrev NodeId := Nat

/-- The value of a node, the parts of collections standing for themselves by their nodes. -/
inductive Built where
  | scalar (v : Value)
  | list (items : List NodeId)
  | pairs (items : List (NodeId × NodeId))
  | mapping (entries : List (Value × NodeId))
  | set (members : List Value)
  deriving Repr, Inhabited

/-- The values of a document by their nodes; an empty text has no root. -/
structure Document where
  built : Array (Option Built)
  root : Option NodeId

namespace Document

def builtAt (d : Document) (id : NodeId) : Built := (d.built[id]?).join.getD (.scalar .none)

/-- Unfolds a value, `within` being the collections around it. -/
def unfold (d : Document) : (fuel : Nat) → (within : List NodeId) → NodeId → Value
  | 0, _, _ => .withinList
  | fuel + 1, within, id =>
    let inner := unfold d fuel (id :: within)
    match d.builtAt id with
    | .scalar v => v
    | .set members => .set members
    | .list items => if within.contains id then .withinList else .list (items.map inner)
    | .pairs items =>
      if within.contains id then .withinList
      else .list (items.map fun (key, value) => .tuple [inner key, inner value])
    | .mapping entries =>
      if within.contains id then .withinMapping
      else .mapping (entries.map fun (key, value) => (key, inner value))

/-- The value of a node, unfolded from there. No path enters more collections than there are. -/
def value (d : Document) (id : NodeId) : Value := d.unfold (d.built.size + 1) [] id

end Document

/-- Why a text cannot be loaded: it is not well formed, or a value in it raised a fault. -/
inductive Problem where
  | malformed
  | fault (f : Fault)
  deriving Repr

/-- What reads the bytes of a file as a document. -/
abbrev Loader := ByteArray → Except Problem Document

end Checkup
