import Checkup.Value

/-!
The order of the numbers in a set.

A set keeps its members in the slots of a table and lists them slot by slot. A number is placed by
its residue modulo `2 ^ 61 - 1`: equal numbers have one residue whatever their kind, since a power
of two has an inverse there. Where the slot is taken, a short run of slots behind it is tried, and
then another place that depends on all bits of the residue.

Main definition: `inSlots`.
-/

namespace Checkup.Value

/-! ### Residues -/

def residueModulus : Nat := pow2 61 - 1

/-- What stands for the residue of an infinite number. -/
def infiniteResidue : Nat := 314159

/-- A residue with its sign, as a word of 64 bits; minus one is passed over. -/
def signedResidue (negative : Bool) (residue : Nat) : Nat :=
  if !negative || residue == 0 then residue
  else if residue = 1 then pow2 64 - 2
  else pow2 64 - residue

/-- The word by which a number is placed; what is not a number has none. -/
def Number.residue? : Number → Option Nat
  | .whole n => some (signedResidue (n < 0) (n.natAbs % residueModulus))
  | .real x =>
    match Decimal.parts x with
    | ⟨negative, .finite significand exponent⟩ =>
      some (signedResidue negative
        (significand * pow2 (exponent % 61).toNat % residueModulus))
    | ⟨negative, .infinite⟩ => some (signedResidue negative infiniteResidue)
    | ⟨_, .notANumber⟩ => Option.none

/-! ### Slots -/

/-- How many slots are tried behind the first one, where the table goes on that far. -/
def runLength : Nat := 9

/-- The slots of a table; their number is a power of two. -/
abbrev Slots := Array (Option Value)

/-- The first free slot of a run that begins at a place. -/
def Slots.freeIn (slots : Slots) (place : Nat) : Option Nat :=
  let run := if place + runLength < slots.size then runLength + 1 else 1
  (List.range run).map (place + ·) |>.find? fun i => (slots[i]?.getD Option.none).isNone

/-- Puts a value into the first free slot that is tried from a place on, `rest` being the bits of
its residue that do not count yet. -/
def Slots.put (v : Value) : (fuel place rest : Nat) → Slots → Slots
  | 0, _, _, slots => slots
  | fuel + 1, place, rest, slots =>
    match slots.freeIn place with
    | some i => slots.setIfInBounds i (some v)
    | Option.none =>
      let rest := rest / 32
      put v fuel ((place * 5 + 1 + rest) % slots.size) rest slots

/-- The least power of two above a number, tried from `size` on. -/
def doubledAbove (least : Nat) : (fuel size : Nat) → Nat
  | 0, size => size
  | fuel + 1, size => if size ≤ least then doubledAbove least fuel (2 * size) else size

def slotCount (members : Nat) : Nat :=
  if members < 5 then 8 else doubledAbove (2 * members) members 8

/-- Members with their residues in the order of their slots. Beyond its thirteenth step the search
visits every slot in turn, and more than half of them are free. -/
def placed (members : List (Value × Nat)) : List Value :=
  let count := slotCount members.length
  let slots := members.foldl (fun (slots : Slots) (v, residue) =>
    slots.put v (count + 13) (residue % count) residue) (Array.replicate count Option.none)
  slots.toList.filterMap id

def withResidue? (v : Value) : Option (Value × Nat) :=
  (v.number?.bind Number.residue?).map fun residue => (v, residue)

/-- The members of a set in order: numbers by their slots. Where other values are among them the
order of insertion stays. -/
def inSlots (members : List Value) : List Value :=
  match members.mapM withResidue? with
  | some known => placed known
  | Option.none => members

end Checkup.Value
