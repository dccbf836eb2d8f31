/-!
Looking up a code point in a table of ranges.

A table holds the first and the last code point of each range, in ascending order and without
overlap, so a search by halves finds the range that can hold a code point.
-/

namespace Checkup.Text

/-- Whether one of `width` ranges from `start` on holds the code point. -/
def inRangesFrom (table : Array (Nat × Nat)) (code : Nat) : (start width : Nat) → Bool
  | _, 0 => false
  | start, width + 1 =>
    let half := (width + 1) / 2
    match table[start + half]? with
    | none => false
    | some (first, last) =>
      if code < first then inRangesFrom table code start half
      else if last < code then inRangesFrom table code (start + half + 1) (width - half)
      else true
termination_by _ width => width

/-- Whether a table of ranges holds a code point. -/
def inRanges (table : Array (Nat × Nat)) (code : Nat) : Bool :=
  inRangesFrom table code 0 table.size

end Checkup.Text
