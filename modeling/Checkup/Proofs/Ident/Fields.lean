import Checkup.Proofs.Ident.Borrowed
import Checkup.Proofs.Ident.Increasing
import Mathlib.Algebra.Ring.Int.Defs

/-!
Reading identifiers back.

The count keeps to its twelve bits in every state that a generator comes to, and the milliseconds
are cut to forty-eight, so no field of an identifier spills into its neighbour: from the text all
of them can be had back.

Main statements: `read?_grouped_hex` (the text tells the number), `carries_bits` and
`bits_eq_overlaid` (the number tells the fields) and `text_fields`.
-/

namespace Checkup

/-! ### Hexadecimal digits -/

namespace Text

/-- The value of a hexadecimal digit in lower case. -/
def hexDigitValue? (c : Char) : Option Nat :=
  if '0' ≤ c ∧ c ≤ '9' then some (c.toNat - '0'.toNat)
  else if 'a' ≤ c ∧ c ≤ 'f' then some (c.toNat - 'a'.toNat + 10)
  else none

/-- The number that hexadecimal digits write, unless something else is among them. -/
def unhex? (ds : List Char) : Option Nat :=
  ds.foldlM (fun n c => (hexDigitValue? c).map (16 * n + ·)) 0

theorem hexDigitValue?_hexDigit {d : Nat} (small : d < 16) :
    hexDigitValue? (hexDigit d) = some d := by
  have all : ∀ d : Fin 16, hexDigitValue? (hexDigit d) = some d.val := by decide
  exact all ⟨d, small⟩

/-- Hexadecimal digits read back as the number they write. -/
theorem unhex?_hex {width n : Nat} (fits : n < 16 ^ width) : unhex? (hex width n) = some n := by
  induction width generalizing n with
  | zero =>
      have zero : n = 0 := by omega
      rw [zero]
      rfl
  | succ width ih =>
      rw [Nat.pow_succ] at fits
      have front : unhex? (hex width (n / 16)) = some (n / 16) := ih (by omega)
      have last := hexDigitValue?_hexDigit (Nat.mod_lt n (show 0 < 16 by decide))
      unfold unhex? at front ⊢
      rw [hex, List.foldlM_append, front]
      simp [last, Nat.div_add_mod]

/-- Where each digit of a number stands. -/
theorem getElem?_hex {width i : Nat} (n : Nat) (inside : i < width) :
    (hex width n)[i]? = some (hexDigit (n / 16 ^ (width - 1 - i) % 16)) := by
  induction width generalizing n with
  | zero => exact absurd inside (Nat.not_lt_zero i)
  | succ width ih =>
      rw [hex]
      by_cases last : i = width
      · rw [List.getElem?_append_right (by rw [length_hex, last])]
        simp [length_hex, last]
      · have before : i < width := by omega
        have places : width + 1 - 1 - i = width - 1 - i + 1 := by omega
        rw [List.getElem?_append_left (by rwa [length_hex]), ih (n / 16) before, places,
          Nat.pow_succ, Nat.div_div_eq_div_mul, Nat.mul_comm]

def IsHexDigit (c : Char) : Prop := (hexDigitValue? c).isSome

theorem isHexDigit_of_getElem?_hex {width n i : Nat} {c : Char}
    (stands : (hex width n)[i]? = some c) : IsHexDigit c := by
  have inside : i < width := by
    rw [← length_hex width n]
    exact (List.getElem?_eq_some_iff.mp stands).1
  rw [getElem?_hex n inside] at stands
  rw [← Option.some.inj stands, IsHexDigit,
    hexDigitValue?_hexDigit (Nat.mod_lt _ (by decide)), Option.isSome_some]

end Text

namespace Ident

open Text (hex IsHexDigit)

/-! ### The text of an identifier -/

/-- The number that an identifier writes: thirty-two digits in their groups. -/
def read? (id : String) : Option Nat :=
  let ds := id.toList.filter (· != '-')
  if ds.length = 32 ∧ grouped ds = id.toList then Text.unhex? ds else none

def markPlaces : List Nat := [8, 13, 18, 23]

theorem getElem?_mark {xs : List Char} {k : Nat} (long : k ≤ xs.length) (c : Char)
    (rest : List Char) (i : Nat) : (xs.take k ++ c :: rest)[i]? =
      if i < k then xs[i]? else if i = k then some c else rest[i - (k + 1)]? := by
  rw [List.getElem?_append, List.length_take, Nat.min_eq_left long]
  split
  · rw [List.getElem?_take_of_lt ‹_›]
  · rw [List.getElem?_cons]
    by_cases here : i = k
    · rw [if_pos (by omega), if_pos here]
    · rw [if_neg (by omega), if_neg here, Nat.sub_sub]

/-- What stands at a place: a mark, or the digit that stands so many marks before. -/
theorem getElem?_grouped {ds : List Char} (length : ds.length = 32) (i : Nat) :
    (grouped ds)[i]? = if i ∈ markPlaces then some '-' else
      ds[i - markPlaces.countP (· < i)]? := by
  have marks : grouped ds = ds.take 8 ++ '-' :: ((ds.drop 8).take 4 ++ '-' ::
      ((ds.drop 12).take 4 ++ '-' :: ((ds.drop 16).take 4 ++ '-' :: ds.drop 20))) := by
    simp [grouped]
  have places : i < 8 ∨ i = 8 ∨ (8 < i ∧ i < 13) ∨ i = 13 ∨ (13 < i ∧ i < 18) ∨ i = 18 ∨
      (18 < i ∧ i < 23) ∨ i = 23 ∨ 23 < i := by omega
  simp only [marks, getElem?_mark, List.length_drop, length, Nat.reduceLeDiff, Nat.reduceSub,
    List.getElem?_drop, markPlaces, List.mem_cons, List.not_mem_nil, or_false, List.countP_cons,
    List.countP_nil, decide_eq_true_eq]
  rcases places with h | rfl | ⟨h, h'⟩ | rfl | ⟨h, h'⟩ | rfl | ⟨h, h'⟩ | rfl | h <;> grind

/-- Without its marks a grouped text is the digits again. -/
theorem filter_grouped {ds : List Char} (unmarked : ∀ c ∈ ds, c ≠ '-') :
    (grouped ds).filter (· != '-') = ds := by
  have kept (part : List Char) (among : part ⊆ ds) : part.filter (· != '-') = part :=
    List.filter_eq_self.mpr fun c mem => bne_iff_ne.mpr (unmarked c (among mem))
  have joined (k m : Nat) : (ds.drop k).take m ++ ds.drop (k + m) = ds.drop k := by
    rw [← List.drop_drop, List.take_append_drop]
  have part (k m : Nat) : (ds.drop k).take m ⊆ ds :=
    List.Subset.trans (List.take_subset _ _) (List.drop_subset _ _)
  simp only [grouped, List.filter_append, List.filter_cons, bne_self_eq_false, Bool.false_eq_true,
    if_false, List.append_assoc, kept _ (List.take_subset _ _), kept _ (List.drop_subset _ _),
    kept _ (part _ _)]
  rw [joined 16 4, joined 12 4, joined 8 4, List.take_append_drop]

/-- An identifier reads back as the number it writes. -/
theorem read?_grouped_hex {n : Nat} (fits : n < 16 ^ 32) :
    read? (String.ofList (grouped (hex 32 n))) = some n := by
  have unmarked : ∀ c ∈ hex 32 n, c ≠ '-' := by
    rintro _ mem rfl
    obtain ⟨i, stands⟩ := List.getElem?_of_mem mem
    exact absurd (Text.isHexDigit_of_getElem?_hex stands) (by unfold IsHexDigit; decide)
  simp only [read?, String.toList_ofList, filter_grouped unmarked, Text.length_hex, and_self,
    if_true, Text.unhex?_hex fits]

/-! ### The fields of the number -/

/-- A number of 128 bits has the fields of an identifier: from the top the milliseconds, version 7,
the count, the variant and the tail. -/
structure Carries (n : Nat) (g : Generator) (tail : Nat) : Prop where
  bounded : n < 2 ^ 128
  millis : (n / 2 ^ 80 : Nat) = g.lastMs % 2 ^ 48
  version : n / 2 ^ 76 % 2 ^ 4 = 7
  sequence : n / 2 ^ 64 % 2 ^ 12 = g.sequence
  variant : n / 2 ^ 62 % 2 ^ 2 = 2
  tail : n % 2 ^ 62 = tail

/-- The fields tell the state and the tail, the milliseconds up to their forty-eight bits. -/
theorem Carries.unique {n tail tail' : Nat} {g g' : Generator} (carries : Carries n g tail)
    (carries' : Carries n g' tail') :
    g.lastMs % 2 ^ 48 = g'.lastMs % 2 ^ 48 ∧ g.sequence = g'.sequence ∧ tail = tail' :=
  ⟨carries.millis.symm.trans carries'.millis, carries.sequence.symm.trans carries'.sequence,
    carries.tail.symm.trans carries'.tail⟩

/-- The bits of an identifier carry the fields it was made of. -/
theorem carries_bits {g : Generator} (count : g.sequence ≤ maxSequence) (tail : Fin (pow2 62)) :
    Carries (bits g tail) g tail := by
  have bound := tail.isLt
  have cut := Int.emod_nonneg g.lastMs (show ((2 : Int) ^ 48) ≠ 0 by decide)
  have cut' := Int.emod_lt_of_pos g.lastMs (show (0 : Int) < 2 ^ 48 by decide)
  have millis : ((g.lastMs % (pow2 48 : Nat)).toNat : Int) = g.lastMs % 2 ^ 48 :=
    Int.toNat_of_nonneg cut
  unfold maxSequence at count
  generalize above : (g.lastMs % (pow2 48 : Nat)).toNat = m at millis
  rw [← millis] at cut'
  simp only [pow2, Nat.pow_eq] at bound
  constructor <;> simp only [bits, above, pow2, Nat.pow_eq] <;> omega

/-- The fields, each moved to its place, laid over one another. -/
def overlaid (g : Generator) (tail : Nat) : Nat :=
  (g.lastMs % pow2 48).toNat <<< 80 ||| 7 <<< 76 ||| g.sequence <<< 64 ||| 2 <<< 62 ||| tail

/-- The fields do not overlap, so they can as well be added up. -/
theorem bits_eq_overlaid {g : Generator} (count : g.sequence ≤ maxSequence)
    (tail : Fin (pow2 62)) : bits g tail = overlaid g tail := by
  have bound : tail.val < 2 ^ 62 := tail.isLt
  unfold maxSequence at count
  simp only [overlaid, bits]
  generalize (g.lastMs % (pow2 48 : Nat)).toNat = m
  have version : m <<< 80 ||| 7 <<< 76 = (m * 16 + 7) <<< 76 := by
    rw [← Nat.shiftLeft_add_eq_or_of_lt (by decide)]
    simp only [Nat.shiftLeft_eq]
    omega
  have counted : (m * 16 + 7) <<< 76 ||| g.sequence <<< 64 =
      ((m * 16 + 7) * 4096 + g.sequence) <<< 64 := by
    rw [← Nat.shiftLeft_add_eq_or_of_lt (by rw [Nat.shiftLeft_eq]; omega)]
    simp only [Nat.shiftLeft_eq]
    omega
  have variant : ((m * 16 + 7) * 4096 + g.sequence) <<< 64 ||| 2 <<< 62 =
      (((m * 16 + 7) * 4096 + g.sequence) * 4 + 2) <<< 62 := by
    rw [← Nat.shiftLeft_add_eq_or_of_lt (by decide)]
    simp only [Nat.shiftLeft_eq]
    omega
  rw [version, counted, variant, ← Nat.shiftLeft_add_eq_or_of_lt bound, Nat.shiftLeft_eq]
  simp only [pow2, Nat.pow_eq]
  omega

/-! ### Identifiers of a run -/

/-- However often it is called, a generator keeps its count within twelve bits. -/
theorem sequence_after_le (clocks : List Int) :
    (Generator.after {} clocks).sequence ≤ maxSequence := by
  have keeps (g : Generator) (count : g.sequence ≤ maxSequence) :
      (g.after clocks).sequence ≤ maxSequence := by
    induction clocks generalizing g with
    | nil => exact count
    | cons clock rest ih => exact ih (g.step clock) (g.sequence_step_le clock)
  exact keeps {} (Nat.zero_le _)

/-- In whatever state the readings of a clock have brought a generator, and with whatever tail: the
identifier has thirty-six characters, marks at four places and digits in lower case at the others,
with a seven for the version; the number that it writes is that of the fields laid over one another,
and has the milliseconds modulo `2 ^ 48`, the count and the tail at their places; and another one is
equal only if it agrees in all three. -/
theorem text_fields (clocks : List Int) (tail : Fin (pow2 62)) :
    let g := Generator.after {} clocks
    let id := text g tail
    (id.length = 36 ∧ (∀ i ∈ markPlaces, id.toList[i]? = some '-') ∧
        (∀ i c, i ∉ markPlaces → id.toList[i]? = some c → IsHexDigit c) ∧
        id.toList[14]? = some '7') ∧
      (∃ n, read? id = some n ∧ n = overlaid g tail ∧ Carries n g tail) ∧
      ∀ (clocks' : List Int) (tail' : Fin (pow2 62)), text (Generator.after {} clocks') tail' = id →
        (Generator.after {} clocks').lastMs % 2 ^ 48 = g.lastMs % 2 ^ 48 ∧
          (Generator.after {} clocks').sequence = g.sequence ∧ tail' = tail := by
  intro g id
  have reads (clocks : List Int) (tail : Fin (pow2 62)) :
      read? (text (Generator.after {} clocks) tail) =
        some (bits (Generator.after {} clocks) tail) :=
    read?_grouped_hex (bits_lt (sequence_after_le clocks) tail)
  have carries (clocks : List Int) (tail : Fin (pow2 62)) :=
    carries_bits (sequence_after_le clocks) tail
  have stands (i : Nat) : id.toList[i]? = if i ∈ markPlaces then some '-' else
      (hex 32 (bits g tail))[i - markPlaces.countP (· < i)]? := by
    rw [← getElem?_grouped (Text.length_hex 32 _)]
    exact congrArg (·[i]?) String.toList_ofList
  have number := bits_eq_overlaid (sequence_after_le clocks) tail
  refine ⟨⟨length_text g tail, ?_, ?_, ?_⟩,
    ⟨_, reads clocks tail, number, carries clocks tail⟩, ?_⟩
  · intro i mark
    rw [stands, if_pos mark]
  · intro i c digit found
    rw [stands, if_neg digit] at found
    exact Text.isHexDigit_of_getElem?_hex found
  · have version := (carries clocks tail).version
    have place : (16 : Nat) ^ (32 - 1 - (14 - markPlaces.countP (· < 14))) = 2 ^ 76 := by decide
    rw [stands, if_neg (by decide), Text.getElem?_hex _ (by decide), place]
    exact congrArg (some ∘ Text.hexDigit) version
  · intro clocks' tail' equal
    have same : bits (Generator.after {} clocks') tail' = bits g tail := by
      have read := reads clocks' tail'
      rw [equal, reads clocks tail] at read
      exact (Option.some.inj read).symm
    obtain ⟨millis, sequence, tails⟩ :=
      (same ▸ carries clocks' tail').unique (carries clocks tail)
    exact ⟨millis, sequence, Fin.ext tails⟩

end Ident

end Checkup
