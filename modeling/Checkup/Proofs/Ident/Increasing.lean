import Mathlib.Algebra.Ring.Nat
import Checkup.Ident

/-!
Identifiers that grow.

Whatever the clock does, the pair of milliseconds and count grows with every identifier. While the
milliseconds fit into their 48 bits the pair comes first among the bits, so the random tail never
decides; and as many digits are ordered as the numbers that they write, whatever marks stand at the
same places between them.

Main statements: `hex_lt_hex`, `KeepsOrder.mark` and `bits_lt_bits` (what carries the order of the
fields over to that of the text), `before_next` (what one call does) and `issued_increase`.
-/

namespace Checkup

/-! ### Texts of one length -/

namespace Text

variable {xs ys : List Char}

theorem append_lt_append (length : xs.length = ys.length) (less : xs < ys) (us vs : List Char) :
    xs ++ us < ys ++ vs := by
  induction xs generalizing ys with
  | nil =>
      cases ys with
      | nil => exact absurd less (List.lt_irrefl [])
      | cons y ys => cases length
  | cons x xs ih =>
      cases ys with
      | nil => cases length
      | cons y ys =>
          rw [List.cons_append, List.cons_append, List.cons_lt_cons_iff]
          rcases List.cons_lt_cons_iff.mp less with first | ⟨same, rest⟩
          · exact .inl first
          · exact .inr ⟨same, ih (Nat.succ.inj length) rest⟩

/-- Of two texts of one length the first parts decide, or else what follows them. -/
theorem take_or_drop_lt (length : xs.length = ys.length) (less : xs < ys) (k : Nat) :
    xs.take k < ys.take k ∨ xs.take k = ys.take k ∧ xs.drop k < ys.drop k := by
  induction k generalizing xs ys with
  | zero => exact .inr ⟨rfl, less⟩
  | succ k ih =>
      cases xs with
      | nil =>
          cases ys with
          | nil => exact absurd less (List.lt_irrefl [])
          | cons y ys => cases length
      | cons x xs =>
          cases ys with
          | nil => cases length
          | cons y ys =>
              simp only [List.take_succ_cons, List.drop_succ_cons, List.cons_lt_cons_iff]
              rcases List.cons_lt_cons_iff.mp less with first | ⟨rfl, rest⟩
              · exact .inl (.inl first)
              · rcases ih (Nat.succ.inj length) rest with taken | ⟨same, dropped⟩
                · exact .inl (.inr ⟨rfl, taken⟩)
                · exact .inr ⟨by rw [same], dropped⟩

def KeepsOrder (f : List Char → List Char) : Prop :=
  ∀ xs ys, xs.length = ys.length → xs < ys → f xs < f ys

/-- A mark that always stands at the same place decides nothing. -/
theorem KeepsOrder.mark {f : List Char → List Char} (keeps : KeepsOrder f) (k : Nat) (c : Char) :
    KeepsOrder fun xs => xs.take k ++ c :: f (xs.drop k) := by
  intro xs ys length less
  show xs.take k ++ c :: f (xs.drop k) < ys.take k ++ c :: f (ys.drop k)
  rcases take_or_drop_lt length less k with taken | ⟨same, dropped⟩
  · refine append_lt_append ?_ taken _ _
    rw [List.length_take, List.length_take, length]
  · rw [same]
    refine List.append_left_lt (List.cons_lt_cons_iff.mpr (.inr ⟨rfl, keeps _ _ ?_ dropped⟩))
    rw [List.length_drop, List.length_drop, length]

/-- Hexadecimal digits are in the order of their values. -/
theorem hexDigit_lt_hexDigit {d e : Nat} (less : d < e) (small : e < 16) :
    hexDigit d < hexDigit e := by
  have all : ∀ e : Fin 16, ∀ d : Fin e, hexDigit d < hexDigit e := by decide
  exact all ⟨e, small⟩ ⟨d, less⟩

/-- As many digits are ordered as the numbers that they write. -/
theorem hex_lt_hex {width n m : Nat} (less : n < m) (fits : m < 16 ^ width) :
    hex width n < hex width m := by
  induction width generalizing n m with
  | zero => omega
  | succ width ih =>
      rw [Nat.pow_succ] at fits
      simp only [hex]
      rcases Nat.lt_or_eq_of_le (Nat.div_le_div_right (c := 16) (Nat.le_of_lt less)) with
        higher | same
      · refine append_lt_append ?_ (ih higher (by omega)) _ _
        rw [length_hex, length_hex]
      · rw [same]
        refine List.append_left_lt (List.cons_lt_cons_iff.mpr (.inl ?_))
        exact hexDigit_lt_hexDigit (by omega) (by omega)

end Text

namespace Ident

open Text (KeepsOrder hex)

/-! ### The text of an identifier -/

/-- Marks between groups keep the order of texts of one length. -/
theorem keepsOrder_grouped : KeepsOrder grouped := by
  have plain : KeepsOrder fun xs => xs := fun _ _ _ less => less
  have marked := (((plain.mark 4 '-').mark 4 '-').mark 4 '-').mark 8 '-'
  intro xs ys length less
  simpa only [grouped, List.append_assoc, List.cons_append, List.drop_drop] using
    marked xs ys length less

/-- An identifier has 36 characters. -/
theorem length_text (g : Generator) (tail : Nat) : (text g tail).length = 36 := by
  have digits := Text.length_hex 32 (bits g tail)
  simp only [text, grouped, String.length_ofList, List.length_append, List.length_cons,
    List.length_take, List.length_drop, digits]
  decide

namespace Generator

/-- One state comes before another: by the milliseconds, and within one by the count. -/
def Before (g g' : Generator) : Prop :=
  g.lastMs < g'.lastMs ∨ g.lastMs = g'.lastMs ∧ g.sequence < g'.sequence

theorem Before.trans {g g' g'' : Generator} (first : g.Before g') (second : g'.Before g'') :
    g.Before g'' := by
  unfold Before at *
  omega

def Fits (g : Generator) : Prop := 0 ≤ g.lastMs ∧ g.lastMs < pow2 48

end Generator

variable {g g' : Generator}

/-- The milliseconds that fit and the count stand before the tail, and do not spill over. -/
theorem bits_lt_bits (before : g.Before g') (fits : g.Fits) (fits' : g'.Fits)
    (count : g.sequence ≤ maxSequence) (count' : g'.sequence ≤ maxSequence)
    (tail tail' : Fin (pow2 62)) : bits g tail < bits g' tail' := by
  have bound := tail.isLt
  have bound' := tail'.isLt
  unfold Generator.Before at before
  unfold Generator.Fits at fits fits'
  simp only [bits, maxSequence, pow2, Nat.pow_eq] at *
  omega

/-- The bits of an identifier fit into its thirty-two digits. -/
theorem bits_lt (count : g.sequence ≤ maxSequence) (tail : Fin (pow2 62)) :
    bits g tail < 16 ^ 32 := by
  have bound := tail.isLt
  simp only [bits, maxSequence, pow2, Nat.pow_eq] at *
  omega

/-- The order of states that fit is that of the identifiers made in them, whatever their tails. -/
theorem text_lt_text (before : g.Before g') (fits : g.Fits) (fits' : g'.Fits)
    (count : g.sequence ≤ maxSequence) (count' : g'.sequence ≤ maxSequence)
    (tail tail' : Fin (pow2 62)) : text g tail < text g' tail' := by
  have digits : hex 32 (bits g tail) < hex 32 (bits g' tail') :=
    Text.hex_lt_hex (bits_lt_bits before fits fits' count count' tail tail') (bits_lt count' tail')
  have grows := keepsOrder_grouped _ _ (by rw [Text.length_hex, Text.length_hex]) digits
  show (text g tail).toList < (text g' tail').toList
  rwa [text, text, String.toList_ofList, String.toList_ofList]

/-! ### Calls one after the other -/

/-- A call of the generator: what the clock shows, in nanoseconds, and the random tail. -/
abbrev Draw := Int × Fin (pow2 62)

/-- What calls give out: each identifier, and the state in which it was made. -/
def issued (g : Generator) : List Draw → List (String × Generator)
  | [] => []
  | (clock, tail) :: rest => next g clock tail :: issued (next g clock tail).2 rest

/-- A call goes on to a later state, keeps the count within its bits and writes that state. -/
theorem before_next (g : Generator) (draw : Draw) :
    let made := next g draw.1 draw.2
    g.Before made.2 ∧ made.2.sequence ≤ maxSequence ∧ made.1 = text made.2 draw.2 :=
  ⟨g.lt_step draw.1, g.sequence_step_le draw.1, rfl⟩

/-- Whatever comes of calls is later than where they began, and is written in full. -/
theorem before_of_mem_issued {draws : List Draw} {made : String × Generator}
    (mem : made ∈ issued g draws) : g.Before made.2 ∧ made.2.sequence ≤ maxSequence ∧
      ∃ tail : Fin (pow2 62), made.1 = text made.2 tail := by
  induction draws generalizing g with
  | nil => cases mem
  | cons draw rest ih =>
      obtain ⟨before, count, written⟩ := before_next g draw
      rcases List.mem_cons.mp mem with rfl | later
      · exact ⟨before, count, draw.2, written⟩
      · obtain ⟨before', rest⟩ := ih later
        exact ⟨before.trans before', rest⟩

/-- Whatever the clock shows call by call, and whatever the tails: every call goes on to a later
state than all before, with a count of at most 4095; and of any two identifiers made while the
milliseconds fit, the one made later is greater. -/
theorem issued_increase (draws : List Draw) :
    ({} :: (issued {} draws).map Prod.snd).Pairwise Generator.Before ∧
      (∀ made ∈ issued {} draws, made.1.length = 36 ∧ made.2.sequence ≤ 4095) ∧
      (issued {} draws).Pairwise fun earlier later =>
        earlier.2.Fits → later.2.Fits → earlier.1 < later.1 := by
  have grows (g : Generator) : (g :: (issued g draws).map Prod.snd).Pairwise Generator.Before ∧
      (issued g draws).Pairwise fun earlier later =>
        earlier.2.Fits → later.2.Fits → earlier.1 < later.1 := by
    induction draws generalizing g with
    | nil => exact ⟨List.pairwise_singleton .., .nil⟩
    | cons draw rest ih =>
        obtain ⟨states, texts⟩ := ih (next g draw.1 draw.2).2
        obtain ⟨-, count, written⟩ := before_next g draw
        refine ⟨List.pairwise_cons.mpr ⟨?_, states⟩, List.pairwise_cons.mpr ⟨?_, texts⟩⟩
        · intro state mem
          obtain ⟨made, issues, rfl⟩ := List.mem_map.mp mem
          have issues : (made.1, made.2) ∈ issued g (draw :: rest) := issues
          exact (before_of_mem_issued issues).1
        · intro made mem fits fits'
          obtain ⟨before, count', tail', written'⟩ := before_of_mem_issued mem
          rw [written, written']
          exact text_lt_text before fits fits' count count' draw.2 tail'
  obtain ⟨states, texts⟩ := grows {}
  refine ⟨states, ?_, texts⟩
  intro made mem
  obtain ⟨-, count, tail, written⟩ := before_of_mem_issued mem
  exact ⟨by rw [written, length_text], count⟩

/-- The clock shows some time, then an earlier one, and then the millisecond that comes next; the
tail of the first identifier is the largest there is. -/
def steppedBack : List Draw :=
  [(1700000000000000000, ⟨pow2 62 - 1, by decide⟩), (1600000000000000000, ⟨0, by decide⟩),
    (1700000000001000000, ⟨0, by decide⟩)]

theorem steppedBack_increases :
    (issued {} steppedBack).map Prod.snd =
        [⟨1700000000000, 0⟩, ⟨1700000000000, 1⟩, ⟨1700000000001, 0⟩] ∧
      (issued {} steppedBack).Pairwise fun earlier later => earlier.1 < later.1 := by
  have states : (issued {} steppedBack).map Prod.snd =
      [⟨1700000000000, 0⟩, ⟨1700000000000, 1⟩, ⟨1700000000001, 0⟩] := rfl
  have fits : ∀ made ∈ issued {} steppedBack, made.2.Fits := by
    have all : ∀ g ∈ (issued {} steppedBack).map Prod.snd, g.Fits := by
      rw [states]
      unfold Generator.Fits
      decide
    exact fun made mem => all made.2 (List.mem_map_of_mem mem)
  obtain ⟨-, -, increase⟩ := issued_increase steppedBack
  exact ⟨states, increase.imp_of_mem fun mem mem' less => less (fits _ mem) (fits _ mem')⟩

end Ident

end Checkup
