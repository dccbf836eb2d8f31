import Checkup.Proofs.Clock.Order
import Mathlib

/-!
The clock of floating point numbers.

Every number but NaN is a time, infinite ones and both zeros included, and every finite number is a
span: adding one to a time may round or overflow to infinity, and never gives NaN.

Main statement: the instance `Ordered Float`, from `unpacked_le_iff` (comparing reads the order of
`place`), `compare_swap` (compared the other way round the answer is reversed) and
`isNaN_unpacked_add`.
-/

namespace Checkup.Clock

open Float.Model
open Float.Model.UnpackedFloat (Sign)

/-! ### The order -/

/-- Where a number stands among all numbers: by kind first, then by exponent and significand, which
are both reversed below zero. -/
def place : UnpackedFloat → Int ×ₗ Int ×ₗ Int
  | .infinity .negative => toLex (-2, toLex (0, 0))
  | .finite .negative m e _ => toLex (-1, toLex (-e, -m))
  | .zero _ | .notANumber => toLex (0, toLex (0, 0))
  | .finite .positive m e _ => toLex (1, toLex (e, m))
  | .infinity .positive => toLex (2, toLex (0, 0))

theorem isLE_then_iff (e e' : Int) (m m' : Nat) :
    ((compare e e').then (compare m m')).isLE = true ↔ e < e' ∨ e = e' ∧ m ≤ m' := by
  rcases lt_trichotomy e e' with h | rfl | h
  · simp [compare_lt_iff_lt.mpr h, h]
  · simp [Nat.isLE_compare]
  · simp [compare_gt_iff_gt.mpr h, h.not_gt, h.ne']

theorem swap_then_compare (e e' : Int) (m m' : Nat) :
    ((compare e e').then (compare m m')).swap = (compare e' e).then (compare m' m) := by
  rw [Ordering.swap_then, Int.compare_swap, Nat.compare_swap]

/-- Two numbers compare as their places do; with NaN nothing compares. -/
theorem unpacked_le_iff (x y : UnpackedFloat) :
    x.le y = true ↔ x.isNaN = false ∧ y.isNaN = false ∧ place x ≤ place y := by
  rcases x with (_ | _) | _ | _ | ⟨_ | _, m, e, _⟩ <;>
    rcases y with (_ | _) | _ | _ | ⟨_ | _, m', e', _⟩ <;>
    simp [UnpackedFloat.le, UnpackedFloat.compare, place, Prod.Lex.toLex_le_toLex,
      UnpackedFloat.isNaN, isLE_then_iff, swap_then_compare]
  case finite.negative.finite.negative => exact or_congr_right (and_congr_left' eq_comm)
  all_goals rfl

theorem compare_swap (x y : UnpackedFloat) : y.compare x = (x.compare y).map Ordering.swap := by
  rcases x with (_ | _) | _ | _ | ⟨_ | _, m, e, _⟩ <;>
    rcases y with (_ | _) | _ | _ | ⟨_ | _, m', e', _⟩ <;>
    simp [UnpackedFloat.compare, swap_then_compare]
  all_goals rfl

/-- Numbers cannot be compared if one of them is none. -/
theorem compare_eq_none_iff (x y : UnpackedFloat) :
    x.compare y = none ↔ x.isNaN = true ∨ y.isNaN = true := by
  rcases x with (_ | _) | _ | _ | ⟨_ | _, m, e, _⟩ <;>
    rcases y with (_ | _) | _ | _ | ⟨_ | _, m', e', _⟩ <;>
    simp [UnpackedFloat.compare, UnpackedFloat.isNaN]

/-- One number is below another if both are numbers and the other is not at most the one. -/
theorem unpacked_lt_iff (x y : UnpackedFloat) :
    x.lt y = true ↔ x.isNaN = false ∧ y.isNaN = false ∧ ¬ y.le x = true := by
  have absent := compare_eq_none_iff x y
  unfold UnpackedFloat.lt UnpackedFloat.le
  rw [compare_swap x y]
  cases h : x.compare y with
  | none =>
      rw [h] at absent
      rcases absent.mp rfl with hx | hy
      · simp [hx]
      · simp [hy]
  | some order =>
      rw [h] at absent
      have numbers : x.isNaN = false ∧ y.isNaN = false := by
        constructor
        · exact Bool.eq_false_iff.mpr fun hx => nomatch absent.mpr (.inl hx)
        · exact Bool.eq_false_iff.mpr fun hy => nomatch absent.mpr (.inr hy)
      cases order <;> simp [numbers]

/-! ### Sums -/

/-- Only all bits of the exponent set, with a fraction, spell NaN. -/
theorem isNaN_unpack_packComponents {spec : Format} (s : Sign) {e : BitVec spec.exponentBits}
    {m : BitVec spec.mantissaBitsWithoutImplicit} (h : e ≠ -1#_ ∨ m = 0#_) :
    (UnpackedFloat.unpack spec (UnpackedFloat.packComponents spec s e m)).isNaN = false := by
  unfold UnpackedFloat.unpack
  simp only [UnpackedFloat.unpackExponent_packComponents,
    UnpackedFloat.unpackMantissa_packComponents]
  split
  · rename_i full
    rw [if_pos (h.resolve_left fun other => other full)]
    rfl
  · split
    · split <;> rfl
    · rfl

theorem isNaN_unpack_pack (spec : Format) {x : UnpackedFloat} (hx : x.isNaN = false) :
    (UnpackedFloat.unpack spec (UnpackedFloat.pack spec x)).isNaN = false := by
  cases x with
  | notANumber => simp [UnpackedFloat.isNaN] at hx
  | infinity s => exact isNaN_unpack_packComponents s (.inr rfl)
  | zero s => exact isNaN_unpack_packComponents s (.inr rfl)
  | finite s m e pos =>
      unfold UnpackedFloat.pack
      simp only
      split
      · exact isNaN_unpack_packComponents s (.inr rfl)
      · rename_i inRange
        split
        · refine isNaN_unpack_packComponents s (.inl fun full => ?_)
          have bits := congrArg BitVec.toNat full
          rw [BitVec.neg_one_eq_allOnes, BitVec.toNat_allOnes, BitVec.toNat_ofNat,
            Nat.mod_eq_of_lt (by omega)] at bits
          omega
        · refine isNaN_unpack_packComponents s (.inl fun full => ?_)
          have bits := congrArg BitVec.toNat full
          rw [BitVec.neg_one_eq_allOnes, BitVec.toNat_allOnes] at bits
          have := Nat.one_lt_two_pow (Nat.pos_iff_ne_zero.mp spec.he)
          simp only [BitVec.toNat_ofNat, Nat.zero_mod] at bits
          omega

theorem isNaN_round (spec : Format) (s : Sign) (m : Nat) (e : Int) :
    (UnpackedFloat.round spec s m e).isNaN = false := by
  unfold UnpackedFloat.round UnpackedFloat.roundWithAccuracy
  simp only
  split <;> rfl

theorem isNaN_normalize (spec : Format) (m e : Int) (s : Sign) :
    (UnpackedFloat.normalize spec m e s).isNaN = false := by
  unfold UnpackedFloat.normalize
  split
  · exact isNaN_round ..
  · rfl
  · exact isNaN_round ..

/-- Only infinities of opposite signs have no sum, so it is enough that one number is finite. -/
theorem isNaN_unpacked_add (spec : Format) {x y : UnpackedFloat} (hx : x.isNaN = false)
    (hy : y.isFinite = true) : (UnpackedFloat.add spec x y).isNaN = false := by
  cases y with
  | infinity s => simp [UnpackedFloat.isFinite] at hy
  | notANumber => simp [UnpackedFloat.isFinite] at hy
  | zero s =>
      cases x with
      | notANumber => simp [UnpackedFloat.isNaN] at hx
      | infinity s' => rfl
      | zero s' =>
          simp only [UnpackedFloat.add]
          split <;> rfl
      | finite s' m e h => rfl
  | finite s m e h =>
      cases x with
      | notANumber => simp [UnpackedFloat.isNaN] at hx
      | infinity s' => rfl
      | zero s' => rfl
      | finite s' m' e' h' => exact isNaN_normalize ..

/-! ### The clock -/

/-- Times are compared as the numbers that they store. -/
theorem float_le_iff (a b : Float) :
    le a b = true ↔ a.toModel.unpack.le b.toModel.unpack = true := by
  show decide (decide (a.toModel ≤ b.toModel) = true) = true ↔ _
  rw [decide_eq_true_iff, decide_eq_true_iff]
  rfl

theorem float_lt_iff (a b : Float) :
    lt a b = true ↔ a.toModel.unpack.lt b.toModel.unpack = true := by
  show decide (decide (a.toModel < b.toModel) = true) = true ↔ _
  rw [decide_eq_true_iff, decide_eq_true_iff]
  rfl

instance : Ordered Float where
  IsTime x := x.isNaN = false
  IsSpan x := x.isFinite = true
  le_total {a b} ha hb := by
    rw [float_le_iff, float_le_iff, unpacked_le_iff, unpacked_le_iff]
    rcases Std.le_total (a := place a.toModel.unpack) (b := place b.toModel.unpack) with h | h
    · exact .inl ⟨ha, hb, h⟩
    · exact .inr ⟨hb, ha, h⟩
  le_trans h h' := by
    rw [float_le_iff, unpacked_le_iff] at *
    exact ⟨h.1, h'.2.1, h.2.2.trans h'.2.2⟩
  lt_iff ha hb := by
    rw [float_le_iff, float_lt_iff, unpacked_lt_iff]
    exact ⟨fun h => h.2.2, fun h => ⟨ha, hb, h⟩⟩
  isTime_of_lt h := by
    rw [float_lt_iff, unpacked_lt_iff] at h
    exact h.2.1
  isTime_add ha hb := isNaN_unpack_pack Format.binary64 (isNaN_unpacked_add Format.binary64 ha hb)

end Checkup.Clock
