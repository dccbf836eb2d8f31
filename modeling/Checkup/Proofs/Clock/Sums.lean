import Checkup.Proofs.Clock.Binary64
import Checkup.Proofs.Clock.Rounding

/-!
Sums of floating point numbers, rounded.

Finite numbers are counted in units of the smallest one above zero (`units`), which makes whole
numbers of all of them, and every sum or difference of two is then a whole number as well. How the
digits that do not fit are cut off is followed through `ExtendedMantissa`, whose two spare bits tell
enough of what was cut off (`Tells`) to know which neighbour is nearer.

Main statements: `round_spec` (rounding finds a nearest number), `add_spec` and `sub_spec`
(a sum and a difference come to a number nearest to the exact one).
-/

namespace Checkup.Clock

open Float.Model
open Float.Model.UnpackedFloat (Sign ExtendedMantissa Accuracy)

/-! ### Shifting -/

/-- What an extended mantissa tells of a rest that is less than one of its units. -/
def Tells (em : ExtendedMantissa) (unit rest : Nat) : Prop :=
  match em.accuracy with
  | .exact => rest = 0
  | .inexact .lt => 0 < rest ∧ 2 * rest < unit
  | .inexact .eq => 2 * rest = unit
  | .inexact .gt => unit < 2 * rest ∧ rest < unit

/-- To shift out one digit doubles the unit, and the digit joins the rest. -/
theorem tells_shiftRightOne {em : ExtendedMantissa} {unit rest : Nat} (pos : 0 < unit)
    (tells : Tells em unit rest) :
    Tells em.shiftRightOne (2 * unit) (em.mantissa % 2 * unit + rest) := by
  obtain ⟨m, round, sticky⟩ := em
  rcases Nat.mod_two_eq_zero_or_one m with even | odd
  · cases round <;> cases sticky <;>
      simp_all [Tells, ExtendedMantissa.accuracy, ExtendedMantissa.shiftRightOne] <;> omega
  · cases round <;> cases sticky <;>
      simp_all [Tells, ExtendedMantissa.accuracy, ExtendedMantissa.shiftRightOne] <;> omega

/-- A mantissa that is shifted keeps what is left of the shift, and tells of the rest. -/
theorem shifted (m n : Nat) : ∃ rest,
    m = ((⟨m, false, false⟩ : ExtendedMantissa) >>> n).mantissa * 2 ^ n + rest ∧
      Tells ((⟨m, false, false⟩ : ExtendedMantissa) >>> n) (2 ^ n) rest := by
  induction n with
  | zero => exact ⟨0, (Nat.mul_one m).symm, rfl⟩
  | succ n ih =>
      obtain ⟨rest, same, tells⟩ := ih
      have next : (⟨m, false, false⟩ : ExtendedMantissa) >>> (n + 1) =
          ((⟨m, false, false⟩ : ExtendedMantissa) >>> n).shiftRightOne := rfl
      rw [next]
      generalize (⟨m, false, false⟩ : ExtendedMantissa) >>> n = em at *
      refine ⟨em.mantissa % 2 * 2 ^ n + rest, ?_, ?_⟩
      · have half : em.shiftRightOne.mantissa = em.mantissa / 2 := rfl
        rw [half, pow_succ]
        conv_lhs => rw [same, ← Nat.div_add_mod' em.mantissa 2]
        ring
      · rw [pow_succ, Nat.mul_comm]
        exact tells_shiftRightOne (Nat.two_pow_pos n) tells

/-- Rounding keeps the mantissa or takes the next, whichever is nearer. -/
theorem rounded_cases {em : ExtendedMantissa} {unit rest : Nat} (tells : Tells em unit rest) :
    em.roundedMantissa = em.mantissa ∧ 2 * rest ≤ unit ∨
      em.roundedMantissa = em.mantissa + 1 ∧ unit ≤ 2 * rest ∧ rest ≤ unit := by
  obtain ⟨m, round, sticky⟩ := em
  cases round with
  | false =>
      cases sticky with
      | false =>
          have none_ : rest = 0 := tells
          exact .inl ⟨rfl, by omega⟩
      | true =>
          have less : 0 < rest ∧ 2 * rest < unit := tells
          exact .inl ⟨rfl, less.2.le⟩
  | true =>
      cases sticky with
      | false =>
          have tie : 2 * rest = unit := tells
          have even : (⟨m, true, false⟩ : ExtendedMantissa).roundedMantissa = m + m % 2 := rfl
          rw [even]
          rcases Nat.mod_two_eq_zero_or_one m with low | high
          · exact .inl ⟨by rw [low, Nat.add_zero], tie.le⟩
          · exact .inr ⟨by rw [high], tie.ge, by omega⟩
      | true =>
          have more : unit < 2 * rest ∧ rest < unit := tells
          exact .inr ⟨rfl, more.1.le, more.2.le⟩

/-- Rounding misses by half a unit at most. -/
theorem rounded_close {em : ExtendedMantissa} {unit rest : Nat} (tells : Tells em unit rest) :
    2 * |(em.roundedMantissa * unit - (em.mantissa * unit + rest : Nat) : Int)| ≤ unit := by
  rcases rounded_cases tells with ⟨same, little⟩ | ⟨next, much, less⟩
  · have miss : (em.roundedMantissa * unit - (em.mantissa * unit + rest : Nat) : Int) = -rest := by
      rw [same]
      push_cast
      ring
    rw [miss, abs_neg, Nat.abs_cast]
    exact_mod_cast little
  · have miss : (em.roundedMantissa * unit - (em.mantissa * unit + rest : Nat) : Int) =
        unit - rest := by
      rw [next]
      push_cast
      ring
    rw [miss, abs_of_nonneg (by omega)]
    omega

theorem lt_of_tells {em : ExtendedMantissa} {unit rest : Nat} (pos : 0 < unit)
    (tells : Tells em unit rest) : rest < unit := by
  obtain ⟨m, round, sticky⟩ := em
  cases round <;> cases sticky <;> simp only [Tells, ExtendedMantissa.accuracy] at tells <;> omega

/-! ### Numbers in units -/

/-- A mantissa and an exponent as they are stored: with all digits that there may be, unless the
exponent is the least. -/
structure IsCanonical (m : Nat) (e : Int) : Prop where
  lt : m < 2 ^ 53
  le : -1074 ≤ e
  full : e = -1074 ∨ 2 ^ 52 ≤ m

/-- A number above zero in units of the smallest one. -/
def magnitude (m : Nat) (e : Int) : Nat := m * 2 ^ (e + 1074).toNat

theorem magnitude_cast (m : Nat) (e : Int) :
    (magnitude m e : Int) = m * 2 ^ (e + 1074).toNat := by
  rw [magnitude]
  push_cast
  rfl

theorem magnitude_eq {m n : Nat} {e t : Int} (le : -1074 ≤ e) (same : t = e + n) :
    magnitude m t = m * 2 ^ n * 2 ^ (e + 1074).toNat := by
  have digits : (t + 1074).toNat = n + (e + 1074).toNat := by omega
  rw [magnitude, digits, pow_add, mul_assoc]

theorem magnitude_le {m m' : Nat} {e e' : Int} (le : m ≤ m') (le' : e ≤ e') :
    magnitude m e ≤ magnitude m' e' :=
  Nat.mul_le_mul le (Nat.pow_le_pow_right Nat.two_pos (by omega))

theorem magnitude_lt_left {m m' : Nat} (less : m < m') (e : Int) :
    magnitude m e < magnitude m' e :=
  Nat.mul_lt_mul_of_pos_right less (Nat.two_pow_pos _)

/-- A carry out of the digits that there may be. -/
theorem magnitude_carry {e : Int} (least : -1074 ≤ e) :
    magnitude (2 ^ 52) (e + 1) = magnitude (2 ^ 53) e := by
  rw [magnitude, magnitude, show (e + 1 + 1074).toNat = (e + 1074).toNat + 1 by omega]
  ring

theorem fits_magnitude {m : Nat} {e : Int} (le : m ≤ 2 ^ 53) : Fits 53 (magnitude m e) := by
  refine ⟨(e + 1074).toNat, ?_, ?_⟩
  · rw [magnitude, Nat.cast_mul, Nat.cast_pow]
    exact dvd_mul_left ..
  · rw [Nat.abs_cast, pow_add, magnitude]
    exact_mod_cast Nat.mul_le_mul_right _ le

/-- Of canonical numbers the one with the greater exponent is the greater one. -/
theorem magnitude_lt {m m' : Nat} {e e' : Int} (canonical : IsCanonical m e)
    (canonical' : IsCanonical m' e') (less : e < e') : magnitude m e < magnitude m' e' := by
  have least := canonical.le
  have whole : 2 ^ 52 ≤ m' := canonical'.full.resolve_left (by omega)
  calc magnitude m e < magnitude (2 ^ 53) e := magnitude_lt_left canonical.lt e
    _ = magnitude (2 ^ 52) (e + 1) := (magnitude_carry least).symm
    _ ≤ magnitude m' e' := magnitude_le whole less

/-- Canonical numbers are compared by exponent, then by mantissa. -/
theorem magnitude_le_iff {m m' : Nat} {e e' : Int} (canonical : IsCanonical m e)
    (canonical' : IsCanonical m' e') :
    magnitude m e ≤ magnitude m' e' ↔ e < e' ∨ e = e' ∧ m ≤ m' := by
  rcases lt_trichotomy e e' with less | rfl | more
  · simp [less, (magnitude_lt canonical canonical' less).le]
  · simp [magnitude, Nat.mul_le_mul_right_iff (Nat.two_pow_pos _)]
  · simp [more.not_gt, more.ne', magnitude_lt canonical' canonical more]

theorem magnitude_pos {m : Nat} (pos : 0 < m) (e : Int) : 0 < magnitude m e :=
  Nat.mul_pos pos (Nat.two_pow_pos _)

/-! ### Rounding -/

/-- The exponent that a number should be stored with. -/
abbrev target (m : Nat) (e : Int) : Int := Format.binary64.targetExponent (totalExponent m e)

theorem target_eq (m : Nat) (e : Int) : target m e = max (m.log2 + e - 52) (-1074) := by
  simp only [target, Format.targetExponent, totalExponent, Format.mantissaBits, Format.minExponent]
  norm_num
  omega

theorem least_le_target (m : Nat) (e : Int) : -1074 ≤ target m e := by
  rw [target_eq]
  exact le_max_right ..

theorem shiftToTarget {m : Nat} {e : Int} (le : e ≤ target m e) :
    UnpackedFloat.shiftToTargetExponent Format.binary64 m e .exact =
      ((⟨m, false, false⟩ : ExtendedMantissa) >>> (target m e - e).toNat, target m e) := by
  show ((⟨m, false, false⟩ : ExtendedMantissa) >>> (target m e - e).toNat,
    e + ((target m e - e).toNat : Int)) = _
  rw [Int.toNat_of_nonneg (sub_nonneg.mpr le), add_sub_cancel]

theorem shiftToTarget_of_le {m : Nat} {e : Int} (le : target m e ≤ e) :
    UnpackedFloat.shiftToTargetExponent Format.binary64 m e .exact = (⟨m, false, false⟩, e) := by
  show ((⟨m, false, false⟩ : ExtendedMantissa) >>> (target m e - e).toNat,
    e + ((target m e - e).toNat : Int)) = _
  rw [Int.toNat_of_nonpos (sub_nonpos.mpr le)]
  show _ = ((⟨m, false, false⟩ : ExtendedMantissa) >>> 0, e)
  simp

/-- What is left of the shift to the exponent that a number should be stored with. -/
theorem left_of_shift {m M rest n : Nat} {e : Int} (pos : 0 < m) (n_eq : target m e = e + n)
    (split : m = M * 2 ^ n + rest) (less : rest < 2 ^ n) :
    M < 2 ^ 53 ∧ (target m e = -1074 ∨ 2 ^ 52 ≤ M) := by
  have low := Nat.log2_self_le (Nat.ne_of_gt pos)
  have high := Nat.lt_log2_self (n := m)
  rw [target_eq] at n_eq ⊢
  constructor
  · have bound : m < 2 ^ 53 * 2 ^ n := by
      rw [← pow_add]
      exact high.trans_le (Nat.pow_le_pow_right Nat.two_pos (by omega))
    by_contra large
    have covers := Nat.mul_le_mul_right (2 ^ n) (Nat.le_of_not_lt large)
    omega
  · by_cases least : (m.log2 : Int) + e - 52 ≤ -1074
    · exact .inl (max_eq_right least)
    · right
      have digits : m.log2 = 52 + n := by omega
      rw [digits, pow_add] at low
      by_contra small
      have short := Nat.mul_le_mul_right (2 ^ n) (Nat.succ_le_of_lt (Nat.lt_of_not_le small))
      rw [Nat.succ_mul] at short
      omega

/-- A shifted and rounded mantissa is as near as can be. -/
theorem nearest_shifted {m : Nat} {e : Int} (pos : 0 < m) (least : -1074 ≤ e)
    (le : e ≤ target m e) :
    let em := (⟨m, false, false⟩ : ExtendedMantissa) >>> (target m e - e).toNat
    em.roundedMantissa ≤ 2 ^ 53 ∧ (target m e = -1074 ∨ 2 ^ 52 ≤ em.roundedMantissa) ∧
      0 < em.roundedMantissa ∧
      Nearest 53 (magnitude m e) (magnitude em.roundedMantissa (target m e)) := by
  intro em
  obtain ⟨n, n_eq⟩ : ∃ n : Nat, target m e = e + n :=
    ⟨(target m e - e).toNat, by omega⟩
  have shift : (target m e - e).toNat = n := by omega
  obtain ⟨rest, split, tells⟩ := shifted m n
  have same : em = (⟨m, false, false⟩ : ExtendedMantissa) >>> n := by rw [← shift]
  rw [← same] at split tells
  have less := lt_of_tells (Nat.two_pow_pos n) tells
  obtain ⟨lt, full⟩ := left_of_shift pos n_eq split less
  have step : em.mantissa ≤ em.roundedMantissa ∧ em.roundedMantissa ≤ em.mantissa + 1 := by
    rcases rounded_cases tells with ⟨kept, -⟩ | ⟨next, -⟩ <;> omega
  have le' : em.roundedMantissa ≤ 2 ^ 53 := step.2.trans lt
  refine ⟨le', full.imp_right fun h => h.trans step.1, ?_⟩
  cases n with
  | zero =>
      have all : em.roundedMantissa = m := by rw [same]; rfl
      have still : target m e = e := by omega
      rw [all] at le' ⊢
      rw [still]
      exact ⟨pos, .of_fits (fits_magnitude le')⟩
  | succ n =>
      have large : 2 ^ 52 ≤ em.mantissa := full.resolve_left (by omega)
      refine ⟨by omega, ?_⟩
      have close := rounded_close tells
      rw [← split] at close
      have much : 2 ^ (52 + (n + 1)) ≤ m := by
        rw [pow_add]
        exact (Nat.mul_le_mul_right _ large).trans (by omega)
      have grid : (magnitude em.roundedMantissa (target m e) : Int) =
          em.roundedMantissa * 2 ^ (n + 1 + (e + 1074).toNat) := by
        rw [magnitude_cast, show (target m e + 1074).toNat = n + 1 + (e + 1074).toNat by omega]
      rw [grid, magnitude_cast]
      exact .of_close_mul (by exact_mod_cast close) (grid ▸ fits_magnitude le')
        (by exact_mod_cast much)

/-- The number is stored as it is. -/
theorem target_le {m : Nat} {e : Int} (canonical : IsCanonical m e) (pos : 0 < m) :
    target m e ≤ e := by
  have digits : m.log2 < 53 := (Nat.log2_lt (Nat.ne_of_gt pos)).mpr canonical.lt
  have least := canonical.le
  rw [target_eq]
  omega

theorem roundWithAccuracy_eq (s : Sign) {m : Nat} {e t t' : Int} {em em' : ExtendedMantissa}
    (first : UnpackedFloat.shiftToTargetExponent Format.binary64 m e .exact = (em, t))
    (second : UnpackedFloat.shiftToTargetExponent Format.binary64 em.roundedMantissa t .exact =
      (em', t')) (pos : 0 < em'.mantissa) :
    UnpackedFloat.roundWithAccuracy Format.binary64 s m e .exact =
      .finite s em'.mantissa t' pos := by
  simp only [UnpackedFloat.roundWithAccuracy, first, second]
  exact dif_neg (Nat.ne_of_gt pos)

/-- A number that has digits to lose is rounded to the nearest that fits. -/
theorem roundWithAccuracy_spec (s : Sign) {m : Nat} {e : Int} (pos : 0 < m) (least : -1074 ≤ e)
    (le : e ≤ target m e) : ∃ m' e' pos',
      UnpackedFloat.roundWithAccuracy Format.binary64 s m e .exact = .finite s m' e' pos' ∧
        IsCanonical m' e' ∧ Nearest 53 (magnitude m e) (magnitude m' e') := by
  obtain ⟨bound, full, pos', nearest⟩ := nearest_shifted pos least le
  have first := shiftToTarget le
  generalize (⟨m, false, false⟩ : ExtendedMantissa) >>> (target m e - e).toNat = em at *
  have low := least_le_target m e
  generalize target m e = t at *
  rcases Nat.lt_or_eq_of_le bound with lt | carry
  · have canonical : IsCanonical em.roundedMantissa t := ⟨lt, low, full⟩
    have second := shiftToTarget_of_le (target_le canonical pos')
    exact ⟨_, t, pos', roundWithAccuracy_eq s first second pos', canonical, nearest⟩
  · -- One digit more than there may be, which is a zero.
    have carried : target em.roundedMantissa t = t + 1 := by
      rw [carry, target_eq, Nat.log2_two_pow]
      omega
    have second := shiftToTarget (show t ≤ target em.roundedMantissa t by omega)
    rw [carried, add_sub_cancel_left] at second
    have half : em.roundedMantissa / 2 = 2 ^ 52 := by omega
    have pos'' : 0 < em.roundedMantissa / 2 := by omega
    refine ⟨_, t + 1, pos'', roundWithAccuracy_eq s first second pos'', ?_, ?_⟩
    · exact ⟨by omega, by omega, .inr half.ge⟩
    · rwa [half, magnitude_carry low, ← carry]

theorem log2_shiftLeft {m : Nat} (pos : 0 < m) (n : Nat) : (m <<< n).log2 = m.log2 + n := by
  have low := Nat.log2_self_le (Nat.ne_of_gt pos)
  have high := Nat.lt_log2_self (n := m)
  rw [Nat.shiftLeft_eq, Nat.log2_eq_iff (Nat.ne_of_gt (Nat.mul_pos pos (Nat.two_pow_pos n)))]
  constructor
  · rw [pow_add]
    exact Nat.mul_le_mul_right _ low
  · rw [show m.log2 + n + 1 = m.log2 + 1 + n by omega, pow_add]
    exact Nat.mul_lt_mul_of_pos_right high (Nat.two_pow_pos n)

/-- Rounding gives a canonical number that is nearest to what is rounded. -/
theorem round_spec (s : Sign) {m : Nat} {e : Int} (pos : 0 < m) (least : -1074 ≤ e) :
    ∃ m' e' pos', UnpackedFloat.round Format.binary64 s m e = .finite s m' e' pos' ∧
      IsCanonical m' e' ∧ Nearest 53 (magnitude m e) (magnitude m' e') := by
  obtain ⟨n, n_eq⟩ : ∃ n, n = (e - target m e).toNat := ⟨_, rfl⟩
  have spread : UnpackedFloat.round Format.binary64 s m e =
      UnpackedFloat.roundWithAccuracy Format.binary64 s (m <<< n) (e - n) .exact := by
    rw [n_eq]
    rfl
  have low := least_le_target m e
  have pos' : 0 < m <<< n := by
    rw [Nat.shiftLeft_eq]
    exact Nat.mul_pos pos (Nat.two_pow_pos n)
  have still : target (m <<< n) (e - n) = target m e := by
    rw [target_eq, target_eq, log2_shiftLeft pos]
    omega
  have same : magnitude (m <<< n) (e - n) = magnitude m e := by
    rw [magnitude_eq (show -1074 ≤ e - n by omega) (show e = e - n + n by omega), Nat.shiftLeft_eq]
    rfl
  rw [spread, ← same]
  exact roundWithAccuracy_spec s pos' (by omega) (by omega)

/-! ### Sums -/

/-- A number in units of the smallest one above zero. -/
def units : UnpackedFloat → Int
  | .finite s m e _ => s.apply (magnitude m e)
  | _ => 0

/-- A number that is neither infinite nor NaN, as it is stored if it is not too large. -/
def IsReal : UnpackedFloat → Prop
  | .finite _ m e _ => IsCanonical m e
  | .zero _ => True
  | _ => False

theorem neg_apply (s : Sign) (v : Int) : (-s).apply v = -s.apply v := by
  cases s
  · exact (neg_neg v).symm
  · rfl

theorem fits_units {x : UnpackedFloat} (real : IsReal x) : Fits 53 (units x) := by
  cases x with
  | zero => exact fits_zero 53
  | finite s m e pos =>
      have fits : Fits 53 (magnitude m e) := fits_magnitude real.lt.le
      cases s
      · exact fits.neg
      · exact fits
  | _ => exact fits_zero 53

theorem units_neg (x : UnpackedFloat) : units x.neg = -units x := by
  cases x with
  | finite s m e pos => exact neg_apply s _
  | _ => rfl

theorem isReal_neg {x : UnpackedFloat} (real : IsReal x) : IsReal x.neg := by
  cases x with
  | finite s m e pos => exact real
  | _ => exact real

/-- A sum that is normalized is nearest to what it was. -/
theorem normalize_spec {M e : Int} (least : -1074 ≤ e) (z : Sign) :
    IsReal (UnpackedFloat.normalize Format.binary64 M e z) ∧
      Nearest 53 (M * 2 ^ (e + 1074).toNat)
        (units (UnpackedFloat.normalize Format.binary64 M e z)) := by
  unfold UnpackedFloat.normalize
  rcases lt_trichotomy M 0 with neg | rfl | pos
  · rw [compare_lt_iff_lt.mpr neg]
    obtain ⟨m, rfl⟩ : ∃ m : Nat, M = -m := ⟨(-M).toNat, by omega⟩
    obtain ⟨m', e', pos', rounds, canonical, nearest⟩ := round_spec .negative (m := m)
      (by omega) least
    simp only [neg_neg, Int.toNat_natCast, rounds]
    refine ⟨canonical, ?_⟩
    rw [neg_mul, ← magnitude_cast]
    exact nearest.neg
  · rw [compare_eq_iff_eq.mpr rfl, zero_mul]
    exact ⟨trivial, .of_fits (fits_zero 53)⟩
  · rw [compare_gt_iff_gt.mpr pos]
    obtain ⟨m, rfl⟩ : ∃ m : Nat, M = m := ⟨M.toNat, by omega⟩
    obtain ⟨m', e', pos', rounds, canonical, nearest⟩ := round_spec .positive (m := m)
      (by omega) least
    simp only [Int.toNat_natCast, rounds]
    refine ⟨canonical, ?_⟩
    rw [← magnitude_cast]
    exact nearest

theorem apply_decreased (s : Sign) {m : Nat} {e t : Int} (least : -1074 ≤ t) (le : t ≤ e) :
    s.apply ((UnpackedFloat.decreaseExponent m e t).1 : Nat) * 2 ^ (t + 1074).toNat =
      s.apply (magnitude m e) := by
  have whole : (((UnpackedFloat.decreaseExponent m e t).1 : Nat) : Int) * 2 ^ (t + 1074).toNat =
      magnitude m e := by
    rw [magnitude_eq (n := (e - t).toNat) least (by omega), UnpackedFloat.decreaseExponent,
      Nat.shiftLeft_eq]
    push_cast
    rfl
  rw [← whole]
  cases s
  · exact neg_mul ..
  · rfl

/-- A sum is rounded to a nearest number. -/
theorem add_spec {x y : UnpackedFloat} (hx : IsReal x) (hy : IsReal y) :
    IsReal (UnpackedFloat.add Format.binary64 x y) ∧
      Nearest 53 (units x + units y) (units (UnpackedFloat.add Format.binary64 x y)) := by
  have fits := fits_units hx
  have fits' := fits_units hy
  cases x with
  | infinity | notANumber => exact hx.elim
  | zero s =>
      cases y with
      | infinity | notANumber => exact hy.elim
      | zero s' =>
          have zero (c : Bool) (a b : Sign) :
              IsReal (if c then UnpackedFloat.zero a else .zero b) ∧ Nearest 53 (0 + 0)
                (units (if c then UnpackedFloat.zero a else .zero b)) := by
            cases c <;> exact ⟨trivial, .of_fits (fits_zero 53)⟩
          exact zero ..
      | finite s' m' e' pos' =>
          refine ⟨hy, ?_⟩
          show Nearest 53 (0 + _) _
          rw [zero_add]
          exact .of_fits fits'
  | finite s m e pos =>
      cases y with
      | infinity | notANumber => exact hy.elim
      | zero s' =>
          refine ⟨hx, ?_⟩
          show Nearest 53 (_ + 0) _
          rw [add_zero]
          exact .of_fits fits
      | finite s' m' e' pos' =>
          have least : -1074 ≤ min e e' := le_min hx.le hy.le
          simp only [units]
          rw [← apply_decreased s least (min_le_left ..),
            ← apply_decreased s' least (min_le_right ..), ← add_mul]
          exact normalize_spec least .positive

theorem unpacked_sub (x y : UnpackedFloat) : UnpackedFloat.sub Format.binary64 x y =
    UnpackedFloat.add Format.binary64 x y.neg := by
  rcases x with _ | _ | _ | _ <;> rcases y with _ | _ | _ | _ <;> try rfl
  simp only [UnpackedFloat.sub, UnpackedFloat.add, UnpackedFloat.neg, neg_apply, sub_eq_add_neg]

/-- A difference of reals is a real that is nearest to the exact difference. -/
theorem sub_spec {x y : UnpackedFloat} (hx : IsReal x) (hy : IsReal y) :
    IsReal (UnpackedFloat.sub Format.binary64 x y) ∧
      Nearest 53 (units x - units y) (units (UnpackedFloat.sub Format.binary64 x y)) := by
  rw [unpacked_sub, sub_eq_add_neg, ← units_neg]
  exact add_spec hx (isReal_neg hy)

end Checkup.Clock
