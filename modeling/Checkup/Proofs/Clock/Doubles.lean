import Checkup.Proofs.Clock.Arrives
import Checkup.Proofs.Clock.Sums

/-!
The clock of floating point numbers arrives.

A number that is not too large is stored as it is, and another becomes an infinity. A clock that is
sent to a limit therefore gets there or beyond, or it comes to where the rounded sum is. What is
then missing can be written, so that nothing is rounded when the clock is sent a second time.

Main statements: `settled_cases` (what storing makes of a number), `le_iff_units` (numbers compare
as they do in units), `le_of_moves` (two moves get to the limit) and the instance `Arrives Float`.
-/

namespace Checkup.Clock

open Float.Model
open Float.Model.UnpackedFloat (Sign)

/-! ### Numbers as they are stored -/

/-- What a number is after it has been stored. -/
def settled (x : UnpackedFloat) : UnpackedFloat :=
  .unpack Format.binary64 (UnpackedFloat.pack Format.binary64 x)

theorem unpackSign_packComponents {spec : Format} (s : Sign) (e : BitVec spec.exponentBits)
    (m : BitVec spec.mantissaBitsWithoutImplicit) :
    Sign.ofBitVec (UnpackedFloat.unpackSign (UnpackedFloat.packComponents spec s e m)) = s := by
  have bits : UnpackedFloat.unpackSign (UnpackedFloat.packComponents spec s e m) = s.toBitVec := by
    ext i hi
    obtain rfl : i = 0 := Nat.lt_one_iff.mp hi
    simp [UnpackedFloat.unpackSign, UnpackedFloat.packComponents, BitVec.getLsbD_append,
      BitVec.getElem_append]
  rw [bits]
  cases s <;> rfl

theorem unpack_packComponents {spec : Format} (s : Sign) (e : BitVec spec.exponentBits)
    (m : BitVec spec.mantissaBitsWithoutImplicit) :
    UnpackedFloat.unpack spec (UnpackedFloat.packComponents spec s e m) =
      if e = -1#_ then if m = 0#_ then .infinity s else .notANumber
      else if e = 0#_ then
        if h : m = 0#_ then .zero s
        else .finite s m.toNat
          (e.toNat - (spec.exponentBias + spec.mantissaBitsWithoutImplicit) + 1)
          (by simpa [BitVec.toNat_pos, BitVec.pos_iff_ne_zero])
      else .finite s (1#1 ++ m).toNat
        (e.toNat - (spec.exponentBias + spec.mantissaBitsWithoutImplicit)) (by simp) := by
  unfold UnpackedFloat.unpack
  simp only [UnpackedFloat.unpackExponent_packComponents,
    UnpackedFloat.unpackMantissa_packComponents, unpackSign_packComponents]

theorem settled_infinity (s : Sign) : settled (.infinity s) = .infinity s := by
  show UnpackedFloat.unpack _ (UnpackedFloat.packComponents Format.binary64 s _ _) = _
  rw [unpack_packComponents]
  rfl

theorem settled_zero (s : Sign) : settled (.zero s) = .zero s := by
  show UnpackedFloat.unpack _ (UnpackedFloat.packComponents Format.binary64 s _ _) = _
  rw [unpack_packComponents]
  rfl

/-- A finite number is packed as an infinite one, a full one or a small one, by its exponent. -/
theorem pack_finite (s : Sign) {m : Nat} (e : Int) (pos : 0 < m) :
    UnpackedFloat.pack Format.binary64 (.finite s m e pos) =
      if 2048 ≤ (e + 1075).toNat + 1 then UnpackedFloat.packedInfinity Format.binary64 s
      else if m.log2 + 1 = 53 then
        UnpackedFloat.packComponents Format.binary64 s (.ofNat 11 (e + 1075).toNat) (.ofNat 52 m)
      else UnpackedFloat.packComponents Format.binary64 s (0#11) (.ofNat 52 m) := by
  have bias : e + Format.binary64.exponentBias + (52 : Nat) = e + 1075 := by
    show e + (1023 : Nat) + (52 : Nat) = _
    omega
  rw [← bias]
  rfl

theorem finite_congr (s : Sign) {m m' : Nat} {e e' : Int} (pos : 0 < m) (pos' : 0 < m')
    (same : m = m') (same' : e = e') :
    UnpackedFloat.finite s m e pos = UnpackedFloat.finite s m' e' pos' := by
  subst same same'
  rfl

/-- Of a mantissa with all its digits the first is not stored. -/
theorem toNat_implicit (v : BitVec 52) : (1#1 ++ v).toNat = 2 ^ 52 + v.toNat := by
  rw [BitVec.toNat_append, BitVec.toNat_ofNat, ← Nat.shiftLeft_add_eq_or_of_lt v.isLt,
    Nat.shiftLeft_eq]
  omega

/-- A number with all its digits is stored with its exponent and without the first of them. -/
theorem unpack_normal (s : Sign) {m : Nat} {e : Int} (pos : 0 < m) (full : 2 ^ 52 ≤ m)
    (lt : m < 2 ^ 53) (least : -1074 ≤ e) (inRange : e ≤ 971) :
    UnpackedFloat.unpack Format.binary64 (UnpackedFloat.packComponents Format.binary64 s
      (.ofNat 11 (e + 1075).toNat) (.ofNat 52 m)) = .finite s m e pos := by
  have exponent : (BitVec.ofNat 11 (e + 1075).toNat).toNat = (e + 1075).toNat := by
    rw [BitVec.toNat_ofNat]
    omega
  have mantissa : (1#1 ++ BitVec.ofNat 52 m).toNat = m := by
    rw [toNat_implicit, BitVec.toNat_ofNat]
    omega
  rw [unpack_packComponents, if_neg, if_neg]
  · refine finite_congr s _ pos mantissa ?_
    rw [exponent]
    show ((e + 1075).toNat : Int) - ((1023 : Nat) + (52 : Nat)) = e
    omega
  · intro zero
    rw [zero] at exponent
    have none : (e + 1075).toNat = 0 := exponent.symm
    omega
  · intro ones
    rw [ones] at exponent
    have all : (e + 1075).toNat = 2047 := exponent.symm
    omega

/-- A number with fewer digits has the least exponent, and is stored without it. -/
theorem unpack_subnormal (s : Sign) {m : Nat} (pos : 0 < m) (few : m < 2 ^ 52) :
    UnpackedFloat.unpack Format.binary64 (UnpackedFloat.packComponents Format.binary64 s
      (0#11) (.ofNat 52 m)) = .finite s m (-1074) pos := by
  have mantissa : (BitVec.ofNat 52 m).toNat = m := by
    rw [BitVec.toNat_ofNat]
    omega
  rw [unpack_packComponents, if_neg (by decide), if_pos rfl, dif_neg]
  · exact finite_congr s _ pos mantissa rfl
  · intro zero
    rw [zero] at mantissa
    have none : m = 0 := mantissa.symm
    omega

/-- A mantissa is full if its highest digit is the fifty-third. -/
theorem log2_eq_iff_full {m : Nat} (pos : 0 < m) (lt : m < 2 ^ 53) :
    m.log2 + 1 = 53 ↔ 2 ^ 52 ≤ m := by
  have bound : m.log2 < 53 := (Nat.log2_lt (Nat.ne_of_gt pos)).mpr lt
  rw [← Nat.le_log2 (Nat.ne_of_gt pos)]
  omega

/-- Numbers that are not too large are stored as they are, and the others as infinities. -/
theorem settled_finite (s : Sign) {m : Nat} {e : Int} (pos : 0 < m) (canonical : IsCanonical m e) :
    settled (.finite s m e pos) = if e ≤ 971 then .finite s m e pos else .infinity s := by
  obtain ⟨lt, least, full⟩ := canonical
  unfold settled
  rw [pack_finite]
  by_cases large : 2048 ≤ (e + 1075).toNat + 1
  · rw [if_pos large, if_neg (by omega)]
    exact settled_infinity s
  · have inRange : e ≤ 971 := by omega
    rw [if_neg large, if_pos inRange]
    by_cases digits : m.log2 + 1 = 53
    · rw [if_pos digits]
      exact unpack_normal s pos ((log2_eq_iff_full pos lt).mp digits) lt least inRange
    · have few : ¬ 2 ^ 52 ≤ m := fun whole => digits ((log2_eq_iff_full pos lt).mpr whole)
      obtain rfl : e = -1074 := full.resolve_right few
      rw [if_neg digits]
      exact unpack_subnormal s pos (Nat.lt_of_not_le few)

/-- The least number that is too large to be stored, in units of the smallest one. -/
def tooLarge : Nat := magnitude (2 ^ 53) 971

theorem tooLarge_pos : (0 : Int) < tooLarge :=
  Int.natCast_pos.mpr (Nat.mul_pos (Nat.two_pow_pos 53) (Nat.two_pow_pos _))

/-- A canonical number is small enough to be stored if its exponent is. -/
theorem magnitude_lt_iff {m : Nat} {e : Int} (canonical : IsCanonical m e) :
    magnitude m e < tooLarge ↔ e ≤ 971 := by
  constructor
  · intro small
    by_contra above
    have whole : 2 ^ 52 ≤ m := canonical.full.resolve_left (by omega)
    have large : magnitude (2 ^ 52) (971 + 1) ≤ magnitude m e := magnitude_le whole (by omega)
    rw [magnitude_carry (by decide)] at large
    exact absurd small (Nat.not_lt_of_le large)
  · intro le
    exact (magnitude_lt_left canonical.lt e).trans_le (magnitude_le (Nat.le_refl _) le)

theorem abs_units_finite (s : Sign) {m : Nat} {e : Int} (pos : 0 < m) :
    |units (.finite s m e pos)| = magnitude m e := by
  cases s
  · rw [units, Sign.apply, abs_neg, Nat.abs_cast]
  · rw [units, Sign.apply, Nat.abs_cast]

/-- A number that is not too large is stored as it is, and another as an infinity. -/
theorem settled_cases {x : UnpackedFloat} (real : IsReal x) :
    |units x| < tooLarge ∧ settled x = x ∨
      (tooLarge : Int) ≤ units x ∧ settled x = .infinity .positive ∨
      units x ≤ -tooLarge ∧ settled x = .infinity .negative := by
  cases x with
  | infinity | notANumber => exact real.elim
  | zero s => exact .inl ⟨tooLarge_pos, settled_zero s⟩
  | finite s m e pos =>
      rw [settled_finite s pos real]
      by_cases inRange : e ≤ 971
      · have small : (magnitude m e : Int) < tooLarge :=
          Int.ofNat_lt.mpr ((magnitude_lt_iff real).mpr inRange)
        rw [if_pos inRange]
        exact .inl ⟨by rwa [abs_units_finite], rfl⟩
      · have large : (tooLarge : Int) ≤ magnitude m e :=
          Int.ofNat_le.mpr (Nat.le_of_not_lt fun small =>
            inRange ((magnitude_lt_iff real).mp small))
        rw [if_neg inRange]
        cases s
        · exact .inr (.inr ⟨neg_le_neg large, rfl⟩)
        · exact .inr (.inl ⟨large, rfl⟩)

theorem unpack_eq {spec : Format} (b : BitVec spec.numBits) : UnpackedFloat.unpack spec b =
    UnpackedFloat.unpack spec (UnpackedFloat.packComponents spec
      (Sign.ofBitVec (UnpackedFloat.unpackSign b)) (UnpackedFloat.unpackExponent b)
      (UnpackedFloat.unpackMantissa b)) := by
  rw [unpack_packComponents]
  rfl

/-- What has been stored is an infinity, NaN, or a number that is not too large. -/
theorem unpack_cases (b : BitVec Format.binary64.numBits) :
    (∃ s, UnpackedFloat.unpack Format.binary64 b = .infinity s) ∨
      UnpackedFloat.unpack Format.binary64 b = .notANumber ∨
      IsReal (UnpackedFloat.unpack Format.binary64 b) ∧
        |units (UnpackedFloat.unpack Format.binary64 b)| < tooLarge := by
  have stored (s : Sign) {m : Nat} {e : Int} (pos : 0 < m) (canonical : IsCanonical m e)
      (le : e ≤ 971) : IsReal (.finite s m e pos) ∧ |units (.finite s m e pos)| < tooLarge := by
    rw [abs_units_finite]
    exact ⟨canonical, Int.ofNat_lt.mpr ((magnitude_lt_iff canonical).mpr le)⟩
  rw [unpack_eq, unpack_packComponents]
  generalize Sign.ofBitVec (UnpackedFloat.unpackSign b) = s
  generalize UnpackedFloat.unpackExponent b = k
  generalize UnpackedFloat.unpackMantissa b = v
  have bias : ((Format.binary64.exponentBias : Int) + Format.binary64.mantissaBitsWithoutImplicit) =
    1075 := rfl
  rw [bias]
  have exponent : k.toNat < 2048 := k.isLt
  split
  · split
    · exact .inl ⟨s, rfl⟩
    · exact .inr (.inl rfl)
  · rename_i ones
    have below : k.toNat ≠ 2047 := fun same => ones (BitVec.eq_of_toNat_eq same)
    right
    right
    split
    · rename_i zero
      split
      · exact ⟨trivial, tooLarge_pos⟩
      · have least : (k.toNat : Int) - 1075 + 1 = -1074 := by
          rw [zero]
          rfl
        have small : v.toNat < 2 ^ 52 := v.isLt
        exact stored s _ ⟨by omega, by omega, .inl least⟩ (by omega)
    · rename_i nonzero
      have above : k.toNat ≠ 0 := fun same => nonzero (BitVec.eq_of_toNat_eq same)
      have implicit := toNat_implicit v
      have rest : v.toNat < 2 ^ 52 := v.isLt
      exact stored s _ ⟨by omega, by omega, .inr (by omega)⟩ (by omega)

/-! ### The order -/

/-- Numbers compare as they do in units. -/
theorem le_iff_units {x y : UnpackedFloat} (hx : IsReal x) (hy : IsReal y) :
    x.le y = true ↔ units x ≤ units y := by
  rw [unpacked_le_iff]
  cases x with
  | infinity | notANumber => exact hx.elim
  | zero s =>
      cases y with
      | infinity | notANumber => exact hy.elim
      | zero s' => simp [place, units, UnpackedFloat.isNaN]
      | finite s' m' e' pos' =>
          have above := magnitude_pos pos' e'
          cases s' <;>
            simp [place, units, UnpackedFloat.isNaN, Prod.Lex.toLex_le_toLex, Sign.apply, above.ne']
  | finite s m e pos =>
      have above := magnitude_pos pos e
      cases y with
      | infinity | notANumber => exact hy.elim
      | zero s' =>
          cases s <;>
            simp [place, units, UnpackedFloat.isNaN, Prod.Lex.toLex_le_toLex, Sign.apply, above.ne']
      | finite s' m' e' pos' =>
          have above' := magnitude_pos pos' e'
          have order := magnitude_le_iff hx hy
          have order' := magnitude_le_iff hy hx
          cases s <;> cases s' <;>
            simp [place, units, UnpackedFloat.isNaN, Prod.Lex.toLex_le_toLex, Sign.apply, order,
              order'] <;> omega

theorem le_infinity {x : UnpackedFloat} (hx : x.isNaN = false) :
    x.le (.infinity .positive) = true := by
  cases x with
  | notANumber => cases hx
  | infinity s => cases s <;> rfl
  | zero s => rfl
  | finite s m e pos => cases s <;> rfl

theorem infinity_le {x : UnpackedFloat} (hx : x.isNaN = false) :
    UnpackedFloat.le (.infinity .negative) x = true := by
  cases x with
  | notANumber => cases hx
  | infinity s => cases s <;> rfl
  | zero s => rfl
  | finite s m e pos => rfl

theorem eq_infinity_of_le {x : UnpackedFloat} (le : x.le (.infinity .negative) = true) :
    x = .infinity .negative := by
  cases x with
  | notANumber => cases le
  | infinity s =>
      cases s with
      | negative => rfl
      | positive => cases le
  | zero s => cases le
  | finite s m e pos => cases s <;> cases le

theorem eq_infinity_of_infinity_le {x : UnpackedFloat}
    (le : UnpackedFloat.le (.infinity .positive) x = true) : x = .infinity .positive := by
  cases x with
  | notANumber => cases le
  | infinity s =>
      cases s with
      | negative => cases le
      | positive => rfl
  | zero s => cases le
  | finite s m e pos => cases s <;> cases le

/-! ### Where a clock is sent -/

/-- Where a clock at one number is sent that is to reach another. -/
def sent (l x : UnpackedFloat) : UnpackedFloat :=
  settled (.add Format.binary64 x (settled (.sub Format.binary64 l x)))

theorem add_infinity {x : UnpackedFloat} (hx : IsReal x) (s : Sign) :
    UnpackedFloat.add Format.binary64 x (.infinity s) = .infinity s := by
  cases x with
  | infinity | notANumber => exact hx.elim
  | zero | finite => rfl

/-- A clock that is sent to infinity is there at once. -/
theorem sent_infinity {x : UnpackedFloat} (hx : IsReal x) (s : Sign) :
    sent (.infinity s) x = .infinity s := by
  have rest : UnpackedFloat.sub Format.binary64 (.infinity s) x = .infinity s := by
    cases x with
    | infinity | notANumber => exact hx.elim
    | zero | finite => rfl
  rw [sent, rest, settled_infinity, add_infinity hx, settled_infinity]

/-- A clock that is sent to a number goes to infinity, or to a number that is not below where it was
and that is what adding the rounded rest comes to. -/
theorem sent_cases {l x : UnpackedFloat} (hl : IsReal l) (hx : IsReal x)
    (small : |units x| < tooLarge) (less : units x < units l) :
    sent l x = .infinity .positive ∨ IsReal (sent l x) ∧ units x ≤ units (sent l x) ∧
      ∃ d, Nearest 53 (units l - units x) d ∧ Nearest 53 (units x + d) (units (sent l x)) := by
  obtain ⟨real, nearest⟩ := sub_spec hl hx
  have nonneg := nearest.le_of_le (fits_zero 53) (sub_nonneg.mpr less.le)
  have pos := tooLarge_pos
  unfold sent
  rcases settled_cases real with ⟨-, same⟩ | ⟨-, infinite⟩ | ⟨below, -⟩
  · obtain ⟨real', nearest'⟩ := add_spec hx real
    have up := nearest'.le_of_le (fits_units hx) (by omega)
    rw [same]
    rcases settled_cases real' with ⟨-, same'⟩ | ⟨-, infinite⟩ | ⟨below, -⟩
    · rw [same']
      exact .inr ⟨real', up, _, nearest, nearest'⟩
    · exact .inl infinite
    · have above := (abs_lt.mp small).1
      omega
  · rw [infinite, add_infinity hx]
    exact .inl (settled_infinity .positive)
  · omega

/-- A clock that is short of a number by what can be written gets there. -/
theorem le_sent {l x : UnpackedFloat} (hl : IsReal l) (hx : IsReal x) (small : |units x| < tooLarge)
    (less : units x < units l) (fits : Fits 53 (units l - units x)) :
    l.le (sent l x) = true := by
  rcases sent_cases hl hx small less with infinite | ⟨real, -, d, missing, sum⟩
  · rw [infinite]
    refine le_infinity ?_
    cases l <;> first | rfl | exact hl.elim
  · rw [le_iff_units hl real]
    rw [missing.eq_of_fits fits, add_sub_cancel] at sum
    exact (sum.eq_of_fits (fits_units hl)).ge

theorem isNaN_of_isReal {x : UnpackedFloat} (real : IsReal x) : x.isNaN = false := by
  cases x with
  | infinity | notANumber => exact real.elim
  | zero | finite => rfl

/-- What is not below one number and not above another is a number. -/
theorem isReal_of_between {x y z : UnpackedFloat} (hx : IsReal x) (hz : IsReal z)
    (le : x.le y = true) (le' : y.le z = true) (stored : ∃ b, y = .unpack Format.binary64 b) :
    IsReal y ∧ |units y| < tooLarge := by
  obtain ⟨b, rfl⟩ := stored
  rcases unpack_cases b with ⟨s, infinite⟩ | nan | real
  · rw [infinite] at le le'
    cases s with
    | negative =>
        rw [eq_infinity_of_le le] at hx
        exact hx.elim
    | positive =>
        rw [eq_infinity_of_infinity_le le'] at hz
        exact hz.elim
  · rw [nan] at le'
    cases le'
  · exact real

/-! ### The clock -/

theorem unpack_aim (limit now : Float) :
    (aim limit now).toModel.unpack = sent limit.toModel.unpack now.toModel.unpack := rfl

/-- Below another time, and not below all of them, stands a number. -/
theorem isReal_of_lt {a b : Float} (above : a.toModel.unpack ≠ .infinity .negative)
    (less : lt a b = true) :
    IsReal a.toModel.unpack ∧ |units a.toModel.unpack| < tooLarge := by
  obtain ⟨time, time', notBelow⟩ := (unpacked_lt_iff ..).mp ((float_lt_iff a b).mp less)
  rcases unpack_cases a.toModel.toBits.toBitVec with ⟨s, infinite⟩ | nan | real
  · change a.toModel.unpack = _ at infinite
    cases s with
    | negative => exact absurd infinite above
    | positive =>
        rw [infinite] at notBelow
        exact absurd (le_infinity time') notBelow
  · change a.toModel.unpack = _ at nan
    rw [nan] at time
    cases time
  · exact real

/-- A clock that is sent to a limit gets there, or goes on to where what is missing can be
written. -/
theorem aim_cases {limit now : Float} (above : now.toModel.unpack ≠ .infinity .negative)
    (less : lt now limit = true) : le limit (aim limit now) = true ∨
      IsReal limit.toModel.unpack ∧ IsReal (aim limit now).toModel.unpack ∧
        le now (aim limit now) = true ∧
        Fits 53 (units limit.toModel.unpack - units (aim limit now).toModel.unpack) := by
  obtain ⟨hx, small⟩ := isReal_of_lt above less
  obtain ⟨time, time', notBelow⟩ := (unpacked_lt_iff ..).mp ((float_lt_iff now limit).mp less)
  rw [float_le_iff, float_le_iff, unpack_aim]
  rcases unpack_cases limit.toModel.toBits.toBitVec with ⟨s, infinite⟩ | nan | ⟨hl, -⟩
  · change limit.toModel.unpack = _ at infinite
    rw [infinite] at notBelow ⊢
    cases s with
    | negative => exact absurd (infinity_le time) notBelow
    | positive =>
        rw [sent_infinity hx]
        exact .inl rfl
  · change limit.toModel.unpack = _ at nan
    rw [nan] at time'
    cases time'
  · change IsReal limit.toModel.unpack at hl
    have less' : units now.toModel.unpack < units limit.toModel.unpack := by
      rwa [le_iff_units hl hx, not_le] at notBelow
    rcases sent_cases hl hx small less' with infinite | ⟨real, up, d, missing, sum⟩
    · rw [infinite]
      exact .inl (le_infinity time')
    · exact .inr ⟨hl, real, (le_iff_units hx real).mpr up,
        missing.fits_missing sum (fits_units hx) (fits_units hl)⟩

theorem isNaN_unpacked_add_left (spec : Format) {x y : UnpackedFloat} (hx : x.isFinite = true)
    (hy : y.isNaN = false) : (UnpackedFloat.add spec x y).isNaN = false := by
  cases y with
  | zero | finite => exact isNaN_unpacked_add spec (by cases x <;> first | rfl | cases hx) rfl
  | notANumber => cases hy
  | infinity s =>
      cases x with
      | infinity | notANumber => cases hx
      | zero | finite => rfl

theorem isFinite_of_isReal {x : UnpackedFloat} (real : IsReal x) : x.isFinite = true := by
  cases x with
  | infinity | notANumber => exact real.elim
  | zero | finite => rfl

/-- A clock that went where it was sent stands there. -/
theorem units_of_movesTo {target now now' : Float} (real : IsReal target.toModel.unpack)
    (up : le now target = true) (moves : MovesTo target now now') :
    IsReal now'.toModel.unpack ∧ |units now'.toModel.unpack| < tooLarge ∧
      units now'.toModel.unpack = units target.toModel.unpack := by
  have comes := (float_le_iff ..).mp moves.comes
  have stops : now'.toModel.unpack.le target.toModel.unpack = true := by
    rw [← float_le_iff]
    exact moves.stops.elim (fun still => Ordered.le_trans still up) id
  obtain ⟨real', small⟩ := isReal_of_between real real comes stops ⟨_, rfl⟩
  exact ⟨real', small, le_antisymm ((le_iff_units real' real).mp stops)
    ((le_iff_units real real').mp comes)⟩

/-- The first move gets there or leaves little missing, and then the second move gets there. -/
theorem le_of_moves {limit a b c : Float} (moment : a.toModel.unpack ≠ .infinity .negative)
    (less : lt a limit = true) (first : MovesTo (aim limit a) a b)
    (second : MovesTo (aim limit b) b c) : le limit c = true := by
  rcases aim_cases moment less with reaches | ⟨hl, real, up, fits⟩
  · exact Ordered.le_trans reaches (Ordered.le_trans first.comes second.forward)
  · obtain ⟨hb, small, same⟩ := units_of_movesTo real up first
    by_cases reached : le limit b = true
    · exact Ordered.le_trans reached second.forward
    · have short : units b.toModel.unpack < units limit.toModel.unpack := by
        rwa [float_le_iff, le_iff_units hl hb, not_le] at reached
      have arrived : le limit (aim limit b) = true := by
        rw [float_le_iff, unpack_aim]
        exact le_sent hl hb small short (same ▸ fits)
      exact Ordered.le_trans arrived second.comes

/-- Every time but negative infinity is a moment that a clock can leave. -/
instance : Arrives Float where
  IsMoment x := x.isNaN = false ∧ x.toModel.unpack ≠ .infinity .negative
  isTime_of_isMoment moment := moment.1
  isMoment_of_le {a b} moment less := by
    rw [float_le_iff] at less
    refine ⟨((unpacked_le_iff ..).mp less).2.1, fun bottom => moment.2 ?_⟩
    rw [bottom] at less
    exact eq_infinity_of_le less
  isTime_add {a b t} moment less ht :=
    isNaN_unpack_pack Format.binary64 (isNaN_unpacked_add_left Format.binary64
      (isFinite_of_isReal (isReal_of_lt moment.2 less).1) ht)
  isTime_aim {limit now} moment less := by
    rcases aim_cases moment.2 less with reaches | ⟨-, real, -⟩
    · exact ((unpacked_le_iff ..).mp ((float_le_iff ..).mp reaches)).2.1
    · exact isNaN_of_isReal real
  isTime_left less := ((unpacked_lt_iff ..).mp ((float_lt_iff ..).mp less)).1
  arrives {limit a b c d} moment hl first second third := by
    by_cases reached : le limit a = true
    · exact Ordered.le_trans reached (Ordered.le_trans first.forward
        (Ordered.le_trans second.forward third.forward))
    · have less : lt a limit = true := (Ordered.lt_iff moment.1 hl).mpr reached
      exact Ordered.le_trans (le_of_moves moment.2 less first second) third.forward

end Checkup.Clock
