import Checkup.Clock
import Mathlib.Algebra.Ring.Nat

/-!
Which whole numbers of seconds fit a clock of floating point times.

A whole number fits unless the number nearest to it lies beyond the largest finite one. That is half
a unit in the last place further on: at `2 ^ 1024 - 2 ^ 970`.

Main statements: `ofInt?_isSome_iff` and, for spans, `seconds?_whole_iff`.
-/

namespace Checkup.Decimal

/-- A quotient is rounded to below an even number if it is half a unit below. -/
theorem roundHalfEven_lt_iff {num den m : Nat} (pos : 0 < den) (even : m % 2 = 0) :
    roundHalfEven num den < m ↔ 2 * num + den < 2 * (m * den) := by
  have split := Nat.div_add_mod' num den
  have rest := Nat.mod_lt num pos
  generalize quotient : num / den = q at split
  generalize remainder : num % den = r at split rest
  simp only [roundHalfEven, quotient, remainder]
  rcases Nat.lt_trichotomy (q + 1) m with below | rfl | above
  · have room : (q + 2) * den ≤ m * den := Nat.mul_le_mul_right den below
    rw [Nat.add_mul] at room
    have near : 2 * num + den < 2 * (m * den) := by omega
    refine iff_of_true ?_ near
    split
    · omega
    · split
      · omega
      · split <;> omega
  · -- The number is half way at most, and half way goes up since what is below is odd.
    rw [Nat.add_mul, if_neg (show ¬ q % 2 = 0 by omega)]
    split
    · omega
    · split <;> omega
  · have full : m * den ≤ q * den := Nat.mul_le_mul_right den (by omega)
    refine iff_of_false ?_ (by omega)
    split
    · omega
    · split
      · omega
      · split <;> omega

/-- The exponent of a whole number keeps fifty-three of its bits. -/
theorem scaleOf_one {n : Nat} (pos : n ≠ 0) : scaleOf n 1 = (n.log2 : Int) - 52 := by
  have reached : 1 * pow2 n.log2 ≤ n := by
    rw [Nat.one_mul]
    exact Nat.log2_self_le pos
  have guess : (n.log2 : Int) - Nat.log2 1 = .ofNat n.log2 := by
    rw [show Nat.log2 1 = 0 from rfl]
    exact Int.sub_zero _
  have least : leastExponent ≤ (n.log2 : Int) - 52 := by
    unfold leastExponent
    omega
  simp only [scaleOf, guess, reached, decide_true, if_true]
  exact Int.max_eq_right least

theorem pow2_eq (n : Nat) : pow2 n = 2 ^ n := rfl

theorem roundHalfEven_one (n : Nat) : roundHalfEven n 1 = n := by
  simp [roundHalfEven, Nat.mod_one]

/-- Fewer than fifty-two bits need no rounding. -/
theorem nearest_of_short {n : Nat} (negative : Bool) (pos : n ≠ 0) (short : n.log2 < 52) :
    (nearest negative n 1).isSome := by
  have exponent : scaleOf n 1 = .negSucc (51 - n.log2) := by
    rw [scaleOf_one pos]
    omega
  have upper : n < 2 ^ (n.log2 + 1) := Nat.lt_log2_self
  have bound : n * pow2 (51 - n.log2 + 1) < 2 ^ 53 := by
    calc n * pow2 (51 - n.log2 + 1)
        < 2 ^ (n.log2 + 1) * 2 ^ (51 - n.log2 + 1) := Nat.mul_lt_mul_of_pos_right upper (pow2_pos _)
      _ = 2 ^ 53 := by rw [← Nat.pow_add]; congr 1; omega
  have place : (Int.negSucc (51 - n.log2) - leastExponent).toNat ≤ 1073 := by
    unfold leastExponent
    omega
  have fits : (Int.negSucc (51 - n.log2) - leastExponent).toNat * pow2 52 +
      n * pow2 (51 - n.log2 + 1) < 2047 * pow2 52 := by
    have places := Nat.mul_le_mul_right (pow2 52) place
    rw [pow2_eq 52] at places ⊢
    omega
  simp only [nearest, if_neg pos, exponent, roundHalfEven_one, if_pos fits, Option.isSome_some]

/-- A longer one is rounded to fifty-three bits, which may carry. -/
theorem nearest_of_long {n : Nat} (negative : Bool) (pos : n ≠ 0) (long : 52 ≤ n.log2) :
    (nearest negative n 1).isSome ↔
      2 * n + 2 ^ (n.log2 - 52) < 2 * ((1025 - n.log2) * 2 ^ n.log2) := by
  have exponent : scaleOf n 1 = .ofNat (n.log2 - 52) := by
    rw [scaleOf_one pos, Int.ofNat_eq_natCast]
    omega
  have place : (Int.ofNat (n.log2 - 52) - leastExponent).toNat = n.log2 + 1022 := by
    rw [Int.ofNat_eq_natCast]
    unfold leastExponent
    omega
  have unit : 2 ^ 52 * 2 ^ (n.log2 - 52) = 2 ^ n.log2 := by
    rw [← Nat.pow_add]
    congr 1
    omega
  have even : (1025 - n.log2) * 2 ^ 52 % 2 = 0 := by omega
  have rounds : roundHalfEven n (2 ^ (n.log2 - 52)) < (1025 - n.log2) * 2 ^ 52 ↔
      2 * n + 2 ^ (n.log2 - 52) < 2 * ((1025 - n.log2) * 2 ^ n.log2) := by
    rw [← unit, ← Nat.mul_assoc (1025 - n.log2)]
    exact roundHalfEven_lt_iff (Nat.two_pow_pos _) even
  have below : (n.log2 + 1022) * 2 ^ 52 + roundHalfEven n (2 ^ (n.log2 - 52)) < 2047 * 2 ^ 52 ↔
      roundHalfEven n (2 ^ (n.log2 - 52)) < (1025 - n.log2) * 2 ^ 52 := by omega
  simp only [nearest, if_neg pos, exponent, place, Nat.one_mul, pow2_eq]
  rw [← rounds, ← below]
  split
  · exact iff_of_true rfl ‹_›
  · exact iff_of_false nofun ‹_›

/-- The least whole number that does not fit: half way from the largest finite number to the next
power of two. -/
def tooLong : Nat := 2 ^ 1024 - 2 ^ 970

/-- A whole number is near a finite one as long as it is below the limit. -/
theorem isSome_nearest_iff (negative : Bool) (n : Nat) :
    (nearest negative n 1).isSome ↔ n < tooLong := by
  unfold tooLong
  have doubled (e : Nat) : 2 ^ (e + 1) = 2 * 2 ^ e := Nat.pow_succ'
  have less (e : Nat) (below : e + 1 ≤ 1023) : 2 * 2 ^ e ≤ 2 ^ 1023 := by
    have grows := Nat.pow_le_pow_right Nat.two_pos below
    rwa [doubled] at grows
  have small := less 970 (by omega)
  have unit := doubled 970
  have top := doubled 1023
  have positive := Nat.two_pow_pos 970
  by_cases zero : n = 0
  · subst zero
    exact iff_of_true rfl (by omega)
  have lower : 2 ^ n.log2 ≤ n := Nat.log2_self_le zero
  have upper : n < 2 * 2 ^ n.log2 := Nat.pow_succ' ▸ Nat.lt_log2_self
  rcases Nat.lt_trichotomy n.log2 1023 with below | same | beyond
  · have room := less n.log2 below
    refine iff_of_true ?_ (by omega)
    by_cases short : n.log2 < 52
    · exact nearest_of_short negative zero short
    · rw [nearest_of_long negative zero (Nat.le_of_not_lt short)]
      have unit : 2 ^ (n.log2 - 52) ≤ 2 ^ n.log2 :=
        Nat.pow_le_pow_right Nat.two_pos (Nat.sub_le _ _)
      have places : 3 * 2 ^ n.log2 ≤ (1025 - n.log2) * 2 ^ n.log2 :=
        Nat.mul_le_mul_right _ (by omega)
      omega
  · rw [nearest_of_long negative zero (by omega), same, show 1023 - 52 = 971 from rfl,
      show 1025 - 1023 = 2 from rfl]
    omega
  · have room := Nat.pow_le_pow_right Nat.two_pos (show 1024 ≤ n.log2 from beyond)
    rw [nearest_of_long negative zero (by omega)]
    have places : (1025 - n.log2) * 2 ^ n.log2 ≤ 1 * 2 ^ n.log2 :=
      Nat.mul_le_mul_right _ (by omega)
    have unit := Nat.two_pow_pos (n.log2 - 52)
    exact iff_of_false (by omega) (by omega)

/-- Which whole numbers fit. -/
theorem ofInt?_isSome_iff (n : Int) : (ofInt? n).isSome ↔ n.natAbs < tooLong :=
  isSome_nearest_iff _ _

end Checkup.Decimal

namespace Checkup.Span

/-- Which whole numbers of seconds are times of a floating point clock. -/
theorem seconds?_whole_iff (n : Int) : (∃ limit, (whole n : Span Float).seconds? = .ok limit) ↔
    n.natAbs < Decimal.tooLong := by
  refine Iff.trans ?_ (Decimal.ofInt?_isSome_iff n)
  rw [seconds?, seconds?.ofWhole, show Decimal.ofInt? n = Clock.ofInt? n from rfl]
  cases Clock.ofInt? (τ := Float) n <;> simp

/-- The others cannot be added to the time. -/
theorem seconds?_whole_of_tooLong {n : Int} (long : Decimal.tooLong ≤ n.natAbs) :
    (whole n : Span Float).seconds? =
      .error (.because .overflowError "int too large to convert to float") := by
  have none : Clock.ofInt? (τ := Float) n = none := by
    apply Option.not_isSome_iff_eq_none.mp
    intro fits
    exact Nat.not_lt.mpr long ((Decimal.ofInt?_isSome_iff n).mp fits)
  rw [seconds?, seconds?.ofWhole, none]

end Checkup.Span
