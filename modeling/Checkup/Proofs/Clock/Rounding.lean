import Mathlib.Algebra.Order.Ring.Abs
import Mathlib.Algebra.Order.Ring.Int
import Mathlib.Algebra.Ring.Divisibility.Basic
import Mathlib.Tactic.Linarith
import Mathlib.Tactic.Ring

/-!
Rounding to so many binary digits.

Numbers are counted in units of the smallest one above zero, so that all of them are whole.
`Fits p v` says that `v` can be written with `p` binary digits and zeros after them, and
`Nearest p v r` that `r` can and that no other such number is nearer to `v`. Which of two is taken
that are as near is left open.

Main statements: `Nearest.fits_error` (what rounding a sum loses can be written),
`Nearest.fits_sub_left` (so can what a rounded sum adds to the greater summand) and
`Nearest.fits_missing` (whoever adds what is missing misses by a number that can be written, and the
next time adds just that).
-/

namespace Checkup.Clock

/-- A number that can be written with `p` binary digits and zeros after them. -/
def Fits (p : Nat) (v : Int) : Prop := ∃ k : Nat, 2 ^ k ∣ v ∧ |v| ≤ 2 ^ (p + k)

/-- One of the numbers nearest to another that can be written. -/
structure Nearest (p : Nat) (v r : Int) : Prop where
  fits : Fits p r
  least {f : Int} : Fits p f → |r - v| ≤ |f - v|

variable {p i : Nat} {u v r f x y d s z : Int}

/-! ### What can be written -/

theorem fits_of_le (small : |v| ≤ 2 ^ p) : Fits p v := ⟨0, one_dvd v, small⟩

theorem fits_zero (p : Nat) : Fits p 0 := fits_of_le (by simp)

namespace Fits

theorem neg (fits : Fits p v) : Fits p (-v) := by
  obtain ⟨k, divides, le⟩ := fits
  exact ⟨k, dvd_neg.mpr divides, by rwa [abs_neg]⟩

theorem double (fits : Fits p v) : Fits p (2 * v) := by
  obtain ⟨k, ⟨c, rfl⟩, le⟩ := fits
  refine ⟨k + 1, ⟨c, by ring⟩, ?_⟩
  calc |2 * (2 ^ k * c)| = 2 * |2 ^ k * c| := by rw [abs_mul, abs_two]
    _ ≤ 2 * 2 ^ (p + k) := by linarith
    _ = 2 ^ (p + (k + 1)) := by ring

/-- A number is small, or the double of one that can be written. -/
theorem small_or_double (fits : Fits p v) : |v| ≤ 2 ^ p ∨ ∃ h, v = 2 * h ∧ Fits p h := by
  obtain ⟨k, ⟨c, rfl⟩, le⟩ := fits
  cases k with
  | zero => exact .inl le
  | succ k =>
      refine .inr ⟨2 ^ k * c, by ring, k, dvd_mul_right .., ?_⟩
      have twice : |2 ^ (k + 1) * c| = 2 * |2 ^ k * c| := by
        rw [show (2 : Int) ^ (k + 1) * c = 2 * (2 ^ k * c) by ring, abs_mul, abs_two]
      have bound : (2 : Int) ^ (p + (k + 1)) = 2 * 2 ^ (p + k) := by ring
      rw [twice, bound] at le
      linarith

/-- Two numbers that are not farther apart than each is from zero differ by one that can be
written. -/
theorem sub (fits : Fits p u) (fits' : Fits p v) (near : |u - v| ≤ |u|) (near' : |u - v| ≤ |v|) :
    Fits p (u - v) := by
  obtain ⟨i, divides, le⟩ := fits
  obtain ⟨j, divides', le'⟩ := fits'
  rcases Nat.le_total i j with h | h
  · exact ⟨i, dvd_sub divides ((pow_dvd_pow 2 h).trans divides'), near.trans le⟩
  · exact ⟨j, dvd_sub ((pow_dvd_pow 2 h).trans divides) divides', near'.trans le'⟩

end Fits

namespace Nearest

/-! ### What is nearest -/

/-- What can be written is not rounded. -/
theorem eq_of_fits (nearest : Nearest p v r) (fits : Fits p v) : r = v := by
  have least := nearest.least fits
  rw [sub_self, abs_zero] at least
  exact sub_eq_zero.mp (abs_nonpos_iff.mp least)

theorem of_fits (fits : Fits p v) : Nearest p v v :=
  ⟨fits, fun _ => by simp⟩

theorem neg (nearest : Nearest p v r) : Nearest p (-v) (-r) := by
  refine ⟨nearest.fits.neg, fun {f} fits => ?_⟩
  have least := nearest.least fits.neg
  rwa [← abs_neg (-r - -v), ← abs_neg (f - -v), show -(-r - -v) = r - v by ring,
    show -(f - -v) = -f - v by ring]

/-- Rounding does not cross what can be written. -/
theorem le_of_le (nearest : Nearest p v r) (fits : Fits p f) (le : f ≤ v) : f ≤ r := by
  have least := nearest.least fits
  rw [abs_sub_comm f v, abs_of_nonneg (sub_nonneg.mpr le)] at least
  linarith [neg_abs_le (r - v)]

/-- Rounding does not pass a number that fits. -/
theorem ge_of_ge (nearest : Nearest p v r) (fits : Fits p f) (le : v ≤ f) : r ≤ f := by
  have least := nearest.neg.le_of_le fits.neg (neg_le_neg le)
  exact neg_le_neg_iff.mp least

/-- What is rounded ends in at least as many zeros as before. -/
theorem dvd (nearest : Nearest p v r) (divides : 2 ^ i ∣ v) : 2 ^ i ∣ r := by
  by_cases small : |v| ≤ 2 ^ (p + i)
  · rwa [nearest.eq_of_fits ⟨i, divides, small⟩]
  · have edge : Fits p (2 ^ (p + i)) :=
      ⟨i, pow_dvd_pow 2 (Nat.le_add_left i p), le_of_eq (abs_of_pos (pow_pos two_pos _))⟩
    have beyond : 2 ^ (p + i) ≤ |r| := by
      rcases lt_abs.mp (not_le.mp small) with above | below
      · exact (nearest.le_of_le edge above.le).trans (le_abs_self r)
      · have least := nearest.ge_of_ge edge.neg (by linarith)
        exact le_trans (by linarith) (neg_le_abs r)
    obtain ⟨k, divides', le⟩ := nearest.fits
    have zeros : p + i ≤ p + k := (pow_le_pow_iff_right₀ one_lt_two).mp (beyond.trans le)
    exact (pow_dvd_pow 2 (Nat.le_of_add_le_add_left zeros)).trans divides'

/-! ### Sums -/

/-- A sum is off by no more than its left part, if the right part fits. -/
theorem error_le_left (nearest : Nearest p (x + y) s) (hy : Fits p y) : |s - (x + y)| ≤ |x| := by
  have least := nearest.least hy
  rwa [show y - (x + y) = -x by ring, abs_neg] at least

theorem error_le_right (nearest : Nearest p (x + y) s) (hx : Fits p x) : |s - (x + y)| ≤ |y| := by
  have least := nearest.least hx
  rwa [show x - (x + y) = -y by ring, abs_neg] at least

/-- What rounding a sum loses can be written. -/
theorem fits_error (nearest : Nearest p (x + y) s) (hx : Fits p x) (hy : Fits p y) :
    Fits p (s - (x + y)) := by
  obtain ⟨i, divides, le⟩ := id hx
  obtain ⟨j, divides', le'⟩ := id hy
  rcases Nat.le_total i j with h | h
  · have sum : 2 ^ i ∣ x + y := dvd_add divides ((pow_dvd_pow 2 h).trans divides')
    exact ⟨i, dvd_sub (nearest.dvd sum) sum, (nearest.error_le_left hy).trans le⟩
  · have sum : 2 ^ j ∣ x + y := dvd_add ((pow_dvd_pow 2 h).trans divides) divides'
    exact ⟨j, dvd_sub (nearest.dvd sum) sum, (nearest.error_le_right hx).trans le'⟩

/-- A rounded sum is near enough to a summand that is not below zero, unless nothing is rounded. -/
theorem fits_sub_of_nonneg (nearest : Nearest p (x + y) s) (hx : Fits p x) (hy : Fits p y)
    (nonneg : 0 ≤ x) (le : |y| ≤ x) : Fits p (s - x) := by
  obtain ⟨below, above⟩ := abs_le.mp le
  have upper : s ≤ 2 * x := nearest.ge_of_ge hx.double (by linarith)
  have lower : 0 ≤ s := nearest.le_of_le (fits_zero p) (by linarith)
  have exact_ (fits : Fits p (x + y)) : Fits p (s - x) := by
    rw [nearest.eq_of_fits fits, add_sub_cancel_left]
    exact hy
  by_cases half : x ≤ 2 * s
  · refine nearest.fits.sub hx ?_ ?_
    · rw [abs_of_nonneg lower, abs_le]
      constructor <;> linarith
    · rw [abs_of_nonneg nonneg, abs_le]
      constructor <;> linarith
  · -- Now the other summand takes away from this one.
    have negative : y ≤ 0 := by
      by_contra positive
      have least : x ≤ s := nearest.le_of_le hx (by linarith)
      linarith
    by_cases much : x ≤ -2 * y
    · refine exact_ ?_
      have fits := hx.sub hy.neg (by rw [abs_of_nonneg nonneg, abs_le]; constructor <;> linarith)
        (by rw [abs_neg, abs_of_nonpos negative, abs_le]; constructor <;> linarith)
      rwa [sub_neg_eq_add] at fits
    · rcases hx.small_or_double with small | ⟨h, rfl, fits⟩
      · refine exact_ (fits_of_le ?_)
        rw [abs_of_nonneg nonneg] at small
        rw [abs_le]
        constructor <;> linarith
      · have least : h ≤ s := nearest.le_of_le fits (by linarith)
        linarith

/-- What a rounded sum adds to the greater summand can be written. -/
theorem fits_sub_left (nearest : Nearest p (x + y) s) (hx : Fits p x) (hy : Fits p y)
    (le : |y| ≤ |x|) : Fits p (s - x) := by
  rcases le_total 0 x with nonneg | nonpos
  · exact nearest.fits_sub_of_nonneg hx hy nonneg (by rwa [abs_of_nonneg nonneg] at le)
  · have opposite : Nearest p (-x + -y) (-s) := by
      rw [← neg_add]
      exact nearest.neg
    have fits := opposite.fits_sub_of_nonneg hx.neg hy.neg (by linarith)
      (by rwa [abs_neg, ← abs_of_nonpos nonpos])
    rw [show s - x = -(-s - -x) by ring]
    exact fits.neg

/-- Whoever adds what is missing, and rounds twice, then misses by a number that can be written. -/
theorem fits_missing (missing : Nearest p (y - x) d) (sum : Nearest p (x + d) z) (hx : Fits p x)
    (hy : Fits p y) : Fits p (y - z) := by
  rw [sub_eq_add_neg] at missing
  have error := missing.fits_error hy hx.neg
  have little := missing.error_le_left hx.neg
  have same : x + d = y + (d - (y + -x)) := by ring
  rw [same] at sum
  rw [← neg_sub]
  exact (sum.fits_sub_left hy error little).neg

/-! ### Cutting digits off -/

/-- A multiple of a power of two that is half of it away at most is nearest, where only multiples of
that power can be written. -/
theorem of_close {q g : Nat} {m : Int} (close : 2 * |m * 2 ^ g - v| ≤ 2 ^ g)
    (fits : Fits (q + 1) (m * 2 ^ g)) (large : 2 ^ (q + g) ≤ v) :
    Nearest (q + 1) v (m * 2 ^ g) := by
  have apart (c : Int) : |m * 2 ^ g - v| ≤ |c * 2 ^ g - v| := by
    by_cases same : c = m
    · rw [same]
    · have step : 2 ^ g ≤ |c * 2 ^ g - m * 2 ^ g| := by
        rw [← sub_mul, abs_mul, abs_of_pos (pow_pos (two_pos : (0 : Int) < 2) g)]
        exact le_mul_of_one_le_left (pow_pos two_pos g).le
          (Int.one_le_abs (sub_ne_zero.mpr same))
      have through := abs_sub_le (c * 2 ^ g) v (m * 2 ^ g)
      rw [abs_sub_comm v] at through
      linarith
  refine ⟨fits, fun {f} written => ?_⟩
  obtain ⟨k, divides, le⟩ := written
  rcases Nat.lt_or_ge k g with fewer | more
  · have bound : (2 : Int) ^ (q + 1 + k) ≤ 2 ^ (q + g) :=
      pow_le_pow_right₀ one_le_two (by omega)
    have edge := apart (2 ^ q)
    rw [← pow_add, abs_sub_comm (2 ^ (q + g)) v, abs_of_nonneg (sub_nonneg.mpr large)] at edge
    have below : f ≤ v := by linarith [le_abs_self f]
    rw [abs_sub_comm f v, abs_of_nonneg (sub_nonneg.mpr below)]
    linarith [le_abs_self f]
  · obtain ⟨c, rfl⟩ := (pow_dvd_pow 2 more).trans divides
    rw [mul_comm (2 ^ g) c]
    exact apart c

/-- What is close in units of the last digit is nearest, with zeros behind it too. -/
theorem of_close_mul {q n c : Nat} {m : Int} (close : 2 * |m * 2 ^ n - v| ≤ 2 ^ n)
    (fits : Fits (q + 1) (m * 2 ^ (n + c))) (large : 2 ^ (q + n) ≤ v) :
    Nearest (q + 1) (v * 2 ^ c) (m * 2 ^ (n + c)) := by
  have pos : (0 : Int) < 2 ^ c := pow_pos two_pos c
  refine of_close ?_ fits ?_
  · rw [pow_add, ← mul_assoc, ← sub_mul, abs_mul, abs_of_pos pos, ← mul_assoc]
    exact mul_le_mul_of_nonneg_right close pos.le
  · rw [← add_assoc, pow_add]
    exact mul_le_mul_of_nonneg_right large pos.le

end Nearest

end Checkup.Clock
