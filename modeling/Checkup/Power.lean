/-!
Powers of the two bases that numbers are written to here, two and ten.
-/

namespace Checkup

abbrev pow2 (n : Nat) : Nat := Nat.pow 2 n

abbrev pow10 (n : Nat) : Nat := Nat.pow 10 n

theorem pow2_pos (n : Nat) : 0 < pow2 n := Nat.pow_pos (by decide)

end Checkup
