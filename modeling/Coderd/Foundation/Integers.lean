import Mathlib.Algebra.Order.Ring.Int

namespace Coderd.Foundation

/-! ## Signed integers of a fixed width -/

/-- An integer that a signed word of that many bits holds. -/
def Fits (bits : ℕ) (n : ℤ) : Prop := -2 ^ (bits - 1) ≤ n ∧ n < 2 ^ (bits - 1)

instance (bits : ℕ) (n : ℤ) : Decidable (Fits bits n) :=
  inferInstanceAs (Decidable (_ ∧ _))

/-- The integer modulo `2 ^ bits`, in the range of a signed word: what `as` makes of a wider
integer, and the result of an operation that overflows in a release build. -/
def wrap (bits : ℕ) (n : ℤ) : ℤ := n.bmod (2 ^ bits)

variable {bits : ℕ} {n k : ℤ}

theorem two_pow_eq (hbits : 0 < bits) : ((2 ^ bits : ℕ) : ℤ) = 2 * 2 ^ (bits - 1) := by
  rw [← pow_succ', Nat.sub_add_cancel hbits]
  push_cast
  rfl

theorem fits_wrap (hbits : 0 < bits) (n : ℤ) : Fits bits (wrap bits n) := by
  have hpos : 0 < 2 ^ bits := Nat.two_pow_pos bits
  have hle := Int.le_bmod (x := n) hpos
  have hlt := Int.bmod_lt (x := n) hpos
  have hhalf := two_pow_eq hbits
  unfold Fits wrap
  omega

theorem wrap_of_fits (hbits : 0 < bits) (h : Fits bits n) : wrap bits n = n := by
  have hhalf := two_pow_eq hbits
  obtain ⟨hle, hlt⟩ := h
  unfold wrap
  rw [Int.bmod_eq_of_le] <;> omega

theorem wrap_eq_self_iff (hbits : 0 < bits) : wrap bits n = n ↔ Fits bits n := by
  refine ⟨fun h => ?_, wrap_of_fits hbits⟩
  rw [← h]
  exact fits_wrap hbits n

/-- What is multiplied in a word is got back by the division exactly if the product fits. -/
theorem tdiv_wrap_mul_eq_iff (hbits : 0 < bits) (hk : 0 < k) (hword : k ≤ 2 ^ bits) :
    (wrap bits (n * k)).tdiv k = n ↔ Fits bits (n * k) := by
  rw [← wrap_eq_self_iff hbits]
  constructor
  · intro h
    have hdiv := Int.tmod_add_mul_tdiv (wrap bits (n * k)) k
    rw [h, mul_comm k n] at hdiv
    -- the remainder is a multiple of the modulus, and less than it
    have hrem : wrap bits (n * k) - n * k = (wrap bits (n * k)).tmod k := by omega
    have hdvd : ((2 ^ bits : ℕ) : ℤ) ∣ wrap bits (n * k) - n * k := Int.dvd_bmod_sub_self
    have hlt : |wrap bits (n * k) - n * k| < ((2 ^ bits : ℕ) : ℤ) := by
      have habove := Int.tmod_lt_of_pos (wrap bits (n * k)) hk
      have hbelow := Int.lt_tmod_of_pos (wrap bits (n * k)) hk
      rw [hrem, abs_lt]
      push_cast
      omega
    have hzero := Int.eq_zero_of_abs_lt_dvd hdvd hlt
    omega
  · intro h
    rw [h, Int.mul_tdiv_cancel _ (ne_of_gt hk)]

end Coderd.Foundation
