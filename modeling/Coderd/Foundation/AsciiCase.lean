import Mathlib.Algebra.Ring.Nat

namespace Coderd.Foundation

/-! ## ASCII letters and digits -/

section AsciiCase

variable {c : Char}

theorem isUpper_iff : c.isUpper = true ↔ 65 ≤ c.toNat ∧ c.toNat ≤ 90 :=
  decide_eq_true_iff.trans (and_congr UInt32.le_iff_toNat_le UInt32.le_iff_toNat_le)

theorem isLower_iff : c.isLower = true ↔ 97 ≤ c.toNat ∧ c.toNat ≤ 122 := by
  show (decide (c.val ≥ 'a'.val) && decide (c.val ≤ 'z'.val)) = true ↔ _
  rw [Bool.and_eq_true, decide_eq_true_eq, decide_eq_true_eq]
  exact and_congr UInt32.le_iff_toNat_le UInt32.le_iff_toNat_le

theorem isDigit_iff : c.isDigit = true ↔ 48 ≤ c.toNat ∧ c.toNat ≤ 57 := by
  show (decide (c.val ≥ '0'.val) && decide (c.val ≤ '9'.val)) = true ↔ _
  rw [Bool.and_eq_true, decide_eq_true_eq, decide_eq_true_eq]
  exact and_congr UInt32.le_iff_toNat_le UInt32.le_iff_toNat_le

theorem isAlphanum_eq (c : Char) : c.isAlphanum = (c.isUpper || c.isLower || c.isDigit) := rfl

/-! ### Lower case -/

theorem toLower_of_not_isUpper (h : c.isUpper = false) : c.toLower = c :=
  dif_neg (of_decide_eq_false h)

theorem toNat_toLower_of_isUpper (h : c.isUpper = true) :
    c.toLower.toNat = c.toNat + 32 := by
  have hbounds : c.val ≥ 'A'.val ∧ c.val ≤ 'Z'.val := of_decide_eq_true h
  have hhigh : c.toNat ≤ 90 := UInt32.le_iff_toNat_le.mp hbounds.2
  have hlower : c.toLower.val = c.val + 32 := congrArg Char.val (dif_pos hbounds)
  show c.toLower.val.toNat = c.val.toNat + 32
  rw [hlower, UInt32.toNat_add]
  exact Nat.mod_eq_of_lt (by simp; omega)

theorem isLower_toLower (h : c.isUpper = true) : c.toLower.isLower = true := by
  have hbounds := isUpper_iff.mp h
  rw [isLower_iff, toNat_toLower_of_isUpper h]
  omega

theorem not_isUpper_of_isLower (h : c.isLower = true) : c.isUpper = false := by
  have hlow := isLower_iff.mp h
  refine Bool.eq_false_iff.mpr fun hupper => ?_
  have hhigh := isUpper_iff.mp hupper
  omega

@[simp] theorem toLower_toLower (c : Char) : c.toLower.toLower = c.toLower := by
  cases h : c.isUpper with
  | false => rw [toLower_of_not_isUpper h, toLower_of_not_isUpper h]
  | true => rw [toLower_of_not_isUpper (not_isUpper_of_isLower (isLower_toLower h))]

@[simp] theorem isAlphanum_toLower (c : Char) : c.toLower.isAlphanum = c.isAlphanum := by
  cases h : c.isUpper with
  | false => rw [toLower_of_not_isUpper h]
  | true => simp [isAlphanum_eq, h, isLower_toLower h]

end AsciiCase

end Coderd.Foundation
