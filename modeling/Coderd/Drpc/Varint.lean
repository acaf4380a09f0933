import Coderd.Drpc.Wire
import Mathlib.Tactic.Ring

namespace Coderd.Drpc
open Coderd.Foundation

theorem shiftRight_seven (v : UInt64) : (v >>> 7).toNat = v.toNat / 128 := by
  simp only [UInt64.toNat_shiftRight, UInt64.reduceToNat, Nat.reduceMod,
    Nat.shiftRight_eq_div_pow]

theorem encodeVarint_small {v : UInt64} (h : v.toNat < 128) : encodeVarint v = [v.toUInt8] := by
  rw [encodeVarint, if_neg]
  simpa [UInt64.le_iff_toNat_le] using h

theorem encodeVarint_large {v : UInt64} (h : 128 ≤ v.toNat) :
    encodeVarint v = ((v.toUInt8 &&& 0x7f) ||| 0x80) :: encodeVarint (v >>> 7) := by
  rw [encodeVarint, if_pos]
  simpa [UInt64.le_iff_toNat_le] using h

/-- The low seven bits of a byte, and whether its continuation bit is set. -/
theorem byte_payload (b : UInt8) : (b &&& 0x7f).toNat = b.toNat % 128 := by
  rw [UInt8.toNat_and]
  exact Nat.and_two_pow_sub_one_eq_mod b.toNat 7

theorem forall_byte {p : UInt8 → Prop} (h : ∀ i : Fin 256, p (UInt8.ofFin i)) (b : UInt8) : p b := by
  simpa using h b.toFin

theorem byte_last {b : UInt8} : b.toNat < 128 → b &&& 0x80 = 0 :=
  forall_byte (p := fun b => b.toNat < 128 → b &&& 0x80 = 0) (by decide +kernel) b

theorem continued_payload (b : UInt8) : ((b &&& 0x7f) ||| 0x80) &&& 0x7f = b &&& 0x7f :=
  forall_byte (p := fun b => ((b &&& 0x7f) ||| 0x80) &&& 0x7f = b &&& 0x7f) (by decide +kernel) b

theorem continued_not_last (b : UInt8) : ((b &&& 0x7f) ||| 0x80) &&& 0x80 ≠ 0 :=
  forall_byte (p := fun b => ((b &&& 0x7f) ||| 0x80) &&& 0x80 ≠ 0) (by decide +kernel) b

/-- Or-ing a payload in above the bits already read adds it at its place value. -/
theorem accumulate {acc : UInt64} {payload : UInt8} {s : Nat} (hs : s < 64)
    (hacc : acc.toNat < 2 ^ s) (hfit : payload.toNat * 2 ^ s < 2 ^ 64) :
    (acc ||| (payload.toUInt64 <<< UInt64.ofNat s)).toNat = acc.toNat + payload.toNat * 2 ^ s := by
  have hshift : (UInt64.ofNat s).toNat = s := by
    rw [UInt64.toNat_ofNat']
    exact Nat.mod_eq_of_lt (by omega)
  rw [UInt64.toNat_or, UInt64.toNat_shiftLeft, UInt8.toNat_toUInt64, hshift,
    Nat.mod_eq_of_lt hs, Nat.shiftLeft_eq, Nat.mod_eq_of_lt hfit, Nat.or_comm,
    Nat.mul_comm payload.toNat, ← Nat.two_pow_add_eq_or_of_lt hacc]
  exact Nat.add_comm _ _

theorem readVarintLoop_cons (n : Nat) (acc : UInt64) (s : Nat) (b : UInt8) (rest : List UInt8) :
    readVarintLoop (n + 1) acc s (b :: rest) =
      if b &&& 0x80 = 0 then
        (.ok (acc ||| ((b &&& 0x7f).toUInt64 <<< UInt64.ofNat s)), rest)
      else readVarintLoop n (acc ||| ((b &&& 0x7f).toUInt64 <<< UInt64.ofNat s)) (s + 7) rest := by
  rw [readVarintLoop, Effect.bind_ok (show readU8 (b :: rest) = (.ok b, rest) from rfl)]
  split
  · rfl
  · rfl

/-- A value below 128 is the last byte of its encoding. -/
theorem readVarintLoop_last (k : Nat) {s : Nat} (hs : s < 64) {v acc : UInt64}
    (hsmall : v.toNat < 128) (hacc : acc.toNat < 2 ^ s) (hfit : v.toNat * 2 ^ s < 2 ^ 64)
    (rest : List UInt8) :
    ∃ w : UInt64, w.toNat = acc.toNat + v.toNat * 2 ^ s ∧
      readVarintLoop (k + 1) acc s (encodeVarint v ++ rest) = (.ok w, rest) := by
  have hbyte : v.toUInt8.toNat = v.toNat := by
    rw [UInt64.toNat_toUInt8]
    omega
  have hpay : (v.toUInt8 &&& 0x7f).toNat = v.toNat := by
    rw [byte_payload, hbyte]
    omega
  rw [encodeVarint_small hsmall, List.singleton_append, readVarintLoop_cons,
    if_pos (byte_last (by omega))]
  refine ⟨_, ?_, rfl⟩
  rw [accumulate hs hacc (by rw [hpay]; exact hfit), hpay]

/-- The loop invariant of the reader: after `i` bytes the accumulator holds the low `7 * i`
bits, and the rest of the value fits in what the remaining bytes can carry. -/
theorem readVarintLoop_encode (k i : Nat) (hi : i + k = 9) (v acc : UInt64)
    (hv : v.toNat < 2 ^ (64 - 7 * i)) (hacc : acc.toNat < 2 ^ (7 * i)) (rest : List UInt8) :
    ∃ w : UInt64, w.toNat = acc.toNat + v.toNat * 2 ^ (7 * i) ∧
      readVarintLoop (k + 1) acc (7 * i) (encodeVarint v ++ rest) = (.ok w, rest) := by
  induction k generalizing i v acc with
  | zero =>
    -- one bit is left for the tenth byte, so the encoder has to stop here
    obtain rfl : i = 9 := by omega
    exact readVarintLoop_last 0 (by omega) (by omega) hacc (by omega) rest
  | succ k ih =>
    have hvfit : v.toNat * 2 ^ (7 * i) < 2 ^ 64 := by
      have hpow : 2 ^ (64 - 7 * i) * 2 ^ (7 * i) = 2 ^ 64 := by
        rw [← Nat.pow_add]
        congr 1
        omega
      rw [← hpow]
      exact Nat.mul_lt_mul_of_pos_right hv (Nat.two_pow_pos _)
    by_cases hsmall : v.toNat < 128
    · exact readVarintLoop_last (k + 1) (by omega) hsmall hacc hvfit rest
    have hpay : (v.toUInt8 &&& 0x7f).toNat = v.toNat % 128 := by
      rw [byte_payload, UInt64.toNat_toUInt8]
      omega
    have hfit : (v.toUInt8 &&& 0x7f).toNat * 2 ^ (7 * i) < 2 ^ 64 := by
      refine Nat.lt_of_le_of_lt (Nat.mul_le_mul_right _ ?_) hvfit
      rw [hpay]
      exact Nat.mod_le _ _
    have hnext := accumulate (by omega : 7 * i < 64) hacc hfit
    rw [hpay] at hnext
    have hplace : 2 ^ (7 * (i + 1)) = 128 * 2 ^ (7 * i) := by
      rw [show 7 * (i + 1) = 7 + 7 * i by omega, Nat.pow_add]
    have hroom : 2 ^ (64 - 7 * i) = 128 * 2 ^ (64 - 7 * (i + 1)) := by
      rw [show 64 - 7 * i = 7 + (64 - 7 * (i + 1)) by omega, Nat.pow_add]
    have hlow : v.toNat % 128 * 2 ^ (7 * i) ≤ 127 * 2 ^ (7 * i) :=
      Nat.mul_le_mul_right _ (by omega)
    obtain ⟨w, hw, hread⟩ := ih (i + 1) (by omega) (v >>> 7) _
      (by rw [shiftRight_seven]; omega) (by rw [hnext, hplace]; omega)
    refine ⟨w, ?_, ?_⟩
    · have hdm := Nat.div_add_mod v.toNat 128
      calc w.toNat = acc.toNat + v.toNat % 128 * 2 ^ (7 * i)
            + v.toNat / 128 * (128 * 2 ^ (7 * i)) := by
              rw [hw, hnext, shiftRight_seven, hplace]
        _ = acc.toNat + (128 * (v.toNat / 128) + v.toNat % 128) * 2 ^ (7 * i) := by ring
        _ = acc.toNat + v.toNat * 2 ^ (7 * i) := by rw [hdm]
    · rw [encodeVarint_large (by omega), List.cons_append, readVarintLoop_cons,
        if_neg (continued_not_last _), continued_payload]
      exact hread

/-- Reading back an encoded value returns it and stops right behind its last byte, over the
whole range of `u64`. -/
theorem readVarint_encodeVarint (v : UInt64) : readVarint.Decodes (encodeVarint v) v := by
  intro rest
  obtain ⟨w, hw, hread⟩ := readVarintLoop_encode 9 0 rfl v 0 (by simpa using v.toNat_lt)
    (by simp) rest
  have hval : w = v := UInt64.toNat_inj.mp (by simpa using hw)
  rw [← hval]
  exact hval ▸ hread

end Coderd.Drpc
