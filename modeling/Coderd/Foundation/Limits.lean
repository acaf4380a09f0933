import Mathlib.Algebra.Ring.Nat
import Mathlib.Algebra.BigOperators.Group.List.Basic
import Mathlib.Data.List.Infix

namespace Coderd.Foundation

/-! ## The longest part within a budget -/

section Budget

variable {α : Type} (weight : α → ℕ)

/-- The list up to the first element that goes over the budget. -/
def within : ℕ → List α → List α
  | _, [] => []
  | budget, a :: rest =>
    if weight a ≤ budget then a :: within (budget - weight a) rest else []

theorem within_isPrefix (budget : ℕ) (l : List α) : within weight budget l <+: l := by
  induction l generalizing budget with
  | nil => exact List.prefix_refl []
  | cons a rest ih =>
    rw [within]
    split
    · exact List.cons_prefix_cons.mpr ⟨rfl, ih _⟩
    · exact List.nil_prefix

theorem sum_within_le (budget : ℕ) (l : List α) :
    ((within weight budget l).map weight).sum ≤ budget := by
  induction l generalizing budget with
  | nil => exact Nat.zero_le budget
  | cons a rest ih =>
    rw [within]
    split
    · have hrest := ih (budget - weight a)
      simp only [List.map_cons, List.sum_cons]
      omega
    · exact Nat.zero_le budget

/-- No longer part of the list keeps to the budget. -/
theorem isPrefix_within {budget : ℕ} {l p : List α} (hp : p <+: l)
    (hsum : (p.map weight).sum ≤ budget) : p <+: within weight budget l := by
  induction l generalizing budget p with
  | nil =>
    rw [List.prefix_nil.mp hp]
    exact List.nil_prefix
  | cons a rest ih =>
    cases p with
    | nil => exact List.nil_prefix
    | cons b p =>
      obtain ⟨rfl, hrest⟩ := List.cons_prefix_cons.mp hp
      rw [List.map_cons, List.sum_cons] at hsum
      rw [within, if_pos (by omega)]
      exact List.cons_prefix_cons.mpr ⟨rfl, ih hrest (by omega)⟩

end Budget

/-! ## Texts in bytes -/

theorem utf8ByteSize_ofList (cs : List Char) :
    (String.ofList cs).utf8ByteSize = (cs.map Char.utf8Size).sum := by
  induction cs with
  | nil => rfl
  | cons c cs ih =>
    have hsplit : String.ofList (c :: cs) = String.singleton c ++ String.ofList cs := by
      rw [String.singleton_eq_ofList, ← String.ofList_append, List.singleton_append]
    rw [hsplit, String.utf8ByteSize_append, String.utf8ByteSize_singleton, ih, List.map_cons,
      List.sum_cons]

theorem utf8ByteSize_eq_sum (s : String) :
    s.utf8ByteSize = (s.toList.map Char.utf8Size).sum := by
  rw [← utf8ByteSize_ofList, String.ofList_toList]

theorem length_le_sum_utf8Size (cs : List Char) : cs.length ≤ (cs.map Char.utf8Size).sum := by
  induction cs with
  | nil => exact Nat.le_refl 0
  | cons c cs ih =>
    have hpos := c.utf8Size_pos
    simp only [List.length_cons, List.map_cons, List.sum_cons]
    omega

theorem sum_utf8Size_eq_length_iff (cs : List Char) :
    (cs.map Char.utf8Size).sum ≤ cs.length ↔ ∀ c ∈ cs, c.utf8Size = 1 := by
  induction cs with
  | nil => simp
  | cons c cs ih =>
    have hpos := c.utf8Size_pos
    have hrest := length_le_sum_utf8Size cs
    rw [List.forall_mem_cons, ← ih, List.length_cons, List.map_cons, List.sum_cons]
    omega

/-- A text of more than `n` bytes that is cut to `n` characters has at most `n` bytes left only if
each of these characters is one byte. -/
theorem sum_utf8Size_take_le_iff {cs : List Char} {n : ℕ} (h : n < (cs.map Char.utf8Size).sum) :
    ((cs.take n).map Char.utf8Size).sum ≤ n ↔ n ≤ cs.length ∧ ∀ c ∈ cs.take n, c.utf8Size = 1 := by
  by_cases hlen : n ≤ cs.length
  · have htake : (cs.take n).length = n := List.length_take_of_le hlen
    rw [← sum_utf8Size_eq_length_iff, htake]
    exact ⟨fun hle => ⟨hlen, hle⟩, fun hle => hle.2⟩
  · rw [List.take_of_length_le (by omega)]
    constructor
    · intro hle
      omega
    · exact fun hle => absurd hle.1 hlen

theorem utf8Size_of_isDigit {c : Char} (h : c.isDigit = true) : c.utf8Size = 1 := by
  have hle : c.val.toNat ≤ 57 := (Char.isDigit_iff_toNat.mp h).2
  have hascii : c.val ≤ 127 := UInt32.le_iff_toNat_le.mpr (le_trans hle (by decide))
  exact if_pos hascii

theorem utf8ByteSize_toString_le {n k : ℕ} (hk : 0 < k) (h : n < 10 ^ k) :
    (toString n).utf8ByteSize ≤ k := by
  rw [Nat.toString_eq_ofList_toDigits, utf8ByteSize_ofList]
  have hone : ∀ c ∈ Nat.toDigits 10 n, c.utf8Size = 1 := fun c hc =>
    utf8Size_of_isDigit (Nat.isDigit_of_mem_toDigits (by decide) (by decide) hc)
  exact le_trans ((sum_utf8Size_eq_length_iff _).mpr hone)
    ((Nat.length_toDigits_le_iff (by decide) hk).mpr h)

end Coderd.Foundation
