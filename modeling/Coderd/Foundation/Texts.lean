import Mathlib.Algebra.Ring.Nat
import Mathlib.Data.List.Infix
import Mathlib.Data.List.TakeDrop
import Mathlib.Data.List.TakeWhile

namespace Coderd.Foundation

/-! ## Parts between dots -/

/-- `str::rsplitn` for two parts: what stands before and after the last `c`. -/
def rsplitOnce (s : String) (c : Char) : Option (String × String) :=
  match s.toList.reverse.span (· ≠ c) with
  | (_, []) => none
  | (after, _ :: before) => some (String.ofList before.reverse, String.ofList after.reverse)

theorem span_ne_append {c : Char} {cs ds : List Char} (h : c ∉ cs) :
    (cs ++ c :: ds).span (· ≠ c) = (cs, c :: ds) := by
  have hall : ∀ d ∈ cs, decide (d ≠ c) = true := fun d hd =>
    decide_eq_true fun heq => h (heq ▸ hd)
  rw [List.span_eq_takeWhile_dropWhile, List.takeWhile_append_of_pos hall,
    List.dropWhile_append_of_pos hall]
  simp

theorem rsplitOnce_eq_of_toList {s : String} {c : Char} {before after : List Char}
    (hs : s.toList = before ++ c :: after) (h : c ∉ after) :
    rsplitOnce s c = some (String.ofList before, String.ofList after) := by
  have hreverse : s.toList.reverse = after.reverse ++ c :: before.reverse := by
    rw [hs]
    simp
  have hnot : c ∉ after.reverse := by rwa [List.mem_reverse]
  rw [rsplitOnce, hreverse, span_ne_append hnot]
  simp only [List.reverse_reverse]

theorem rsplitOnce_eq_some {s before after : String} {c : Char}
    (h : rsplitOnce s c = some (before, after)) : s.toList = before.toList ++ c :: after.toList := by
  have hsplit := List.takeWhile_append_dropWhile (p := (decide <| · ≠ c)) (l := s.toList.reverse)
  rw [rsplitOnce, List.span_eq_takeWhile_dropWhile] at h
  cases hdrop : s.toList.reverse.dropWhile (decide <| · ≠ c) with
  | nil =>
    rw [hdrop] at h
    cases h
  | cons d rest =>
    have hd := List.head?_dropWhile_not (decide <| · ≠ c) s.toList.reverse
    rw [hdrop] at h hsplit hd
    obtain rfl : d = c := by simpa using hd
    obtain ⟨hbefore, hafter⟩ := Prod.mk.inj (Option.some.inj h)
    have htext := congrArg List.reverse hsplit.symm
    rw [List.reverse_reverse] at htext
    rw [htext, ← hbefore, ← hafter]
    simp

theorem rsplitOnce_eq_none {s : String} {c : Char} (h : c ∉ s.toList) : rsplitOnce s c = none := by
  have hall : ∀ d ∈ s.toList.reverse, decide (d ≠ c) = true := fun d hd =>
    decide_eq_true fun heq => h (heq ▸ List.mem_reverse.mp hd)
  rw [rsplitOnce, List.span_eq_takeWhile_dropWhile, List.dropWhile_eq_nil_iff.mpr hall]

/-- No piece between separators has one. -/
theorem notMem_of_mem_splitOn {α : Type} [DecidableEq α] {c : α} {cs piece : List α}
    (h : piece ∈ cs.splitOn c) : c ∉ piece := by
  induction cs generalizing piece with
  | nil =>
    rw [List.splitOn_nil, List.mem_singleton] at h
    simp [h]
  | cons d cs ih =>
    rw [List.splitOn_cons_eq_if_modifyHead] at h
    split at h
    · obtain rfl | hrest := List.mem_cons.mp h
      · simp
      · exact ih hrest
    · rename_i hne
      cases hpieces : cs.splitOn c with
      | nil => exact absurd hpieces (List.splitOn_ne_nil c cs)
      | cons first pieces =>
        rw [hpieces, List.modifyHead_cons, List.mem_cons] at h
        rw [hpieces] at ih
        obtain rfl | hrest := h
        · have hd : c ≠ d := by
            rintro rfl
            simp at hne
          exact List.not_mem_cons_of_ne_of_not_mem hd (ih List.mem_cons_self)
        · exact ih (List.mem_cons_of_mem _ hrest)

theorem mem_intercalate {α : Type} {sep : List α} {pieces : List (List α)} {a : α}
    (h : a ∈ sep.intercalate pieces) : a ∈ sep ∨ ∃ piece ∈ pieces, a ∈ piece := by
  induction pieces with
  | nil => cases h
  | cons piece pieces ih =>
    cases pieces with
    | nil => exact .inr ⟨piece, List.mem_cons_self, by simpa using h⟩
    | cons next pieces =>
      rw [List.intercalate_cons_cons, List.mem_append, List.mem_append] at h
      obtain (hpiece | hsep) | hrest := h
      · exact .inr ⟨piece, List.mem_cons_self, hpiece⟩
      · exact .inl hsep
      · obtain hsep | ⟨other, hother, ha⟩ := ih hrest
        · exact .inl hsep
        · exact .inr ⟨other, List.mem_cons_of_mem _ hother, ha⟩

theorem mem_intercalate_of_mem {α : Type} {sep piece : List α} {pieces : List (List α)} {a : α}
    (hpiece : piece ∈ pieces) (ha : a ∈ piece) : a ∈ sep.intercalate pieces := by
  induction pieces with
  | nil => cases hpiece
  | cons first pieces ih =>
    cases pieces with
    | nil =>
      rw [List.mem_singleton.mp hpiece] at ha
      simpa using ha
    | cons next pieces =>
      rw [List.intercalate_cons_cons, List.mem_append, List.mem_append]
      obtain rfl | hrest := List.mem_cons.mp hpiece
      · exact .inl (.inl ha)
      · exact .inr (ih hrest)

theorem mem_of_mem_splitOn {α : Type} [DecidableEq α] {c a : α} {cs piece : List α}
    (h : piece ∈ cs.splitOn c) (ha : a ∈ piece) : a ∈ cs := by
  have hmem : a ∈ [c].intercalate (cs.splitOn c) := mem_intercalate_of_mem h ha
  rwa [List.intercalate_splitOn] at hmem

/-- A separator of two characters is one of its first, with the second at the next piece. -/
theorem intercalate_pair {α : Type} (a b : α) (piece : List α) (pieces : List (List α)) :
    [a, b].intercalate (piece :: pieces) = [a].intercalate (piece :: pieces.map (b :: ·)) := by
  induction pieces generalizing piece with
  | nil => rfl
  | cons next pieces ih =>
    rw [List.map_cons, List.intercalate_cons_cons, List.intercalate_cons_cons, ih,
      List.intercalate_cons_cons_left, List.append_assoc, List.append_assoc]
    rfl

/-! ## Occurrences -/

section Occurrences

variable {α : Type} {pattern l u v : List α} {b : α} (hb : b ∉ pattern)

include hb

/-- An occurrence ends before a letter that the pattern does not have. -/
theorem prefix_of_prefix_barrier (h : pattern <+: l ++ b :: v) : pattern <+: l := by
  obtain hlt | hle := Nat.lt_or_ge l.length pattern.length
  · refine absurd ?_ hb
    obtain ⟨rest, hrest⟩ := h
    have hget : (pattern ++ rest)[l.length]? = some b := by
      rw [hrest, List.getElem?_append_right (Nat.le_refl _), Nat.sub_self]
      rfl
    rw [List.getElem?_append_left hlt] at hget
    exact List.mem_of_getElem? hget
  · exact List.prefix_of_prefix_length_le h (List.prefix_append l (b :: v)) hle

theorem infix_append_barrier (hne : pattern ≠ []) (h : pattern <:+: u ++ b :: v) :
    pattern <:+: u ∨ pattern <:+: v := by
  induction u with
  | nil =>
    obtain hinit | hocc := List.infix_cons_iff.mp h
    · exact absurd (List.prefix_nil.mp (prefix_of_prefix_barrier (l := []) hb hinit)) hne
    · exact .inr hocc
  | cons c u ih =>
    obtain hinit | hocc := List.infix_cons_iff.mp h
    · exact .inl (prefix_of_prefix_barrier (l := c :: u) hb hinit).isInfix
    · exact (ih hocc).imp_left fun h => h.trans (List.suffix_cons c u).isInfix

end Occurrences

/-! ## Integers in decimal -/

/-- The number that the digits go on to, if it is at most `limit`. -/
def parseDigits (limit : ℕ) (overflow : String) : ℕ → List Char → Except String ℕ
  | n, [] => .ok n
  | n, c :: cs =>
    if c.isDigit then
      let next := 10 * n + (c.toNat - '0'.toNat)
      if next ≤ limit then parseDigits limit overflow next cs else .error overflow
    else .error "invalid digit found in string"

/-- `i64::from_str`. A sign has to have digits after it. -/
def parseI64 (s : String) : Except String Int64 :=
  match s.toList with
  | [] => .error "cannot parse integer from empty string"
  | c :: cs =>
    if cs.isEmpty ∧ (c = '+' ∨ c = '-') then .error "invalid digit found in string"
    else if c = '-' then
      (parseDigits (2 ^ 63) "number too small to fit in target type" 0 cs).map fun n => .ofInt (-n)
    else
      (parseDigits (2 ^ 63 - 1) "number too large to fit in target type" 0
        (if c = '+' then cs else c :: cs)).map fun n => .ofInt n

theorem le_ofDigitChars (cs : List Char) (n : ℕ) : n ≤ Nat.ofDigitChars 10 cs n := by
  rw [Nat.ofDigitChars_eq_ofDigitChars_zero]
  exact le_trans (Nat.le_mul_of_pos_left n (Nat.pow_pos (by decide))) (Nat.le_add_right _ _)

theorem parseDigits_eq_ok {limit : ℕ} {overflow : String} {n : ℕ} {cs : List Char}
    (hdigits : ∀ c ∈ cs, c.isDigit = true) (hlimit : Nat.ofDigitChars 10 cs n ≤ limit) :
    parseDigits limit overflow n cs = .ok (Nat.ofDigitChars 10 cs n) := by
  induction cs generalizing n with
  | nil => rfl
  | cons c cs ih =>
    obtain ⟨hc, hcs⟩ := List.forall_mem_cons.mp hdigits
    rw [Nat.ofDigitChars_cons] at hlimit ⊢
    have hnext := le_trans (le_ofDigitChars cs (10 * n + (c.toNat - '0'.toNat))) hlimit
    simp only [parseDigits, hc, if_true, if_pos hnext]
    exact ih hcs hlimit

/-- The digits of a number are read back. -/
theorem parseDigits_toDigits {limit : ℕ} {overflow : String} {n : ℕ} (h : n ≤ limit) :
    parseDigits limit overflow 0 (Nat.toDigits 10 n) = .ok n := by
  have hdigits : ∀ c ∈ Nat.toDigits 10 n, c.isDigit = true := fun c hc =>
    Nat.isDigit_of_mem_toDigits (by decide) (by decide) hc
  rw [parseDigits_eq_ok hdigits (by rwa [Nat.ofDigitChars_ten_toDigits]),
    Nat.ofDigitChars_ten_toDigits]

/-- An integer that is printed is read back, with its sign. -/
theorem parseI64_toString (n : Int64) : parseI64 (toString n.toInt) = .ok n := by
  have hlt := n.toInt_lt
  have hle := n.le_toInt
  have hback := Int64.ofInt_toInt n
  generalize n.toInt = k at hlt hle hback ⊢
  obtain ⟨m, rfl⟩ | ⟨m, rfl⟩ : (∃ m : ℕ, k = m) ∨ ∃ m : ℕ, k = -(m + 1 : ℕ) := by
    cases k with
    | ofNat m => exact .inl ⟨m, rfl⟩
    | negSucc m => exact .inr ⟨m, rfl⟩
  · have htext : (toString (m : Int)).toList = Nat.toDigits 10 m := Nat.toList_repr
    have hread : parseDigits (2 ^ 63 - 1) "number too large to fit in target type" 0
        (Nat.toDigits 10 m) = .ok m := parseDigits_toDigits (by omega)
    rw [parseI64, htext]
    cases hdigits : Nat.toDigits 10 m with
    | nil => exact absurd hdigits Nat.toDigits_ne_nil
    | cons c cs =>
      have hc : c.isDigit = true :=
        Nat.isDigit_of_mem_toDigits (by decide) (by decide) (hdigits ▸ List.mem_cons_self)
      have hplus : c ≠ '+' := by rintro rfl; cases hc
      have hminus : c ≠ '-' := by rintro rfl; cases hc
      simp only [hplus, hminus, or_self, and_false, if_false, ← hdigits, hread]
      exact congrArg Except.ok hback
  · have htext : (toString (-(m + 1 : ℕ) : Int)).toList = '-' :: Nat.toDigits 10 (m + 1) := by
      have hneg : toString (-(m + 1 : ℕ) : Int) = "-" ++ toString (m + 1) := rfl
      rw [hneg, String.toList_append, Nat.toString_eq_repr, Nat.toList_repr]
      rfl
    have hread : parseDigits (2 ^ 63) "number too small to fit in target type" 0
        (Nat.toDigits 10 (m + 1)) = .ok (m + 1) := parseDigits_toDigits (by omega)
    have hsome : (Nat.toDigits 10 (m + 1)).isEmpty = false :=
      Bool.eq_false_iff.mpr fun hempty => Nat.toDigits_ne_nil (List.isEmpty_iff.mp hempty)
    rw [parseI64, htext]
    simp only [hsome, hread, Bool.false_eq_true, false_and, if_false, if_true]
    exact congrArg Except.ok hback

theorem mem_toString_int {n : Int} {c : Char} (h : c ∈ (toString n).toList) :
    c = '-' ∨ c.isDigit = true := by
  cases n with
  | ofNat m =>
    have htext : (toString (Int.ofNat m)).toList = Nat.toDigits 10 m := Nat.toList_repr
    rw [htext] at h
    exact .inr (Nat.isDigit_of_mem_toDigits (by decide) (by decide) h)
  | negSucc m =>
    have hneg : toString (Int.negSucc m) = "-" ++ toString (m + 1) := rfl
    rw [hneg, String.toList_append, Nat.toString_eq_repr, Nat.toList_repr, List.mem_append] at h
    cases h with
    | inl h => exact .inl (by simpa using h)
    | inr h => exact .inr (Nat.isDigit_of_mem_toDigits (by decide) (by decide) h)

/-- An `i64` has at most 20 characters. -/
theorem length_toString_int64 (n : Int64) : (toString n.toInt).toList.length ≤ 20 := by
  have hlt := n.toInt_lt
  have hle := n.le_toInt
  generalize n.toInt = k at hlt hle ⊢
  cases k with
  | ofNat m =>
    have htext : (toString (Int.ofNat m)).toList = Nat.toDigits 10 m := Nat.toList_repr
    rw [htext]
    refine (Nat.length_toDigits_le_iff (by decide) (by decide)).mpr ?_
    simp at hlt
    omega
  | negSucc m =>
    have hneg : toString (Int.negSucc m) = "-" ++ toString (m + 1) := rfl
    rw [hneg, String.toList_append, Nat.toString_eq_repr, Nat.toList_repr, List.length_append]
    have hdigits : (Nat.toDigits 10 (m + 1)).length ≤ 19 :=
      (Nat.length_toDigits_le_iff (by decide) (by decide)).mpr (by omega)
    have hsign : "-".toList.length = 1 := by decide
    omega

end Coderd.Foundation
