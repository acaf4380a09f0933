import Mathlib.Algebra.Ring.Nat
import Mathlib.Data.List.Basic

namespace Coderd.Foundation

structure Uuid where
  bits : BitVec 128
  deriving DecidableEq, Repr

/-- The text forms of an identifier: the canonical one it prints as, and the parser, which
may accept other spellings but reads the canonical one back. -/
class UuidText where
  display : Uuid → String
  parseStr : String → Option Uuid
  parseStr_display : ∀ id, parseStr (display id) = some id

theorem UuidText.display_injective [UuidText] : Function.Injective UuidText.display := by
  intro a b hab
  have hparse := congrArg UuidText.parseStr hab
  rw [parseStr_display, parseStr_display] at hparse
  exact Option.some.inj hparse

namespace Uuid

/-! ## Bytes -/

def nil : Uuid := ⟨0⟩

/-- `Uuid::from_slice`, with the text of its error. The most significant byte comes first. -/
def fromSlice (bytes : List UInt8) : Except String Uuid :=
  if bytes.length = 16 then
    .ok ⟨BitVec.ofNat 128 (bytes.foldl (fun n byte => 256 * n + byte.toNat) 0)⟩
  else
    .error ("invalid length: expected 16 bytes, found " ++ toString bytes.length)

def asBytes (id : Uuid) : List UInt8 :=
  (List.range 16).map fun i => UInt8.ofNat (id.bits.toNat / 256 ^ (15 - i))

/-! ## The hyphenated form -/

def hexDigit (d : Nat) : Char :=
  if d < 10 then Char.ofNat ('0'.toNat + d) else Char.ofNat ('a'.toNat + (d - 10))

def hexValue (c : Char) : Option Nat :=
  if '0' ≤ c ∧ c ≤ '9' then some (c.toNat - '0'.toNat)
  else if 'a' ≤ c ∧ c ≤ 'f' then some (c.toNat - 'a'.toNat + 10)
  else if 'A' ≤ c ∧ c ≤ 'F' then some (c.toNat - 'A'.toNat + 10)
  else none

/-- The last `width` hexadecimal digits of `n`, the most significant one first. -/
def toHex : Nat → Nat → List Char
  | 0, _ => []
  | width + 1, n => toHex width (n / 16) ++ [hexDigit (n % 16)]

def ofHex (cs : List Char) : Option Nat :=
  cs.foldlM (fun n c => (hexValue c).map (fun d => 16 * n + d)) 0

def hyphenate : List Nat → List Char → List Char
  | [], cs => cs
  | width :: widths, cs => cs.take width ++ '-' :: hyphenate widths (cs.drop width)

def unhyphenate : List Nat → List Char → Option (List Char)
  | [], cs => some cs
  | width :: widths, cs =>
    match cs.drop width with
    | '-' :: rest => (unhyphenate widths rest).map (cs.take width ++ ·)
    | _ => none

/-- The four hyphens come after 8, 4, 4 and 4 digits. -/
def groups : List Nat := [8, 4, 4, 4]

def toHyphenated (id : Uuid) : String := String.ofList (hyphenate groups (toHex 32 id.bits.toNat))

def ofDigits (cs : List Char) : Option Uuid :=
  if cs.length = 32 then (ofHex cs).map (fun n => ⟨BitVec.ofNat 128 n⟩) else none

/-- `Uuid::parse_str`: 32 digits in either case, bare, hyphenated, in braces or as a URN. -/
def parse (s : String) : Option Uuid :=
  let hyphenated (cs : List Char) := (unhyphenate groups cs).bind ofDigits
  match s.toList.length, s.toList with
  | 32, cs => ofDigits cs
  | 36, cs => hyphenated cs
  | 38, '\x7b' :: cs => if cs.getLast? = some '\x7d' then hyphenated cs.dropLast else none
  | 45, cs => if cs.take 9 = "urn:uuid:".toList then hyphenated (cs.drop 9) else none
  | _, _ => none

theorem hexValue_hexDigit {d : Nat} (h : d < 16) : hexValue (hexDigit d) = some d := by
  have hall : ∀ d : Fin 16, hexValue (hexDigit d) = some d.val := by decide
  exact hall ⟨d, h⟩

theorem length_toHex (width n : Nat) : (toHex width n).length = width := by
  induction width generalizing n with
  | zero => rfl
  | succ width ih => simp [toHex, ih]

theorem ofHex_toHex (width n : Nat) (h : n < 16 ^ width) : ofHex (toHex width n) = some n := by
  induction width generalizing n with
  | zero =>
    have hn : n = 0 := by omega
    subst hn
    rfl
  | succ width ih =>
    have hdiv : n / 16 < 16 ^ width := by
      rw [Nat.pow_succ] at h
      omega
    have hprefix := ih (n / 16) hdiv
    unfold ofHex at hprefix ⊢
    rw [toHex, List.foldlM_append, hprefix]
    simp only [List.foldlM_cons, List.foldlM_nil, Option.bind_eq_bind, Option.bind_some,
      hexValue_hexDigit (Nat.mod_lt n (by decide : 0 < 16)), Option.map_some, bind_pure]
    rw [Nat.div_add_mod]

theorem unhyphenate_hyphenate (widths : List Nat) (cs : List Char)
    (h : widths.sum ≤ cs.length) : unhyphenate widths (hyphenate widths cs) = some cs := by
  induction widths generalizing cs with
  | nil => rfl
  | cons width widths ih =>
    rw [List.sum_cons] at h
    have hlen : (cs.take width).length = width := by
      rw [List.length_take]
      omega
    have hrest := ih (cs.drop width) (by rw [List.length_drop]; omega)
    rw [hyphenate, unhyphenate, List.drop_left' hlen]
    simp only [hrest, Option.map_some, List.take_left' hlen, List.take_append_drop]

theorem length_hyphenate (widths : List Nat) (cs : List Char) (h : widths.sum ≤ cs.length) :
    (hyphenate widths cs).length = cs.length + widths.length := by
  induction widths generalizing cs with
  | nil => rfl
  | cons width widths ih =>
    rw [List.sum_cons] at h
    have hrest := ih (cs.drop width) (by rw [List.length_drop]; omega)
    simp only [hyphenate, List.length_append, List.length_cons, hrest, List.length_take,
      List.length_drop]
    omega

theorem groups_sum_le (n : Nat) : groups.sum ≤ (toHex 32 n).length := by
  rw [length_toHex]
  decide

theorem length_toHyphenated (id : Uuid) : (toHyphenated id).toList.length = 36 := by
  rw [toHyphenated, String.toList_ofList, length_hyphenate groups _ (groups_sum_le _), length_toHex]
  rfl

theorem parse_toHyphenated (id : Uuid) : parse (toHyphenated id) = some id := by
  have hread : ofDigits (toHex 32 id.bits.toNat) = some id := by
    rw [ofDigits, if_pos (length_toHex _ _), ofHex_toHex 32 _ id.bits.isLt]
    simp
  rw [parse, length_toHyphenated]
  simp only [toHyphenated, String.toList_ofList, unhyphenate_hyphenate groups _ (groups_sum_le _),
    Option.bind_some, hread]

theorem toHyphenated_injective : Function.Injective toHyphenated := by
  intro a b h
  have hparse := parse_toHyphenated a
  rw [h, parse_toHyphenated] at hparse
  exact (Option.some.inj hparse).symm

theorem toHyphenated_ne {s : String} (h : parse s = none) (id : Uuid) : id.toHyphenated ≠ s := by
  rintro rfl
  rw [parse_toHyphenated] at h
  cases h

theorem mem_hyphenate {widths : List Nat} {cs : List Char} {c : Char}
    (h : c ∈ hyphenate widths cs) : c = '-' ∨ c ∈ cs := by
  induction widths generalizing cs with
  | nil => exact .inr h
  | cons width widths ih =>
    rw [hyphenate, List.mem_append, List.mem_cons] at h
    obtain h | rfl | h := h
    · exact .inr (List.mem_of_mem_take h)
    · exact .inl rfl
    · exact (ih h).imp_right List.mem_of_mem_drop

theorem mem_toHex {width n : Nat} {c : Char} (h : c ∈ toHex width n) :
    ∃ d < 16, c = hexDigit d := by
  induction width generalizing n with
  | zero => cases h
  | succ width ih =>
    rw [toHex, List.mem_append, List.mem_singleton] at h
    cases h with
    | inl h => exact ih h
    | inr h => exact ⟨n % 16, Nat.mod_lt n (by decide), h⟩

/-- The hyphenated form has no other characters than hyphens and digits. -/
theorem mem_toHyphenated {id : Uuid} {c : Char} (h : c ∈ (toHyphenated id).toList) :
    c = '-' ∨ ∃ d < 16, c = hexDigit d := by
  rw [toHyphenated, String.toList_ofList] at h
  exact (mem_hyphenate h).imp_right mem_toHex

@[reducible] def hyphenated : UuidText where
  display := toHyphenated
  parseStr := parse
  parseStr_display := parse_toHyphenated

end Uuid

end Coderd.Foundation
