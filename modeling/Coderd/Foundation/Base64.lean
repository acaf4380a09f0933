import Mathlib.Data.List.GetD

namespace Coderd.Foundation.Base64

/-! ## The standard alphabet, without padding -/

def alphabet : List Char :=
  "ABCDEFGHIJKLMNOPQRSTUVWXYZabcdefghijklmnopqrstuvwxyz0123456789+/".toList

def digit (n : Nat) : Char := alphabet.getD (n % 64) 'A'

/-- Three bytes are four characters, two are three and one is two. -/
def encodeChars : List UInt8 → List Char
  | [] => []
  | [a] => [digit (a.toNat / 4), digit (a.toNat % 4 * 16)]
  | [a, b] =>
    [digit (a.toNat / 4), digit (a.toNat % 4 * 16 + b.toNat / 16), digit (b.toNat % 16 * 4)]
  | a :: b :: c :: rest =>
    digit (a.toNat / 4) :: digit (a.toNat % 4 * 16 + b.toNat / 16) ::
      digit (b.toNat % 16 * 4 + c.toNat / 64) :: digit c.toNat :: encodeChars rest

def encode (bytes : List UInt8) : String := String.ofList (encodeChars bytes)

/-- The URL-safe alphabet, without padding. -/
def encodeUrlSafe (bytes : List UInt8) : String :=
  String.ofList ((encodeChars bytes).map fun
    | '+' => '-'
    | '/' => '_'
    | c => c)

theorem digit_mem (n : Nat) : digit n ∈ alphabet := by
  have hlt : n % 64 < alphabet.length := Nat.mod_lt n (by decide)
  rw [digit, List.getD_eq_getElem _ _ hlt]
  exact List.getElem_mem hlt

theorem mem_alphabet_of_mem_encodeChars {bytes : List UInt8} {ch : Char}
    (h : ch ∈ encodeChars bytes) : ch ∈ alphabet := by
  fun_induction encodeChars bytes with
  | case1 => cases h
  | case2 a =>
    rcases List.mem_cons.mp h with rfl | h
    · exact digit_mem _
    · rw [List.mem_singleton.mp h]
      exact digit_mem _
  | case3 a b =>
    rcases List.mem_cons.mp h with rfl | h
    · exact digit_mem _
    rcases List.mem_cons.mp h with rfl | h
    · exact digit_mem _
    · rw [List.mem_singleton.mp h]
      exact digit_mem _
  | case4 a b c rest ih =>
    rcases List.mem_cons.mp h with rfl | h
    · exact digit_mem _
    rcases List.mem_cons.mp h with rfl | h
    · exact digit_mem _
    rcases List.mem_cons.mp h with rfl | h
    · exact digit_mem _
    rcases List.mem_cons.mp h with rfl | h
    · exact digit_mem _
    · exact ih h

theorem length_encodeChars (bytes : List UInt8) :
    (encodeChars bytes).length = (4 * bytes.length + 2) / 3 := by
  fun_induction encodeChars bytes with
  | case1 => rfl
  | case2 a => simp
  | case3 a b => simp
  | case4 a b c rest ih =>
    simp only [List.length_cons, ih]
    omega

/-! ## Decoding -/

/-- The number that a character of the alphabet stands for. -/
def value (c : Char) : Option Nat := alphabet.idxOf? c

/-- The bits of the last character that are not part of a byte have to be zero. -/
def decodeChars : List Char → Option (List UInt8)
  | [] => some []
  | [_] => none
  | [a, b] => do
    let a ← value a
    let b ← value b
    if b % 16 = 0 then some [UInt8.ofNat (a * 4 + b / 16)] else none
  | [a, b, c] => do
    let a ← value a
    let b ← value b
    let c ← value c
    if c % 4 = 0 then
      some [UInt8.ofNat (a * 4 + b / 16), UInt8.ofNat (b % 16 * 16 + c / 4)]
    else none
  | a :: b :: c :: d :: rest => do
    let a ← value a
    let b ← value b
    let c ← value c
    let d ← value d
    let bytes ← decodeChars rest
    some (UInt8.ofNat (a * 4 + b / 16) :: UInt8.ofNat (b % 16 * 16 + c / 4) ::
      UInt8.ofNat (c % 4 * 64 + d) :: bytes)

def fromUrlSafe : Char → Option Char
  | '-' => some '+'
  | '_' => some '/'
  | '+' => none
  | '/' => none
  | c => some c

def decodeUrlSafe (s : String) : Option (List UInt8) :=
  (s.toList.mapM fromUrlSafe).bind decodeChars

theorem value_digit (n : Nat) : value (digit n) = some (n % 64) := by
  have hall : ∀ k < 64, value (alphabet.getD k 'A') = some k := by decide
  exact hall (n % 64) (Nat.mod_lt n (by decide))

/-- The bytes of a group of characters, each from two numbers below 64. -/
theorem ofNat_first (a b : UInt8) :
    UInt8.ofNat (a.toNat / 4 % 64 * 4 + (a.toNat % 4 * 16 + b.toNat / 16) % 64 / 16) = a := by
  have ha := a.toNat_lt
  have hb := b.toNat_lt
  rw [show a.toNat / 4 % 64 * 4 + (a.toNat % 4 * 16 + b.toNat / 16) % 64 / 16 = a.toNat by omega]
  exact UInt8.ofNat_toNat

theorem ofNat_second (a b c : UInt8) :
    UInt8.ofNat ((a.toNat % 4 * 16 + b.toNat / 16) % 64 % 16 * 16 +
      (b.toNat % 16 * 4 + c.toNat / 64) % 64 / 4) = b := by
  have hb := b.toNat_lt
  have hc := c.toNat_lt
  rw [show (a.toNat % 4 * 16 + b.toNat / 16) % 64 % 16 * 16 +
    (b.toNat % 16 * 4 + c.toNat / 64) % 64 / 4 = b.toNat by omega]
  exact UInt8.ofNat_toNat

theorem ofNat_third (b c : UInt8) :
    UInt8.ofNat ((b.toNat % 16 * 4 + c.toNat / 64) % 64 % 4 * 64 + c.toNat % 64) = c := by
  have hc := c.toNat_lt
  rw [show (b.toNat % 16 * 4 + c.toNat / 64) % 64 % 4 * 64 + c.toNat % 64 = c.toNat by omega]
  exact UInt8.ofNat_toNat

theorem decodeChars_encodeChars (bytes : List UInt8) :
    decodeChars (encodeChars bytes) = some bytes := by
  fun_induction encodeChars bytes with
  | case1 => rfl
  | case2 a =>
    have hlow : a.toNat % 4 * 16 % 64 % 16 = 0 := by omega
    have hfirst := ofNat_first a 0
    simp only [UInt8.toNat_zero, Nat.zero_div, Nat.add_zero] at hfirst
    simp only [decodeChars, value_digit, Option.bind_eq_bind, Option.bind_some, hlow, if_true,
      hfirst]
  | case3 a b =>
    have hlow : b.toNat % 16 * 4 % 64 % 4 = 0 := by omega
    have hsecond := ofNat_second a b 0
    simp only [UInt8.toNat_zero, Nat.zero_div, Nat.add_zero] at hsecond
    simp only [decodeChars, value_digit, Option.bind_eq_bind, Option.bind_some, hlow, if_true,
      ofNat_first, hsecond]
  | case4 a b c rest ih =>
    simp only [decodeChars, value_digit, Option.bind_eq_bind, Option.bind_some, ih, ofNat_first,
      ofNat_second, ofNat_third]

def toUrlSafe : Char → Char
  | '+' => '-'
  | '/' => '_'
  | c => c

theorem fromUrlSafe_toUrlSafe {c : Char} (h : c ∈ alphabet) :
    fromUrlSafe (toUrlSafe c) = some c := by
  have hall : alphabet.all (fun c => fromUrlSafe (toUrlSafe c) = some c) := by decide
  exact of_decide_eq_true (List.all_eq_true.mp hall c h)

theorem mapM_fromUrlSafe {cs : List Char} (h : ∀ c ∈ cs, c ∈ alphabet) :
    (cs.map toUrlSafe).mapM fromUrlSafe = some cs := by
  induction cs with
  | nil => rfl
  | cons c cs ih =>
    rw [List.map_cons, List.mapM_cons, fromUrlSafe_toUrlSafe (h c List.mem_cons_self),
      ih fun d hd => h d (List.mem_cons_of_mem _ hd)]
    rfl

/-- What is encoded is read back. -/
theorem decodeUrlSafe_encodeUrlSafe (bytes : List UInt8) :
    decodeUrlSafe (encodeUrlSafe bytes) = some bytes := by
  have hencode : encodeUrlSafe bytes = String.ofList ((encodeChars bytes).map toUrlSafe) := rfl
  rw [decodeUrlSafe, hencode, String.toList_ofList,
    mapM_fromUrlSafe fun _ => mem_alphabet_of_mem_encodeChars]
  exact decodeChars_encodeChars bytes

theorem mem_encodeUrlSafe {bytes : List UInt8} {ch : Char}
    (h : ch ∈ (encodeUrlSafe bytes).toList) : ∃ c ∈ alphabet, ch = toUrlSafe c := by
  have hencode : encodeUrlSafe bytes = String.ofList ((encodeChars bytes).map toUrlSafe) := rfl
  rw [hencode, String.toList_ofList, List.mem_map] at h
  obtain ⟨c, hc, rfl⟩ := h
  exact ⟨c, mem_alphabet_of_mem_encodeChars hc, rfl⟩

theorem length_of_decodeChars {cs : List Char} {bytes : List UInt8}
    (h : decodeChars cs = some bytes) : cs.length = (4 * bytes.length + 2) / 3 := by
  fun_induction decodeChars cs generalizing bytes with
  | case1 =>
    cases h
    rfl
  | case2 => cases h
  | case3 a b =>
    simp only [Option.bind_eq_bind, Option.bind_eq_some_iff] at h
    obtain ⟨a, -, b, -, h⟩ := h
    split at h
    · cases h
      simp
    · cases h
  | case4 a b c =>
    simp only [Option.bind_eq_bind, Option.bind_eq_some_iff] at h
    obtain ⟨a, -, b, -, c, -, h⟩ := h
    split at h
    · cases h
      simp
    · cases h
  | case5 a b c d rest ih =>
    simp only [Option.bind_eq_bind, Option.bind_eq_some_iff, Option.some.injEq] at h
    obtain ⟨a, -, b, -, c, -, d, -, tail, htail, rfl⟩ := h
    have hrest := ih htail
    simp only [List.length_cons, hrest]
    omega

theorem length_of_mapM {α β : Type} {f : α → Option β} {as : List α} {bs : List β}
    (h : as.mapM f = some bs) : bs.length = as.length := by
  induction as generalizing bs with
  | nil =>
    cases h
    rfl
  | cons a as ih =>
    rw [List.mapM_cons] at h
    simp only [Option.bind_eq_bind, Option.bind_eq_some_iff, Option.pure_def,
      Option.some.injEq] at h
    obtain ⟨b, -, rest, hrest, rfl⟩ := h
    rw [List.length_cons, List.length_cons, ih hrest]

/-- The length of a text that is read tells how many bytes it stands for. -/
theorem length_of_decodeUrlSafe {s : String} {bytes : List UInt8}
    (h : decodeUrlSafe s = some bytes) : s.toList.length = (4 * bytes.length + 2) / 3 := by
  obtain ⟨cs, hmap, hdecode⟩ := Option.bind_eq_some_iff.mp h
  rw [← length_of_decodeChars hdecode]
  exact (length_of_mapM hmap).symm

end Coderd.Foundation.Base64
