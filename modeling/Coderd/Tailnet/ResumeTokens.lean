import Mathlib.Data.Set.Function
import Coderd.Foundation.Base64
import Coderd.Foundation.Sha256
import Coderd.Foundation.Texts
import Coderd.Foundation.Uuid
import Coderd.Rbac.Roles

namespace Coderd.Tailnet

open Coderd.Foundation
open Coderd.Rbac (splitOnce)

/-! ## Signatures -/

/-- `Sha256`: the digest of all that it is updated with. -/
class Sha256 where
  digest : List UInt8 → List UInt8
  length_digest : ∀ msg, (digest msg).length = 32

section

variable [Sha256]

/-- The key, or its digest where it is longer than a block, and zeros. -/
def keyBlock (key : List UInt8) : List UInt8 :=
  let key := if 64 < key.length then Sha256.digest key else key
  key ++ List.replicate (64 - key.length) 0

def hmacSha256 (key msg : List UInt8) : List UInt8 :=
  let ipad := (keyBlock key).map (0x36 ^^^ ·)
  let opad := (keyBlock key).map (0x5c ^^^ ·)
  Sha256.digest (opad ++ Sha256.digest (ipad ++ msg))

end

/-- Every byte is looked at, wherever the first difference is. -/
def constantTimeEq (a b : List UInt8) : Bool :=
  if a.length ≠ b.length then false
  else (a.zip b).foldl (fun acc xy => acc ||| (xy.1 ^^^ xy.2)) 0 == 0

/-- `str::as_bytes`. -/
def asBytes (s : String) : List UInt8 := s.toUTF8.data.toList

/-! ## Resume tokens -/

inductive TailnetRpcError where
  | telemetrySinkClosed
  | signing (message : String)
  deriving DecidableEq

/-- What the parsers say of a text that they refuse. -/
class RefusalText where
  base64 : String → String
  uuid : String → String

section

variable [Sha256]

/-- `<peer_id>.<expires_at>`. -/
def tokenPayload (peerId : Uuid) (expiresAt : Int64) : String :=
  peerId.toHyphenated ++ "." ++ toString expiresAt.toInt

def tokenSignature (key : List UInt8) (peerId : Uuid) (expiresAt : Int64) : String :=
  Base64.encodeUrlSafe (hmacSha256 key (asBytes (tokenPayload peerId expiresAt)))

def signResumeToken (key : List UInt8) (peerId : Uuid) (expiresAt : Int64) : String :=
  tokenPayload peerId expiresAt ++ "." ++ tokenSignature key peerId expiresAt

/-- A text always has a first part, so that no peer id is missing. -/
def verifyResumeToken [RefusalText] (key : List UInt8) (token : String) (nowUnix : Int64) :
    Except TailnetRpcError Uuid :=
  match rsplitOnce token '.' with
  | none => .error (.signing "malformed token")
  | some (payload, sigB64) =>
    match Base64.decodeUrlSafe sigB64 with
    | none => .error (.signing ("signature base64: " ++ RefusalText.base64 sigB64))
    | some sig =>
      if constantTimeEq sig (hmacSha256 key (asBytes payload)) then
        match splitOnce payload '.' with
        | none => .error (.signing "missing expiry")
        | some (peerStr, expStr) =>
          match Uuid.parse peerStr with
          | none => .error (.signing ("parse peer id: " ++ RefusalText.uuid peerStr))
          | some peerId =>
            match parseI64 expStr with
            | .error e => .error (.signing ("parse expiry: " ++ e))
            | .ok expiresAt =>
              if expiresAt ≤ nowUnix then .error (.signing "token expired") else .ok peerId
      else .error (.signing "bad signature")

end

/-! ## The parts of a token -/

theorem foldl_xor_eq_zero_iff (xys : List (UInt8 × UInt8)) (acc : UInt8) :
    xys.foldl (fun acc xy => acc ||| (xy.1 ^^^ xy.2)) acc = 0 ↔
      acc = 0 ∧ ∀ xy ∈ xys, xy.1 = xy.2 := by
  induction xys generalizing acc with
  | nil => simp
  | cons xy xys ih =>
    rw [List.foldl_cons, ih, UInt8.or_eq_zero_iff, UInt8.xor_eq_zero_iff, List.forall_mem_cons,
      and_assoc]

theorem constantTimeEq_iff {a b : List UInt8} : constantTimeEq a b = true ↔ a = b := by
  unfold constantTimeEq
  constructor
  · intro h
    split at h
    · cases h
    · rename_i hlength
      have hzip := ((foldl_xor_eq_zero_iff _ _).mp (by simpa using h)).2
      refine List.ext_getElem (not_not.mp hlength) fun i hi hi' => ?_
      exact hzip (a[i], b[i]) (List.mem_iff_getElem.mpr ⟨i, by simp [hi, hi'], by simp⟩)
  · rintro rfl
    have hsame : ∀ xy ∈ a.zip a, xy.1 = xy.2 := by
      intro xy hmem
      obtain ⟨i, hi, rfl⟩ := List.mem_iff_getElem.mp hmem
      simp
    simpa using (foldl_xor_eq_zero_iff (a.zip a) 0).mpr ⟨rfl, hsame⟩

theorem asBytes_injective : Function.Injective asBytes := by
  intro s t h
  have harray : s.toUTF8.data = t.toUTF8.data := Array.toList_inj.mp h
  exact String.toByteArray_inj.mp (ByteArray.ext harray)

/-- The parts of a token, none of which has a dot in it. -/
def dotted : List String → String
  | [] => ""
  | [part] => part
  | part :: parts => part ++ "." ++ dotted parts

theorem dotted_concat {parts : List String} (h : parts ≠ []) (last : String) :
    dotted (parts ++ [last]) = dotted parts ++ "." ++ last := by
  induction parts with
  | nil => exact absurd rfl h
  | cons part parts ih =>
    cases parts with
    | nil => rfl
    | cons next parts =>
      have hrest := ih (List.cons_ne_nil next parts)
      simp only [List.cons_append, dotted] at hrest ⊢
      rw [hrest]
      simp only [String.append_assoc]

theorem dot_notMem_toHyphenated (id : Uuid) : '.' ∉ id.toHyphenated.toList := by
  have hdigit : ∀ d : Fin 16, '.' ≠ Uuid.hexDigit d := by decide
  intro h
  obtain hdash | ⟨d, hd, heq⟩ := Uuid.mem_toHyphenated h
  · exact absurd hdash (by decide)
  · exact hdigit ⟨d, hd⟩ heq

theorem dot_notMem_expiry (n : Int64) : '.' ∉ (toString n.toInt).toList := by
  intro h
  obtain hminus | hdigit := mem_toString_int h
  · exact absurd hminus (by decide)
  · exact absurd hdigit (by decide)

theorem dot_notMem_encodeUrlSafe (bytes : List UInt8) :
    '.' ∉ (Base64.encodeUrlSafe bytes).toList := by
  have hall : Base64.alphabet.all (fun c => '.' ≠ Base64.toUrlSafe c) := by decide
  intro h
  obtain ⟨c, hc, heq⟩ := Base64.mem_encodeUrlSafe h
  exact of_decide_eq_true (List.all_eq_true.mp hall c hc) heq

theorem toList_dotted (before after : String) :
    (before ++ "." ++ after).toList = before.toList ++ '.' :: after.toList := by
  simp

theorem rsplitOnce_dotted {before after : String} (h : '.' ∉ after.toList) :
    rsplitOnce (before ++ "." ++ after) '.' = some (before, after) := by
  rw [rsplitOnce_eq_of_toList (toList_dotted before after) h, String.ofList_toList,
    String.ofList_toList]

theorem splitOnce_dotted {before after : String} (h : '.' ∉ before.toList) :
    splitOnce (before ++ "." ++ after) '.' = some (before, after) := by
  rw [splitOnce, toList_dotted, span_ne_append h]
  simp

section

variable [Sha256] [RefusalText] {key : List UInt8}

/-- A token that has been signed is split where it was put together. -/
theorem verifyResumeToken_signResumeToken (key : List UInt8) (peerId : Uuid)
    (expiresAt nowUnix : Int64) :
    verifyResumeToken key (signResumeToken key peerId expiresAt) nowUnix =
      if nowUnix < expiresAt then .ok peerId else .error (.signing "token expired") := by
  have hsplit : rsplitOnce (signResumeToken key peerId expiresAt) '.' =
      some (tokenPayload peerId expiresAt, tokenSignature key peerId expiresAt) := by
    rw [signResumeToken]
    exact rsplitOnce_dotted (dot_notMem_encodeUrlSafe _)
  have hpayload : splitOnce (tokenPayload peerId expiresAt) '.' =
      some (peerId.toHyphenated, toString expiresAt.toInt) := by
    rw [tokenPayload]
    exact splitOnce_dotted (dot_notMem_toHyphenated peerId)
  have hsignature : Base64.decodeUrlSafe (tokenSignature key peerId expiresAt) =
      some (hmacSha256 key (asBytes (tokenPayload peerId expiresAt))) :=
    Base64.decodeUrlSafe_encodeUrlSafe _
  simp only [verifyResumeToken, hsplit, hsignature, constantTimeEq_iff.mpr rfl, if_true, hpayload,
    Uuid.parse_toHyphenated, parseI64_toString]
  by_cases hlt : nowUnix < expiresAt
  · rw [if_pos hlt, if_neg (Int64.not_le.mpr hlt)]
  · rw [if_neg hlt, if_pos (Int64.not_lt.mp hlt)]

/-! ## Tokens from parts of others -/

/-- A part of one of the tokens that have been signed. -/
def IsPart (key : List UInt8) (signed : List (Uuid × Int64)) (part : String) : Prop :=
  ∃ t ∈ signed, part = t.1.toHyphenated ∨ part = toString t.2.toInt ∨
    part = tokenSignature key t.1 t.2

/-- The messages that can be put together from fewer than `n` parts. -/
def messages (key : List UInt8) (signed : List (Uuid × Int64)) (n : ℕ) : Set (List UInt8) :=
  {msg | ∃ parts : List String, parts.length < n ∧ (∀ part ∈ parts, IsPart key signed part) ∧
    msg = asBytes (dotted parts)}

omit [RefusalText] in
theorem length_hmacSha256 (key msg : List UInt8) : (hmacSha256 key msg).length = 32 :=
  Sha256.length_digest _

variable {signed : List (Uuid × Int64)} {part : String}

omit [RefusalText] in
theorem IsPart.dot_notMem (h : IsPart key signed part) : '.' ∉ part.toList := by
  obtain ⟨t, -, rfl | rfl | rfl⟩ := h
  · exact dot_notMem_toHyphenated t.1
  · exact dot_notMem_expiry t.2
  · exact dot_notMem_encodeUrlSafe _

omit [RefusalText] in
/-- A peer id has too many characters to be a signature, and an expiry too few. -/
theorem IsPart.signature (h : IsPart key signed part) {sig : List UInt8}
    (hdecode : Base64.decodeUrlSafe part = some sig) (hlength : sig.length = 32) :
    ∃ t ∈ signed, part = tokenSignature key t.1 t.2 ∧
      sig = hmacSha256 key (asBytes (tokenPayload t.1 t.2)) := by
  have hchars := Base64.length_of_decodeUrlSafe hdecode
  rw [hlength] at hchars
  obtain ⟨t, ht, rfl | rfl | rfl⟩ := h
  · rw [Uuid.length_toHyphenated] at hchars
    exact absurd hchars (by decide)
  · have hshort := length_toString_int64 t.2
    omega
  · rw [tokenSignature, Base64.decodeUrlSafe_encodeUrlSafe, Option.some.injEq] at hdecode
    exact ⟨t, ht, rfl, hdecode.symm⟩

/-- What a token that verifies has been checked for. -/
theorem signed_of_verify {token : String} {nowUnix : Int64} {peerId : Uuid}
    (h : verifyResumeToken key token nowUnix = .ok peerId) :
    ∃ payload sigB64, rsplitOnce token '.' = some (payload, sigB64) ∧
      Base64.decodeUrlSafe sigB64 = some (hmacSha256 key (asBytes payload)) := by
  rw [verifyResumeToken] at h
  cases hsplit : rsplitOnce token '.' with
  | none => simp [hsplit] at h
  | some parts =>
    obtain ⟨payload, sigB64⟩ := parts
    simp only [hsplit] at h
    cases hdecode : Base64.decodeUrlSafe sigB64 with
    | none => simp [hdecode] at h
    | some sig =>
      simp only [hdecode] at h
      split at h
      · rename_i hsame
        exact ⟨payload, sigB64, rfl, by rw [hdecode, constantTimeEq_iff.mp hsame]⟩
      · cases h

/-- A token that verifies and is put together from parts of signed tokens is one of them. -/
theorem mem_signed_of_verify {parts : List String} {n : ℕ} {nowUnix : Int64} {peerId : Uuid}
    (hn : 3 ≤ n) (hlength : parts.length ≤ n) (hparts : ∀ part ∈ parts, IsPart key signed part)
    (hinjective : Set.InjOn (hmacSha256 key) (messages key signed n))
    (hverify : verifyResumeToken key (dotted parts) nowUnix = .ok peerId) :
    ∃ t ∈ signed, dotted parts = signResumeToken key t.1 t.2 := by
  obtain ⟨payload, sigB64, hsplit, hdecode⟩ := signed_of_verify hverify
  obtain rfl | ⟨before, last, rfl⟩ := List.eq_nil_or_concat' parts
  · rw [dotted, rsplitOnce_eq_none (by simp)] at hsplit
    cases hsplit
  · obtain ⟨hbefore, hlast⟩ : (∀ part ∈ before, IsPart key signed part) ∧
        IsPart key signed last := by simpa [or_imp, forall_and] using hparts
    by_cases hnil : before = []
    · subst hnil
      rw [List.nil_append, dotted, rsplitOnce_eq_none hlast.dot_notMem] at hsplit
      cases hsplit
    · rw [dotted_concat hnil] at hsplit ⊢
      rw [rsplitOnce_dotted hlast.dot_notMem, Option.some.injEq, Prod.mk.injEq] at hsplit
      obtain ⟨rfl, rfl⟩ := hsplit
      obtain ⟨t, ht, hsig, hmac⟩ := hlast.signature hdecode (length_hmacSha256 _ _)
      -- both messages are among those on which the signatures tell apart
      have hpeer : IsPart key signed t.1.toHyphenated := ⟨t, ht, .inl rfl⟩
      have hexpiry : IsPart key signed (toString t.2.toInt) := ⟨t, ht, .inr (.inl rfl)⟩
      have hown : asBytes (tokenPayload t.1 t.2) ∈ messages key signed n :=
        ⟨[t.1.toHyphenated, toString t.2.toInt], hn,
          List.forall_mem_cons.mpr ⟨hpeer, List.forall_mem_singleton.mpr hexpiry⟩, rfl⟩
      have hgiven : asBytes (dotted before) ∈ messages key signed n := by
        refine ⟨before, ?_, hbefore, rfl⟩
        rw [List.length_append, List.length_singleton] at hlength
        exact hlength
      have hpayload := asBytes_injective (hinjective hgiven hown hmac)
      exact ⟨t, ht, by rw [hpayload, hsig, signResumeToken]⟩

/-- A token is read as its peer until it expires, and no parts of tokens make another one. -/
theorem resume_tokens_identify_peers (key : List UInt8) :
    (∀ peerId expiresAt nowUnix,
      verifyResumeToken key (signResumeToken key peerId expiresAt) nowUnix =
        if nowUnix < expiresAt then .ok peerId else .error (.signing "token expired")) ∧
    ∀ (signed : List (Uuid × Int64)) (parts : List String) (n : ℕ) nowUnix peerId,
      3 ≤ n → parts.length ≤ n → (∀ part ∈ parts, IsPart key signed part) →
      Set.InjOn (hmacSha256 key) (messages key signed n) →
      verifyResumeToken key (dotted parts) nowUnix = .ok peerId →
      ∃ t ∈ signed, dotted parts = signResumeToken key t.1 t.2 :=
  ⟨verifyResumeToken_signResumeToken key, fun _ _ _ _ _ => mem_signed_of_verify⟩

end

/-! ## A token on its own -/

@[reducible] def sha256 : Sha256 := ⟨Foundation.Sha2.digest, Foundation.Sha2.length_digest⟩

@[reducible] def plainRefusals : RefusalText where
  base64 _ := "Invalid padding"
  uuid _ := "invalid length"

def resumeKey : List UInt8 := List.replicate 32 7

/-- The token of peer 7, up to an instant. -/
def sevenUntil : Uuid × Int64 := (⟨7⟩, 1700000000)

def sevenParts : List String :=
  [sevenUntil.1.toHyphenated, toString sevenUntil.2.toInt,
    @tokenSignature sha256 resumeKey sevenUntil.1 sevenUntil.2]

/-- The parts in fewer than three places. -/
def sevenChoices : List (List String) :=
  [] :: sevenParts.map (fun part => [part]) ++
    sevenParts.flatMap fun part => sevenParts.map fun next => [part, next]

theorem mem_sevenChoices {parts : List String} (hlength : parts.length < 3)
    (hparts : ∀ part ∈ parts, part ∈ sevenParts) : parts ∈ sevenChoices := by
  match parts with
  | [] => simp [sevenChoices]
  | [part] =>
    have hpart := hparts part (by simp)
    simp [sevenChoices, hpart]
  | [part, next] =>
    have hpart := hparts part (by simp)
    have hnext := hparts next (by simp)
    simp [sevenChoices, hpart, hnext]
  | _ :: _ :: _ :: _ =>
    simp only [List.length_cons] at hlength
    omega

theorem sevenChoices_first : (sevenChoices.map fun parts =>
    (@hmacSha256 sha256 resumeKey (asBytes (dotted parts))).head?) =
      [157, 192, 38, 80, 231, 216, 199, 245, 201, 195, 97, 184, 10].map some := by
  decide +kernel

theorem injOn_seven : Set.InjOn (@hmacSha256 sha256 resumeKey)
    (@messages sha256 resumeKey [sevenUntil] 3) := by
  have hnodup : (sevenChoices.map fun parts =>
      (@hmacSha256 sha256 resumeKey (asBytes (dotted parts))).head?).Nodup := by
    rw [sevenChoices_first]
    decide
  have hparts : ∀ {parts : List String}, (∀ part ∈ parts,
      @IsPart sha256 resumeKey [sevenUntil] part) → ∀ part ∈ parts, part ∈ sevenParts := by
    intro parts hparts part hpart
    obtain ⟨t, ht, hcases⟩ := hparts part hpart
    obtain rfl := List.mem_singleton.mp ht
    simpa [sevenParts] using hcases
  rintro _ ⟨parts, hlength, hmem, rfl⟩ _ ⟨parts', hlength', hmem', rfl⟩ hsame
  have heq : parts = parts' := List.inj_on_of_nodup_map hnodup
    (mem_sevenChoices hlength (hparts hmem)) (mem_sevenChoices hlength' (hparts hmem'))
    (congrArg List.head? hsame)
  rw [heq]

theorem resume_tokens_identify_peers_seven :
    @verifyResumeToken sha256 plainRefusals resumeKey (dotted sevenParts) 1699999999 = .ok ⟨7⟩ ∧
      ∃ t ∈ [sevenUntil], dotted sevenParts = @signResumeToken sha256 resumeKey t.1 t.2 := by
  obtain ⟨hverify, hsigned⟩ := @resume_tokens_identify_peers sha256 plainRefusals resumeKey
  have hseven : dotted sevenParts =
      @signResumeToken sha256 resumeKey sevenUntil.1 sevenUntil.2 := by
    simp only [sevenParts, dotted, signResumeToken, tokenPayload, String.append_assoc]
  have hread : @verifyResumeToken sha256 plainRefusals resumeKey (dotted sevenParts) 1699999999 =
      .ok ⟨7⟩ := by
    rw [hseven, hverify, if_pos (by decide)]
    rfl
  refine ⟨hread, hsigned [sevenUntil] sevenParts 3 1699999999 ⟨7⟩ (le_refl 3) (le_refl 3) ?_
    injOn_seven hread⟩
  intro part hpart
  exact ⟨sevenUntil, List.mem_singleton_self _, by simpa [sevenParts] using hpart⟩

end Coderd.Tailnet
