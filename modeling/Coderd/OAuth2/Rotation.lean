import Coderd.OAuth2.Exchange
import Coderd.OAuth2.Walks

namespace Coderd.OAuth2

open Coderd.Foundation Coderd.Auth
open Coderd.CryptoKeys (OffsetDateTime)

/-! ## Who has a grant's pair -/

section

variable [Sha256]

/-- The call has had the refresh token's row, and the access token that came with it is no key. -/
structure World.Rotated (w : World) (call : Nat) (args : RefreshArgs) (id : Uuid)
    (token : IssuedToken) : Prop where
  issued : w.tokens.issued.lookup id = some token
  refreshHash : token.refreshHash = Sha256.digest args.refreshToken
  deleted : .tokenDeleted call id ∈ w.log
  key_issued : ∃ key, w.apiKeys.issued.lookup token.apiKeyId = some key
  key_gone : w.apiKeys.rows.lookup token.apiKeyId = none

theorem World.Rotated.later {w w' : World} {call : Nat} {args : RefreshArgs} {id : Uuid}
    {token : IssuedToken} (h : w.Rotated call args id token) (hlater : w.Later w') :
    w'.Rotated call args id token := by
  obtain ⟨key, hkey⟩ := h.key_issued
  exact ⟨hlater.tokens.issued _ _ h.issued, h.refreshHash, hlater.mem_log h.deleted,
    ⟨key, hlater.apiKeys.issued _ _ hkey⟩, hlater.apiKeys.gone _ _ hkey h.key_gone⟩

/-- What an answer of `refresh_token` shows. -/
def refreshContract : Contract where
  Holds call request _ reply w := ∀ args result, request = .refreshToken args →
    reply = .tokens result → ∃ id token, w.Rotated call args id token
  later h hlater args result hrequest hreply := by
    obtain ⟨id, token, hrotated⟩ := h args result hrequest hreply
    exact ⟨id, token, hrotated.later hlater⟩

/-- A call has the only right to a grant's pair: it has deleted the code or the token, and of the
old key it may still have to delete `key`. -/
structure Holder where
  code : Uuid
  key : Option String

structure World.Held (w : World) (holder : Holder) : Prop where
  code : w.Gone (.code holder.code)
  tokens : ∀ id token, w.tokens.rows.lookup id = some token → token.grant.code ≠ holder.code
  keys : ∀ id key, w.apiKeys.rows.lookup id = some key → key.grant.code = holder.code →
    holder.key = some id
  issued : ∀ id, holder.key = some id → ∃ key, w.apiKeys.issued.lookup id = some key

/-- A task holds one grant or none. -/
def World.Grasped (w : World) : Option Holder → Prop
  | none => True
  | some holder => w.Held holder

def Holder.Apart : Option Holder → Option Holder → Prop
  | some holder, some holder' => holder.code ≠ holder'.code
  | _, _ => True

omit [Sha256] in
theorem Holder.Apart.symm {o o' : Option Holder} (h : Holder.Apart o o') : Holder.Apart o' o := by
  cases o with
  | none => cases o' <;> trivial
  | some holder =>
    cases o' with
    | none => trivial
    | some holder' => exact Ne.symm h

/-- No grant has two pairs, and none has a pair while its code can still be exchanged. -/
structure Linear (w : World) : Prop where
  recorded : Recorded w
  answered : refreshContract.Kept w
  tokens_gone : ∀ id token, w.tokens.rows.lookup id = some token → w.Gone (.code token.grant.code)
  keys_gone : ∀ id key, w.apiKeys.rows.lookup id = some key → w.Gone (.code key.grant.code)
  one_token : ∀ id id' token token', w.tokens.rows.lookup id = some token →
    w.tokens.rows.lookup id' = some token' → token.grant.code = token'.grant.code → id = id'
  one_key : ∀ id id' key key', w.apiKeys.rows.lookup id = some key →
    w.apiKeys.rows.lookup id' = some key' → key.grant.code = key'.grant.code → id = id'
  own_key : ∀ id token id' key, w.tokens.rows.lookup id = some token →
    w.apiKeys.rows.lookup id' = some key → key.grant.code = token.grant.code →
    id' = token.apiKeyId
  key_issued : ∀ id token, w.tokens.issued.lookup id = some token →
    ∃ key, w.apiKeys.issued.lookup token.apiKeyId = some key

abbrev Rotating : World → List (Option Holder) → Prop :=
  Ensemble Linear World.Grasped Holder.Apart

section

variable {w w' : World} {roles others : List (Option Holder)} {o : Option Holder} {holder : Holder}

omit [Sha256] in
theorem World.Held.shrink (h : w.Held holder) (hs : w.Shrinks w') : w'.Held holder where
  code := h.code.later hs.later
  tokens id token hrow := h.tokens id token (hs.tokens id token hrow)
  keys id key hrow := h.keys id key (hs.apiKeys id key hrow)
  issued id hid := by
    obtain ⟨key, hkey⟩ := h.issued id hid
    exact ⟨key, hs.later.apiKeys.issued _ _ hkey⟩

theorem Linear.shrink (h : Linear w) (hs : w.Shrinks w') (hrecorded : Recorded w')
    (hanswered : refreshContract.Kept w') : Linear w' where
  recorded := hrecorded
  answered := hanswered
  tokens_gone id token hrow := (h.tokens_gone id token (hs.tokens _ _ hrow)).later hs.later
  keys_gone id key hrow := (h.keys_gone id key (hs.apiKeys _ _ hrow)).later hs.later
  one_token id id' token token' hrow hrow' :=
    h.one_token id id' token token' (hs.tokens _ _ hrow) (hs.tokens _ _ hrow')
  one_key id id' key key' hrow hrow' :=
    h.one_key id id' key key' (hs.apiKeys _ _ hrow) (hs.apiKeys _ _ hrow')
  own_key id token id' key hrow hrow' :=
    h.own_key id token id' key (hs.tokens _ _ hrow) (hs.apiKeys _ _ hrow')
  key_issued id token hissued := by
    obtain ⟨key, hkey⟩ := h.key_issued id token (hs.issued ▸ hissued)
    exact ⟨key, hs.later.apiKeys.issued _ _ hkey⟩

namespace Rotating

theorem start (apps : AppTable) : Rotating (World.start apps) [] := by
  refine ⟨⟨.start apps, .start apps, ?_, ?_, ?_, ?_, ?_, ?_⟩, by simp, List.Pairwise.nil⟩ <;>
    simp [World.start]

/-- Rows that are taken away leave everyone what they have. -/
theorem shrink (h : Rotating w roles) (hs : w.Shrinks w') (hrecorded : Recorded w')
    (hanswered : refreshContract.Kept w') : Rotating w' roles where
  shared := h.shared.shrink hs hrecorded hanswered
  valid o ho := by
    cases o with
    | none => trivial
    | some holder => exact (h.valid _ ho : w.Held holder).shrink hs
  apart := h.apart

theorem step_ungranting {choice : Choice} {op : Op} (h : Rotating w roles) (hop : op.Ungranting)
    (hsteps : Steps choice w op w') : Rotating w' roles :=
  h.shrink (hsteps.shrinks hop.2) (h.shared.recorded.step hsteps)
    (h.shared.answered.inner hsteps.later (hop.1.logsInner hsteps))

theorem begin {choice : Choice} {request : Request} (h : Rotating w roles)
    (hnow : w.clock ≤ choice.now) : Rotating (w.begun request choice.now) roles := by
  have hsteps : Steps choice w (.begin request) _ := .begin request hnow
  exact h.shrink (hsteps.shrinks fun _ _ hquery => by cases hquery)
    (h.shared.recorded.step hsteps) (h.shared.answered.begin hsteps.later)

theorem finish {call : Nat} {request : Request} {at_ : OffsetDateTime} {reply : Reply}
    (h : Rotating w roles) (hbegan : .began call request at_ ∈ w.log)
    (hholds : refreshContract.Holds call request at_ reply w) :
    Rotating (w.note (.finished call reply)) roles := by
  have hsteps : Steps (choiceOf 0) w (.finish call reply) _ := .finish call reply
  exact h.shrink (hsteps.shrinks fun _ _ hquery => by cases hquery)
    (h.shared.recorded.step hsteps) (h.shared.answered.finish h.shared.recorded hbegan hholds)

/-- A call that deletes a code gets its grant. -/
theorem takeCode {call : Nat} {id : Uuid} {code : IssuedCode}
    (h : Rotating w (none :: others)) (hrow : w.codes.rows.lookup id = some code)
    (hsteps : Rotating ({ w with codes := w.codes.erase id }.note (.codeDeleted call id))
      (none :: others)) :
    Rotating ({ w with codes := w.codes.erase id }.note (.codeDeleted call id))
      (some ⟨id, none⟩ :: others) := by
  -- the grant of a row whose code can be exchanged
  have hthere : ¬ w.Gone (.code id) := by
    rintro ⟨-, hnone⟩
    rw [hrow] at hnone
    cases hnone
  refine h.step hsteps.shared ⟨⟨⟨code, w.codes.rows_issued _ _ hrow⟩, ?_⟩, ?_, ?_, ?_⟩ ?_
  · exact AList.lookup_erase _ _
  · rintro tokenId token htoken rfl
    exact hthere (h.shared.tokens_gone tokenId token htoken)
  · rintro keyId key hkey rfl
    exact absurd (h.shared.keys_gone keyId key hkey) hthere
  · intro keyId hkey
    cases hkey
  · intro u hu hvalid _
    refine ⟨hsteps.others_valid hu, ?_⟩
    cases u with
    | none => trivial
    | some holder =>
      rintro rfl
      exact hthere (World.Held.code hvalid)

/-- A call that deletes a refresh token's row gets its grant, with the key still to be deleted. -/
theorem takeToken {call : Nat} {id : Uuid} {token : IssuedToken}
    (h : Rotating w (none :: others)) (hrow : w.tokens.rows.lookup id = some token)
    (hsteps : Rotating ({ w with tokens := w.tokens.erase id }.note (.tokenDeleted call id))
      (none :: others)) :
    Rotating ({ w with tokens := w.tokens.erase id }.note (.tokenDeleted call id))
      (some ⟨token.grant.code, some token.apiKeyId⟩ :: others) := by
  have hlinear := h.shared
  refine h.step hsteps.shared ⟨hlinear.tokens_gone id token hrow, ?_, ?_, ?_⟩ ?_
  · intro id' token' hrow' hcode
    obtain ⟨hne, hrow'⟩ := Register.lookup_erase_iff.mp hrow'
    exact hne (hlinear.one_token id' id token' token hrow' hrow hcode)
  · intro keyId key hkey hcode
    rw [hlinear.own_key id token keyId key hrow hkey hcode]
  · intro keyId hkey
    cases hkey
    exact hlinear.key_issued id token (w.tokens.rows_issued _ _ hrow)
  · intro u hu hvalid _
    refine ⟨hsteps.others_valid hu, ?_⟩
    cases u with
    | none => trivial
    | some holder => exact World.Held.tokens hvalid id token hrow

/-- The old key is deleted. -/
theorem dropKey {code : Uuid} {id : String} (h : Rotating w (some ⟨code, some id⟩ :: others))
    (hnone : w.apiKeys.rows.lookup id = none) : Rotating w (some ⟨code, none⟩ :: others) := by
  have hheld : w.Held ⟨code, some id⟩ := h.own
  refine h.become ⟨hheld.code, hheld.tokens, fun id' key hrow hcode => ?_, fun id' hid => ?_⟩
    fun u hu => ?_
  · have hid := hheld.keys id' key hrow hcode
    cases hid
    rw [hnone] at hrow
    cases hrow
  · cases hid
  · cases u with
    | none => trivial
    | some holder => exact hu

/-- Who holds a grant without a key makes one. -/
theorem createKey {call : Nat} {code : Uuid} {id : String} {key : ApiKeyRow} {grant : Grant}
    {apiKeys : Register String IssuedKey} (h : Rotating w (some ⟨code, none⟩ :: others))
    (hgrant : grant.code = code)
    (hinsert : w.apiKeys.Inserted id { key with grant := grant } apiKeys)
    (hrecorded : Recorded ({ w with apiKeys := apiKeys }.note (.keyCreated call id)))
    (hanswered : refreshContract.Kept ({ w with apiKeys := apiKeys }.note (.keyCreated call id))) :
    Rotating ({ w with apiKeys := apiKeys }.note (.keyCreated call id))
      (some ⟨code, some id⟩ :: others) := by
  subst hgrant
  have hlinear := h.shared
  have hheld : w.Held ⟨grant.code, none⟩ := h.own
  have hnokey : ∀ id' key', w.apiKeys.rows.lookup id' = some key' →
      key'.grant.code ≠ grant.code := by
    intro id' key' hrow hcode
    cases hheld.keys id' key' hrow hcode
  refine h.step ⟨hrecorded, hanswered, hlinear.tokens_gone, ?_, hlinear.one_token, ?_, ?_, ?_⟩
    ⟨hheld.code, hheld.tokens, ?_, ?_⟩ ?_
  · intro id' key' hrow
    obtain ⟨rfl, rfl⟩ | hrow := hinsert.rows_cases hrow
    · exact hheld.code
    · exact hlinear.keys_gone id' key' hrow
  · intro id' id'' key' key'' hrow' hrow'' hcode
    obtain ⟨rfl, rfl⟩ | hold := hinsert.rows_cases hrow'
    · obtain ⟨rfl, rfl⟩ | hold' := hinsert.rows_cases hrow''
      · rfl
      · exact absurd hcode.symm (hnokey id'' key'' hold')
    · obtain ⟨rfl, rfl⟩ | hold' := hinsert.rows_cases hrow''
      · exact absurd hcode (hnokey id' key' hold)
      · exact hlinear.one_key id' id'' key' key'' hold hold' hcode
  · intro tokenId token id' key' htoken hrow hcode
    obtain ⟨rfl, rfl⟩ | hrow := hinsert.rows_cases hrow
    · exact absurd hcode.symm (hheld.tokens tokenId token htoken)
    · exact hlinear.own_key tokenId token id' key' htoken hrow hcode
  · intro tokenId token htoken
    obtain ⟨key', hkey'⟩ := hlinear.key_issued tokenId token htoken
    exact ⟨key', hinsert.later.issued _ _ hkey'⟩
  · intro id' key' hrow hcode
    obtain ⟨rfl, rfl⟩ | hrow := hinsert.rows_cases hrow
    · rfl
    · exact absurd hcode (hnokey id' key' hrow)
  · intro id' hid
    cases hid
    exact ⟨_, hinsert.issued_self⟩
  · intro u hu hvalid hapart
    cases u with
    | none => exact ⟨trivial, trivial⟩
    | some holder =>
      have hne : grant.code ≠ holder.code := hapart
      have hvalid : w.Held holder := hvalid
      refine ⟨⟨hvalid.code, hvalid.tokens, fun id' key' hrow hcode => ?_, fun id' hid => ?_⟩, hne⟩
      · obtain ⟨rfl, rfl⟩ | hrow := hinsert.rows_cases hrow
        · exact absurd hcode hne
        · exact hvalid.keys id' key' hrow hcode
      · obtain ⟨key', hkey'⟩ := hvalid.issued id' hid
        exact ⟨key', hinsert.later.issued _ _ hkey'⟩

/-- An insert of a key, whatever its response is. -/
theorem createKey_cases {choice : Choice} {call : Nat} {id : String} {key : ApiKeyRow}
    {grant : Grant} (h : Rotating w (some ⟨grant.code, none⟩ :: others))
    (hfails : choice.fails = false)
    (hsteps : Steps choice w (.store call (.createApiKey id key grant)) w') :
    Rotating w' (some ⟨grant.code, none⟩ :: others) ∨
      Rotating w' (some ⟨grant.code, some id⟩ :: others) := by
  have hrecorded := h.shared.recorded.step hsteps
  have hinner : (Op.store call (.createApiKey id key grant)).Inner := .inr trivial
  have hanswered := h.shared.answered.inner hsteps.later (hinner.logsInner hsteps)
  cases hsteps with
  | quiet => exact .inl h
  | failed _ hfails' =>
    rw [hfails] at hfails'
    cases hfails'
  | change hquery _ hchange =>
    cases hquery
    cases hchange with
    | same => exact .inl h
    | createApiKey hinsert => exact .inr (h.createKey rfl hinsert hrecorded hanswered)

/-- Who has made the grant's key makes its token, and has nothing left to do. -/
theorem createToken {call : Nat} {tokenId : Uuid} {token : TokenRow} {grant : Grant}
    {secret : SecretRow} {tokens : Register Uuid IssuedToken}
    (h : Rotating w (some ⟨grant.code, some token.apiKeyId⟩ :: others))
    (hinsert : w.tokens.Inserted tokenId { token with grant := grant, secret := secret } tokens)
    (hrecorded : Recorded ({ w with tokens := tokens }.note (.tokenCreated call tokenId)))
    (hanswered : refreshContract.Kept
      ({ w with tokens := tokens }.note (.tokenCreated call tokenId))) :
    Rotating ({ w with tokens := tokens }.note (.tokenCreated call tokenId)) (none :: others) := by
  have hlinear := h.shared
  have hheld : w.Held ⟨grant.code, some token.apiKeyId⟩ := h.own
  refine h.step ⟨hrecorded, hanswered, ?_, hlinear.keys_gone, ?_, hlinear.one_key, ?_, ?_⟩
    trivial ?_
  · intro id token' hrow
    obtain ⟨rfl, rfl⟩ | hrow := hinsert.rows_cases hrow
    · exact hheld.code
    · exact hlinear.tokens_gone id token' hrow
  · intro id id' token' token'' hrow hrow' hcode
    obtain ⟨rfl, rfl⟩ | hold := hinsert.rows_cases hrow
    · obtain ⟨rfl, rfl⟩ | hold' := hinsert.rows_cases hrow'
      · rfl
      · exact absurd hcode.symm (hheld.tokens id' token'' hold')
    · obtain ⟨rfl, rfl⟩ | hold' := hinsert.rows_cases hrow'
      · exact absurd hcode (hheld.tokens id token' hold)
      · exact hlinear.one_token id id' token' token'' hold hold' hcode
  · intro id token' keyId key hrow hkey hcode
    obtain ⟨rfl, rfl⟩ | hrow := hinsert.rows_cases hrow
    · have hid := hheld.keys keyId key hkey hcode
      cases hid
      rfl
    · exact hlinear.own_key id token' keyId key hrow hkey hcode
  · intro id token' hissued
    obtain ⟨rfl, rfl⟩ | hissued := hinsert.issued_cases hissued
    · exact hheld.issued _ rfl
    · exact hlinear.key_issued id token' hissued
  · intro u hu hvalid hapart
    cases u with
    | none => exact ⟨trivial, trivial⟩
    | some holder =>
      have hne : grant.code ≠ holder.code := hapart
      have hvalid : w.Held holder := hvalid
      refine ⟨⟨hvalid.code, fun id token' hrow => ?_, hvalid.keys, hvalid.issued⟩, trivial⟩
      obtain ⟨rfl, rfl⟩ | hrow := hinsert.rows_cases hrow
      · exact hne
      · exact hvalid.tokens id token' hrow

/-- An insert of a token, whatever its response is. -/
theorem createToken_cases {choice : Choice} {call : Nat} {token : TokenRow} {grant : Grant}
    (h : Rotating w (some ⟨grant.code, some token.apiKeyId⟩ :: others))
    (hfails : choice.fails = false)
    (hsteps : Steps choice w (.store call (.createToken token grant)) w') :
    Rotating w' (some ⟨grant.code, some token.apiKeyId⟩ :: others) ∨
      Rotating w' (none :: others) := by
  have hrecorded := h.shared.recorded.step hsteps
  have hinner : (Op.store call (.createToken token grant)).Inner := .inr trivial
  have hanswered := h.shared.answered.inner hsteps.later (hinner.logsInner hsteps)
  cases hsteps with
  | quiet => exact .inl h
  | failed _ hfails' =>
    rw [hfails] at hfails'
    cases hfails'
  | change hquery _ hchange =>
    cases hquery
    cases hchange with
    | same => exact .inl h
    | createToken _ _ hinsert => exact .inr (h.createToken hinsert hrecorded hanswered)

end Rotating

end

/-! ## The calls -/

/-- No store call fails. -/
def reliable : Regime Op World Choice Request Empty where
  call op _ choice := ∀ call q, op.query? = some (call, q) → choice.fails = false
  spawn _ _ := True
  outside _ _ := True

section

variable [UrlSyntax]

def rotating : Method growth reliable (Option Holder) where
  inv := Rotating
  perm := Ensemble.perm Holder.Apart.symm

variable {seen : World} {o : Option Holder} {call : Nat}

theorem rotating_keeps : rotating.Keeps Op.Ungranting where
  keeps hop hinv _ hexec := Rotating.step_ungranting hinv hop (steps_of_exec hexec)

theorem rotating_keeps_plain : rotating.Keeps Op.Plain :=
  rotating_keeps.mono fun _ => Op.Plain.ungranting

/-- Whoever holds a grant makes its pair; `Q` is what was known before. -/
theorem storeTokenPair_rotates {Q : World → Option Holder → Outcome OAuth2TokenResult → Prop}
    {keySecret refreshToken : String} {key : ApiKeyRow} {token : TokenRow} {grant : Grant}
    (hends : ∀ w o r, seen.Later w → Q w o r) :
    rotating.Plays Q (storeTokenPair call token.apiKeyId keySecret refreshToken key token grant)
      seen (some ⟨grant.code, none⟩) := by
  refine plays_awaitStore fun s others choice r s₁ hs hinv hallowed hexec => ?_
  have hsteps := steps_of_store hexec
  have hlater := hs.trans hsteps.later
  have hcases := Rotating.createKey_cases hinv (hallowed _ _ rfl) hsteps
  by_cases hr : r = .ok true
  · obtain ⟨apiKeys, hinsert, rfl⟩ := of_createApiKey (hr ▸ hexec)
    -- the key is new, so that nobody but the holder can have it now
    have hkey : Rotating ({ s with apiKeys := apiKeys }.note (.keyCreated call token.apiKeyId))
        (some ⟨grant.code, some token.apiKeyId⟩ :: others) := by
      refine hcases.resolve_left fun hnone => ?_
      have hheld : World.Held ({ s with apiKeys := apiKeys }.note
          (.keyCreated call token.apiKeyId)) ⟨grant.code, none⟩ := hnone.own
      cases hheld.keys token.apiKeyId _ hinsert.rows_self rfl
    refine ⟨_, hkey, fun e he => ?_, fun created hcreated => ?_⟩
    · rw [hr] at he
      cases he
    · rw [hr] at hcreated
      cases hcreated
      intro s₂ others' choice' (r' : Except StorageError Unit) s₃ hs₂ hinv₂ hallowed' hexec'
      have hsteps' := steps_of_store hexec'
      have hlater' := (hlater.trans hs₂).trans hsteps'.later
      obtain ⟨o', hinv₃⟩ : ∃ o', Rotating s₃ (o' :: others') :=
        (Rotating.createToken_cases hinv₂ (hallowed' _ _ rfl) hsteps').elim
          (fun h => ⟨_, h⟩) fun h => ⟨_, h⟩
      refine ⟨o', hinv₃, ?_⟩
      cases r' with
      | error e =>
        refine keeps_call rotating_keeps_plain trivial fun s₄ _ _ s₅ hs₄ hexec'' => ?_
        exact hends s₅ o' _ ((hlater'.trans hs₄).trans (steps_of_exec hexec'').later)
      | ok _ => exact hends s₃ o' _ hlater'
  · obtain ⟨o', hinv₁⟩ : ∃ o', Rotating s₁ (o' :: others) :=
      hcases.elim (fun h => ⟨_, h⟩) fun h => ⟨_, h⟩
    refine ⟨o', hinv₁, fun e _ => hends s₁ o' _ hlater, fun (created : Bool) hcreated => ?_⟩
    cases created with
    | true => exact absurd hcreated hr
    | false => exact hends s₁ o' _ hlater

theorem generateTokenPair_rotates {Q : World → Option Holder → Outcome OAuth2TokenResult → Prop}
    {secretId userId : Uuid} {audience : String} {grant : Grant}
    (hends : ∀ w o r, seen.Later w → Q w o r) :
    rotating.Plays Q (generateTokenPair call secretId userId audience grant) seen
      (some ⟨grant.code, none⟩) := by
  refine generateTokenPair_plays rotating_keeps_plain (fun w e hw => hends w _ _ hw) ?_
  intro w keySecret refreshToken key token hw _ _
  exact storeTokenPair_rotates fun w' o r hw' => hends w' o r (hw.trans hw')

theorem redeemCode_rotates {args : ExchangeArgs} {id secretId : Uuid} {code : IssuedCode} :
    rotating.Plays anyEnd (redeemCode call args id code secretId) seen none := by
  unfold redeemCode
  split
  · trivial
  · refine plays_awaitStore fun s others choice r s' _ hinv _ hexec => ?_
    have hop : (Op.store call (.deleteCode id)).Ungranting := Op.Plain.ungranting trivial
    have hrotating := Rotating.step_ungranting hinv hop (steps_of_store hexec)
    by_cases hr : r = .ok true
    · obtain ⟨⟨code', hrow⟩, rfl⟩ := of_deleteCode (hr ▸ hexec)
      refine ⟨_, Rotating.takeCode hinv hrow hrotating, fun e _ => trivial, fun deleted hd => ?_⟩
      rw [hr] at hd
      cases hd
      exact generateTokenPair_rotates fun _ _ _ _ => trivial
    · refine ⟨none, hrotating, fun e _ => trivial, fun (deleted : Bool) hd => ?_⟩
      cases deleted with
      | true => exact absurd hd hr
      | false => trivial

theorem exchangeCode_rotates {args : ExchangeArgs} :
    rotating.Plays anyEnd (exchangeCode call args) seen none :=
  exchangeCode_plays rotating_keeps_plain (fun _ _ _ => trivial)
    fun _ _ _ _ _ _ _ _ _ => redeemCode_rotates

/-- What an answer of `refresh_token` leaves to be seen. -/
def World.Refreshes (call : Nat) (args : RefreshArgs) (w : World) (_ : Option Holder)
    (r : Outcome OAuth2TokenResult) : Prop :=
  ∀ result, r = .ok result → ∃ id token, w.Rotated call args id token

omit [UrlSyntax] in
theorem refreshes_error {args : RefreshArgs} (w : World) (e : OAuth2ProviderError) :
    w.Refreshes call args o (.error e) := by
  intro result h
  cases h

theorem rotateToken_rotates {args : RefreshArgs} {id : Uuid} {token : IssuedToken}
    (hissued : seen.tokens.issued.lookup id = some token)
    (hhash : token.refreshHash = Sha256.digest args.refreshToken) :
    rotating.Plays (World.Refreshes call args) (rotateToken call id token) seen none := by
  refine plays_awaitStore fun s others choice r s₁ hs hinv _ hexec => ?_
  have hsteps := steps_of_store hexec
  have hop : (Op.store call (.deleteToken id)).Ungranting :=
    ⟨.inr trivial, fun _ _ hquery hgrants => by cases hquery; cases hgrants⟩
  have hrotating := Rotating.step_ungranting hinv hop hsteps
  have hlater := hs.trans hsteps.later
  by_cases hr : r = .ok true
  · obtain ⟨⟨token', hrow⟩, rfl⟩ := of_deleteToken (hr ▸ hexec)
    have hsame := s.tokens.rows_issued _ _ hrow
    rw [hs.tokens.issued _ _ hissued] at hsame
    cases hsame
    refine ⟨_, Rotating.takeToken hinv hrow hrotating, fun e _ => refreshes_error _ _,
      fun deleted hd => ?_⟩
    rw [hr] at hd
    cases hd
    intro s₂ others' choice' (_ : Unit) s₃ hs₂ hinv₂ hallowed hexec'
    have hexec' : exec (.attempt call (.deleteApiKey token.apiKeyId)) s₂ choice' = some ((), s₃) :=
      hexec'
    have hsteps' := steps_of_exec hexec'
    have hop' : (Op.attempt call (.deleteApiKey token.apiKeyId)).Ungranting :=
      Op.Plain.ungranting trivial
    have hrotating₃ := Rotating.step_ungranting hinv₂ hop' hsteps'
    have hnone := of_discardKey (hallowed _ _ rfl) hexec'
    refine ⟨_, hrotating₃.dropKey hnone, ?_⟩
    have hall := (hlater.trans hs₂).trans hsteps'.later
    have hrotated : World.Rotated s₃ call args id token :=
      ⟨hall.tokens.issued _ _ hissued, hhash, (hs₂.trans hsteps'.later).mem_log List.mem_cons_self,
        hrotating₃.shared.key_issued id token (hall.tokens.issued _ _ hissued), hnone⟩
    exact generateTokenPair_rotates fun w o r hw result _ => ⟨id, token, hrotated.later hw⟩
  · refine ⟨none, hrotating, fun e _ => refreshes_error _ _, fun (deleted : Bool) hd => ?_⟩
    cases deleted with
    | true => exact absurd hd hr
    | false => exact refreshes_error _ _

theorem refreshToken_rotates {args : RefreshArgs} :
    rotating.Plays (World.Refreshes call args) (refreshToken call args) seen none :=
  refreshToken_plays rotating_keeps_plain (fun w e _ => refreshes_error w e)
    fun _ _ _ _ hissued hhash => rotateToken_rotates hissued hhash

theorem handle_rotates {request : Request} (at_ : OffsetDateTime) :
    rotating.Plays (fun w _ reply => refreshContract.Holds call request at_ reply w)
      (handle call request) seen none := by
  by_cases hexchange : ∃ args, request = .exchangeCode args
  · obtain ⟨args, rfl⟩ := hexchange
    refine plays_replyOk (exchangeCode_rotates.mono fun w _ r _ _ => ⟨?_, ?_⟩)
    · rintro e - args' result hrequest
      cases hrequest
    · rintro result - args' result' hrequest
      cases hrequest
  · by_cases hrefresh : ∃ args, request = .refreshToken args
    · obtain ⟨args, rfl⟩ := hrefresh
      refine plays_replyOk (refreshToken_rotates.mono fun w _ r _ hr => ⟨?_, ?_⟩)
      · rintro e - args' result hrequest hreply
        cases hreply
      · rintro result hresult args' result' hrequest hreply
        cases hrequest
        exact hr result hresult
    · refine rotating_keeps.uses (handle_ungranting (fun args h => hexchange ⟨args, h⟩)
        fun args h => hrefresh ⟨args, h⟩) fun _ reply _ args result hrequest => ?_
      exact absurd ⟨args, hrequest⟩ hrefresh

/-- Every request hands its grant over as it got it. -/
theorem rotating_sound : rotating.Sound anyEnd where
  spawn s roles request hinv _ := by
    refine ⟨none, hinv.join trivial fun u _ => trivial, plays_serve
      fun s₁ others choice hs hinv₁ _ hnow => ?_⟩
    refine ⟨none, Rotating.begin hinv₁ hnow, ?_⟩
    refine (handle_rotates choice.now).mono fun seen' o reply hlater hholds => ?_
    intro t others' choice' ht hinv' _
    refine ⟨o, Rotating.finish hinv' ((hlater.trans ht).mem_log List.mem_cons_self) ?_, trivial⟩
    exact refreshContract.later hholds ht
  outside _ _ event := event.elim

/-! ## Every run -/

/-- In every run without failures of the store: at every moment a grant has one token row and one
key at most, and a refresh token that is accepted is accepted once, after which the access token
that came with it is no key any more. -/
theorem grants_have_one_pair (apps : AppTable) (moves : List (Move Request Choice Empty))
    (hrun : Along provider.program.step reliable.Allows (idle apps) moves) :
    (∀ id id' token token', (after apps moves).tokens.rows.lookup id = some token →
      (after apps moves).tokens.rows.lookup id' = some token' →
      token.grant.code = token'.grant.code → id = id') ∧
    (∀ id id' key key', (after apps moves).apiKeys.rows.lookup id = some key →
      (after apps moves).apiKeys.rows.lookup id' = some key' →
      key.grant.code = key'.grant.code → id = id') ∧
    (∀ call args at_ result, .began call (.refreshToken args) at_ ∈ (after apps moves).log →
      .finished call (.tokens result) ∈ (after apps moves).log →
      ∃ id token, (after apps moves).Rotated call args id token) ∧
    ∀ call call' args args' at_ at_' result result',
      .began call (.refreshToken args) at_ ∈ (after apps moves).log →
      .finished call (.tokens result) ∈ (after apps moves).log →
      .began call' (.refreshToken args') at_' ∈ (after apps moves).log →
      .finished call' (.tokens result') ∈ (after apps moves).log →
      args.refreshToken = args'.refreshToken → call = call' := by
  obtain ⟨roles, hinv⟩ := rotating_sound.invariant (Rotating.start apps) hrun
  have hlinear : Linear (after apps moves) := hinv.shared
  have haccepted : ∀ call args at_ result,
      .began call (.refreshToken args) at_ ∈ (after apps moves).log →
      .finished call (.tokens result) ∈ (after apps moves).log →
      ∃ id token, (after apps moves).Rotated call args id token :=
    fun call args at_ result hbegan hfinished =>
      hlinear.answered.holds call _ at_ _ hbegan hfinished args result rfl rfl
  refine ⟨hlinear.one_token, hlinear.one_key, haccepted, ?_⟩
  intro call call' args args' at_ at_' result result' hbegan hfinished hbegan' hfinished' hargs
  obtain ⟨id, token, hrotated⟩ := haccepted call args at_ result hbegan hfinished
  obtain ⟨id', token', hrotated'⟩ := haccepted call' args' at_' result' hbegan' hfinished'
  have hhash : token.refreshHash = token'.refreshHash := by
    rw [hrotated.refreshHash, hrotated'.refreshHash, hargs]
  have hsame := hlinear.recorded.tokens_unique id id' token token' hrotated.issued
    hrotated'.issued hhash
  subst hsame
  have heq := hlinear.recorded.spent_once hrotated.deleted hrotated'.deleted rfl rfl
  cases heq
  rfl

end

end

/-! ## A refresh -/

/-- The app refreshes the pair that it got for the code. -/
def refreshingRun : List (Move Request Choice Empty) :=
  exchangingRun ++ .spawn (.refreshToken ⟨drawnText 4, uuidOf 1, drawnText 2, ""⟩) ::
    List.replicate 14 (.run 3 (choiceOf 5))

def answersStore (_ : Op) (_ : World) (choice : Choice) : Bool := !choice.fails

theorem reliable_of_answersStore {op : Op} {w : World} {choice : Choice}
    (h : answersStore op w choice = true) : reliable.call op w choice := by
  intro call q _
  simpa [answersStore] using h

theorem refreshingRun_rotated :
    Along (@provider utf8Digest anyUrl).program.step reliable.Allows (idle (oneApp true))
        (grantingRun ++ refreshingRun) ∧
      (exchangingWorld refreshingRun).log.any (fun e => e.paid? = some 3) = true ∧
      ∀ id id' key key', (exchangingWorld refreshingRun).apiKeys.rows.lookup id = some key →
        (exchangingWorld refreshingRun).apiKeys.rows.lookup id' = some key' →
        key.grant.code = key'.grant.code → id = id' := by
  have hchecks : Regime.checks (@provider utf8Digest anyUrl) answersStore (idle (oneApp true))
      (grantingRun ++ refreshingRun) = true := by decide +kernel
  have hrun : Along (@provider utf8Digest anyUrl).program.step reliable.Allows (idle (oneApp true))
      (grantingRun ++ refreshingRun) :=
    Regime.along_of_checks (fun _ _ => trivial) (fun _ _ => trivial)
      (fun _ _ _ => reliable_of_answersStore) hchecks
  refine ⟨hrun, by decide +kernel, ?_⟩
  unfold exchangingWorld
  exact (@grants_have_one_pair utf8Digest anyUrl (oneApp true) (grantingRun ++ refreshingRun)
    hrun).2.1

end Coderd.OAuth2
