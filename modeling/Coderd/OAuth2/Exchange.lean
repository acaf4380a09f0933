import Coderd.OAuth2.Footprint

namespace Coderd.OAuth2

open Coderd.Foundation Coderd.Auth
open Coderd.CryptoKeys (OffsetDateTime)

/-! ## What a successful exchange shows -/

section

variable [Sha256]

/-- The call has presented what the code asks for, and has deleted the code's row. -/
structure World.Consumed (w : World) (call : Nat) (args : ExchangeArgs) (at_ : OffsetDateTime)
    (id : Uuid) (code : IssuedCode) : Prop where
  issued : w.codes.issued.lookup id = some code
  rawCode : Sha256.digest args.rawCode = code.hashedSecret
  unexpired : at_ ≤ code.expiresAt
  client : code.appId = args.clientId
  verifier : code.codeChallenge.isEmpty = true ∨ code.codeChallengeMethod = "S256" ∧
    Base64.encodeUrlSafe (Sha256.digest args.codeVerifier) = code.codeChallenge
  resource : code.resourceUri = args.resource
  deleted : .codeDeleted call id ∈ w.log

/-- The secret that the call has presented is a row of the app. -/
def World.Registered (w : World) (args : ExchangeArgs) (appId secretId : Uuid) : Prop :=
  ∃ secret, w.secrets.issued.lookup secretId = some secret ∧ secret.appId = appId ∧
    secret.hashedSecret = Sha256.digest args.clientSecret

/-- What the call got: an access token that is a key of the code's user, and a token row whose
foreign key has found the presented secret of the client. -/
structure World.Exchanged (w : World) (call : Nat) (args : ExchangeArgs) (at_ : OffsetDateTime)
    (result : OAuth2TokenResult) (id : Uuid) (code : IssuedCode) : Prop where
  consumed : w.Consumed call args at_ id code
  pair : ∃ tokenId token key, w.tokens.issued.lookup tokenId = some token ∧
    token.refreshHash = Sha256.digest result.refreshToken ∧
    token.secret.appId = args.clientId ∧
    token.secret.hashedSecret = Sha256.digest args.clientSecret ∧
    w.apiKeys.issued.lookup token.apiKeyId = some key ∧ key.userId = code.userId ∧
    key.hashedSecret = Sha256.digest result.accessToken

/-- The call has been answered with tokens for the code. -/
def World.Redeems (w : World) (call : Nat) (id : Uuid) : Prop :=
  ∃ args at_ result code, .began call (.exchangeCode args) at_ ∈ w.log ∧
    .finished call (.tokens result) ∈ w.log ∧ w.codes.issued.lookup id = some code ∧
    code.hashedSecret = Sha256.digest args.rawCode

/-! ## What a refused one shows -/

/-- The refusals for the hash, the client, the verifier and the secret. -/
def consumingRefusals : List OAuth2ProviderError := [
  .unauthorized "Invalid authorization code.",
  .unauthorized "Authorization code does not belong to this client.",
  .badRequest "Code verifier is required for PKCE.",
  .unauthorized "PKCE code verifier is invalid.",
  .unauthorized "Invalid client credentials."]

/-- The call has found the code, which is the one presented unless the hash was refused, and has
asked the store to delete it. -/
structure World.Refused (w : World) (call : Nat) (args : ExchangeArgs) (e : OAuth2ProviderError)
    (id : Uuid) (code : IssuedCode) : Prop where
  issued : w.codes.issued.lookup id = some code
  found : .codeFound call id ∈ w.log
  secretPrefix : code.secretPrefix = prefixBytes args.rawCode
  rawCode : e = .unauthorized "Invalid authorization code." ∨
    code.hashedSecret = Sha256.digest args.rawCode
  discarded : .failed call (.deleteCode id) ∈ w.log ∨ w.codes.rows.lookup id = none

variable {w w' : World} {call : Nat} {args : ExchangeArgs} {at_ : OffsetDateTime}
  {result : OAuth2TokenResult} {e : OAuth2ProviderError} {id appId secretId : Uuid}
  {code : IssuedCode}

theorem World.Consumed.later (h : w.Consumed call args at_ id code) (hlater : w.Later w') :
    w'.Consumed call args at_ id code :=
  { h with
    issued := hlater.codes.issued _ _ h.issued
    deleted := hlater.mem_log h.deleted }

theorem World.Registered.later (h : w.Registered args appId secretId) (hlater : w.Later w') :
    w'.Registered args appId secretId := by
  obtain ⟨secret, hissued, happ, hhash⟩ := h
  exact ⟨secret, hlater.secrets.issued _ _ hissued, happ, hhash⟩

theorem World.Exchanged.later (h : w.Exchanged call args at_ result id code)
    (hlater : w.Later w') : w'.Exchanged call args at_ result id code := by
  obtain ⟨tokenId, token, key, htoken, hrefresh, happ, hsecret, hkey, huser, haccess⟩ := h.pair
  refine ⟨h.consumed.later hlater, tokenId, token, key, ?_, hrefresh, happ, hsecret, ?_, huser,
    haccess⟩
  · exact hlater.tokens.issued _ _ htoken
  · exact hlater.apiKeys.issued _ _ hkey

theorem World.Refused.later (h : w.Refused call args e id code) (hlater : w.Later w') :
    w'.Refused call args e id code :=
  { h with
    issued := hlater.codes.issued _ _ h.issued
    found := hlater.mem_log h.found
    discarded := h.discarded.imp hlater.mem_log fun hnone =>
      hlater.codes.gone _ _ h.issued hnone }

/-! ## The invariant -/

/-- What an answer of `exchange_code` shows. -/
def exchangeContract : Contract where
  Holds call request at_ reply w := ∀ args, request = .exchangeCode args →
    (∀ result, reply = .tokens result → ∃ id code, w.Exchanged call args at_ result id code) ∧
      ∀ e, reply = .failed e → e ∈ consumingRefusals → ∃ id code, w.Refused call args e id code
  later h hlater args hrequest := by
    refine ⟨fun result hreply => ?_, fun e hreply he => ?_⟩
    · obtain ⟨id, code, hexchanged⟩ := (h args hrequest).1 result hreply
      exact ⟨id, code, hexchanged.later hlater⟩
    · obtain ⟨id, code, hrefused⟩ := (h args hrequest).2 e hreply he
      exact ⟨id, code, hrefused.later hlater⟩

/-- What the log says about the answers is what the tables show. -/
structure Redeemed (w : World) : Prop where
  recorded : Recorded w
  pkce : ∀ id code, w.codes.issued.lookup id = some code →
    code.codeChallenge.isEmpty = true ∨ code.codeChallengeMethod = "S256"
  answered : exchangeContract.Kept w

namespace Redeemed

theorem start (apps : AppTable) : Redeemed (World.start apps) where
  recorded := .start apps
  pkce id code h := by simp [World.start] at h
  answered := .start apps

theorem step_inner {choice : Choice} {op : Op} (h : Redeemed w) (hop : op.Inner)
    (hsteps : Steps choice w op w') : Redeemed w' := by
  refine ⟨h.recorded.step hsteps, ?_, h.answered.inner hsteps.later (hop.logsInner hsteps)⟩
  cases hsteps with
  | change hquery _ hchange =>
    cases hchange with
    | @createCode code app id codes _ _ hinsert =>
      intro id' code' hcode
      obtain ⟨rfl, rfl⟩ | hcode := hinsert.issued_cases hcode
      · cases op with
        | store call q =>
          cases hquery
          exact hop.elim id False.elim
        | attempt call q =>
          cases hquery
          exact hop.elim False.elim False.elim
        | _ => cases hquery
      · exact h.pkce id' code' hcode
    | _ => exact h.pkce
  | _ => exact h.pkce

theorem step_begin {choice : Choice} {request : Request} (h : Redeemed w)
    (hnow : w.clock ≤ choice.now) : Redeemed (w.begun request choice.now) := by
  have hsteps : Steps choice w (.begin request) _ := .begin request hnow
  exact ⟨h.recorded.step hsteps, h.pkce, h.answered.begin hsteps.later⟩

theorem step_finish {request : Request} {reply : Reply} (h : Redeemed w)
    (hbegan : .began call request at_ ∈ w.log)
    (hholds : exchangeContract.Holds call request at_ reply w) :
    Redeemed (w.note (.finished call reply)) := by
  have hsteps : Steps (choiceOf 0) w (.finish call reply) _ := .finish call reply
  exact ⟨h.recorded.step hsteps, h.pkce, h.answered.finish h.recorded hbegan hholds⟩

end Redeemed

/-! ## The checks -/

omit [Sha256] in
theorem validateAuthorizationCodeResource_ok {stored requested : String}
    (h : validateAuthorizationCodeResource stored requested = .ok ()) : stored = requested := by
  unfold validateAuthorizationCodeResource at h
  split at h
  · rename_i hstored hrequested
    rw [String.isEmpty_iff.mp hstored, String.isEmpty_iff.mp hrequested]
  · cases h
  · cases h
  · split at h
    · assumption
    · cases h

omit [Sha256] in
theorem validateAuthorizationCodeResource_error {stored requested : String}
    (h : validateAuthorizationCodeResource stored requested = .error e) :
    e ∉ consumingRefusals := by
  unfold validateAuthorizationCodeResource at h
  split at h
  · cases h
  · cases h
    decide
  · cases h
    decide
  · split at h
    · cases h
    · cases h
      decide

theorem verifyPkce_s256 {codeVerifier codeChallenge codeChallengeMethod : String}
    (h : verifyPkce codeVerifier codeChallenge codeChallengeMethod = true)
    (hmethod : codeChallengeMethod = "S256") :
    Base64.encodeUrlSafe (Sha256.digest codeVerifier) = codeChallenge := by
  subst hmethod
  simpa [verifyPkce] using h

/-- A row without a refusal. -/
theorem refusal_eq_none (h : code.refusal args = none)
    (hpkce : code.codeChallenge.isEmpty = true ∨ code.codeChallengeMethod = "S256") :
    Sha256.digest args.rawCode = code.hashedSecret ∧ code.appId = args.clientId ∧
      (code.codeChallenge.isEmpty = true ∨ code.codeChallengeMethod = "S256" ∧
        Base64.encodeUrlSafe (Sha256.digest args.codeVerifier) = code.codeChallenge) := by
  unfold IssuedCode.refusal at h
  split at h
  · cases h
  · rename_i hhash
    split at h
    · cases h
    · rename_i happ
      refine ⟨not_not.mp hhash, not_not.mp happ, ?_⟩
      split at h
      · rename_i hempty
        exact .inl hempty
      · rename_i hchallenge
        split at h
        · cases h
        · split at h
          · rename_i hverify
            have hmethod := hpkce.resolve_left hchallenge
            exact .inr ⟨hmethod, verifyPkce_s256 hverify hmethod⟩
          · cases h

/-- A refusal of the row is for its hash, or the row is the one presented. -/
theorem refusal_eq_some (h : code.refusal args = some e) :
    e = .unauthorized "Invalid authorization code." ∨
      code.hashedSecret = Sha256.digest args.rawCode := by
  unfold IssuedCode.refusal at h
  split at h
  · cases h
    exact .inl rfl
  · rename_i hhash
    exact .inr (not_not.mp hhash).symm

/-! ## The calls -/

section

variable [UrlSyntax]

def redeeming : Method growth (Regime.any : Regime Op World Choice Request Empty) Unit :=
  .ofState growth .any Redeemed

variable {seen : World}

theorem redeeming_keeps : redeeming.Keeps Op.Inner where
  keeps hop hinv _ hexec := Redeemed.step_inner hinv hop (steps_of_exec hexec)

/-- What an answer of `exchange_code` leaves to be seen. -/
def World.Answers (call : Nat) (args : ExchangeArgs) (at_ : OffsetDateTime) (w : World)
    (_ : Unit) : Outcome OAuth2TokenResult → Prop
  | .ok result => ∃ id code, w.Exchanged call args at_ result id code
  | .error e => e ∈ consumingRefusals → ∃ id code, w.Refused call args e id code

omit [UrlSyntax] in
theorem answers_storage (w : World) (error : StorageError) (_ : seen.Later w) :
    w.Answers call args at_ () (.error (.storage error)) := by
  intro he
  simp [consumingRefusals] at he

omit [UrlSyntax] in
/-- An answer that is not one of the refusals. -/
theorem answers_other (w : World) (he : e ∉ consumingRefusals) :
    w.Answers call args at_ () (.error e) :=
  fun hmem => absurd hmem he

theorem storeTokenPair_exchanges {apiKeyId keySecret refreshToken : String} {key : ApiKeyRow}
    {token : TokenRow} {grant : Grant} (hconsumed : seen.Consumed call args at_ id code)
    (hregistered : seen.Registered args code.appId token.appSecretId)
    (huser : key.userId = code.userId) (hkey : key.hashedSecret = Sha256.digest keySecret)
    (hkeyId : token.apiKeyId = apiKeyId)
    (hrefresh : token.refreshHash = Sha256.digest refreshToken) :
    redeeming.Plays (World.Answers call args at_)
      (storeTokenPair call apiKeyId keySecret refreshToken key token grant) seen () := by
  subst hkeyId
  refine keeps_awaitStore redeeming_keeps (.inr trivial) answers_storage
    fun s choice (created : Bool) s₁ hs hexec => ?_
  cases created with
  | false => exact answers_other s₁ (by decide)
  | true =>
    have hlater := hs.trans (steps_of_store hexec).later
    obtain ⟨apiKeys, hinsert, rfl⟩ := of_createApiKey hexec
    refine keeps_call redeeming_keeps (.inr trivial)
      fun s₂ choice' (r : Except StorageError Unit) s₃ hs₂ hexec' => ?_
    cases r with
    | error error =>
      exact keeps_call redeeming_keeps (.inl trivial) fun _ _ _ s₄ _ _ =>
        answers_storage s₄ error (.refl s₄)
    | ok _ =>
      have hlater' := (steps_of_exec hexec').later
      obtain ⟨tokenId, secret, tokens, hrow, hinsert', rfl⟩ := of_createToken hexec'
      have hall := (hlater.trans hs₂).trans hlater'
      -- the row that the foreign key has found is the one that was listed
      obtain ⟨secret', hissued, happ, hhash⟩ := (hregistered.later hlater).later hs₂
      rw [s₂.secrets.rows_issued _ _ hrow] at hissued
      cases hissued
      have hissuedKey : s₂.apiKeys.issued.lookup token.apiKeyId =
          some { key with grant := grant } :=
        hs₂.apiKeys.issued _ _ hinsert.issued_self
      refine ⟨id, code, hconsumed.later hall, tokenId, _, _, hinsert'.issued_self, hrefresh, ?_,
        hhash, hissuedKey, huser, hkey⟩
      exact happ.trans hconsumed.client

theorem generateTokenPair_exchanges {audience : String} {grant : Grant}
    (hconsumed : seen.Consumed call args at_ id code)
    (hregistered : seen.Registered args code.appId secretId) :
    redeeming.Plays (World.Answers call args at_)
      (generateTokenPair call secretId code.userId audience grant) seen () := by
  refine keeps_call redeeming_keeps (.inl trivial) fun s _
    (refreshBytes : Vector UInt8 32) s₁ hs hexec => ?_
  refine keeps_call redeeming_keeps (.inl trivial) fun s' _
    (now : OffsetDateTime) s₂ hs' hexec' => ?_
  have hlater := ((hs.trans (steps_of_exec hexec).later).trans hs').trans
    (steps_of_exec hexec').later
  dsimp only
  split
  · exact answers_other s₂ (by decide)
  · split
    · exact answers_other s₂ (by decide)
    · refine keeps_call redeeming_keeps (.inl trivial) fun t _
        (keyBytes : Vector UInt8 32) t₁ ht hexec => ?_
      refine keeps_call redeeming_keeps (.inl trivial) fun t' _ (uuid : Uuid) t₂ ht' hexec' => ?_
      have hall := (((hlater.trans ht).trans (steps_of_exec hexec).later).trans ht').trans
        (steps_of_exec hexec').later
      exact storeTokenPair_exchanges (hconsumed.later hall) (hregistered.later hall) rfl rfl rfl rfl

/-- The calls that a refusal ends in. -/
theorem discardCode_refuses (hissued : seen.codes.issued.lookup id = some code)
    (hfound : .codeFound call id ∈ seen.log)
    (hbytes : code.secretPrefix = prefixBytes args.rawCode)
    (hraw : e = .unauthorized "Invalid authorization code." ∨
      code.hashedSecret = Sha256.digest args.rawCode) :
    redeeming.Plays (World.Answers call args at_) (discardCode call id e) seen () := by
  refine keeps_call redeeming_keeps (.inl trivial) fun s choice _ s' hs hexec he => ?_
  have hlater := hs.trans (steps_of_exec hexec).later
  exact ⟨id, code, hlater.codes.issued _ _ hissued, hlater.mem_log hfound, hbytes, hraw,
    of_discardCode hexec⟩

theorem redeemCode_exchanges (hissued : seen.codes.issued.lookup id = some code)
    (hraw : Sha256.digest args.rawCode = code.hashedSecret) (hunexpired : at_ ≤ code.expiresAt)
    (hclient : code.appId = args.clientId)
    (hverifier : code.codeChallenge.isEmpty = true ∨ code.codeChallengeMethod = "S256" ∧
      Base64.encodeUrlSafe (Sha256.digest args.codeVerifier) = code.codeChallenge)
    (hregistered : seen.Registered args code.appId secretId) :
    redeeming.Plays (World.Answers call args at_) (redeemCode call args id code secretId) seen
      () := by
  unfold redeemCode
  split
  · rename_i hvalid
    exact answers_other seen (validateAuthorizationCodeResource_error hvalid)
  · rename_i hvalid
    refine keeps_awaitStore redeeming_keeps (.inr trivial) answers_storage
      fun s choice (deleted : Bool) s' hs hexec => ?_
    have hlater := hs.trans (steps_of_store hexec).later
    cases deleted with
    | false => exact answers_other s' (by decide)
    | true =>
      obtain ⟨_, rfl⟩ := of_deleteCode hexec
      have hconsumed : World.Consumed _ call args at_ id code :=
        ⟨hlater.codes.issued _ _ hissued, hraw, hunexpired, hclient, hverifier,
          validateAuthorizationCodeResource_ok hvalid, List.mem_cons_self⟩
      exact generateTokenPair_exchanges hconsumed (hregistered.later hlater)

theorem exchangeFound_exchanges (hissued : seen.codes.issued.lookup id = some code)
    (hfound : .codeFound call id ∈ seen.log)
    (hbytes : code.secretPrefix = prefixBytes args.rawCode)
    (hpkce : code.codeChallenge.isEmpty = true ∨ code.codeChallengeMethod = "S256")
    (hclock : at_ ≤ seen.clock) :
    redeeming.Plays (World.Answers call args at_) (exchangeFound call args id code) seen () := by
  refine keeps_call redeeming_keeps (.inl trivial) fun s choice
    (now : OffsetDateTime) s₁ hs hexec => ?_
  have hnow : at_ ≤ now := by
    simp only [exec] at hexec
    split at hexec
    · cases hexec
    · rename_i hlt
      cases hexec
      exact (hclock.trans hs.clock).trans (not_lt.mp hlt)
  have hlater := hs.trans (steps_of_exec hexec).later
  split
  · exact keeps_call redeeming_keeps (.inl trivial) fun _ _ _ s₂ _ _ => answers_other s₂ (by decide)
  · rename_i hexpired
    split
    · rename_i error hrefusal
      exact discardCode_refuses (hlater.codes.issued _ _ hissued) (hlater.mem_log hfound) hbytes
        (refusal_eq_some hrefusal)
    · rename_i hrefusal
      obtain ⟨hraw, hclient, hverifier⟩ := refusal_eq_none hrefusal hpkce
      refine keeps_awaitStore redeeming_keeps (.inl trivial) answers_storage
        fun s' choice' (secrets : List (Uuid × SecretRow)) s₂ hs' hexec' => ?_
      have hall := (hlater.trans hs').trans (steps_of_store hexec').later
      have hissued' := hall.codes.issued _ _ hissued
      split
      · exact discardCode_refuses hissued' (hall.mem_log hfound) hbytes (.inr hraw.symm)
      · rename_i secretId secret hmatched
        obtain ⟨hmem, hhash⟩ := matchedSecret_spec hmatched
        obtain ⟨hrow, happ⟩ := of_listSecrets hexec' hmem
        exact redeemCode_exchanges hissued' hraw (hnow.trans (not_lt.mp hexpired)) hclient hverifier
          ⟨secret, s₂.secrets.rows_issued _ _ hrow, happ, hhash⟩

theorem exchangeCode_exchanges (hclock : at_ ≤ seen.clock) :
    redeeming.Plays (World.Answers call args at_) (exchangeCode call args) seen () := by
  unfold exchangeCode
  split
  · exact answers_other seen (by decide)
  · refine plays_awaitStore fun s others choice r s' hs hinv _ hexec => ?_
    have hsteps := steps_of_store hexec
    have hop : (Op.store call (.findCodeByPrefix (prefixBytes args.rawCode))).Inner := .inl trivial
    refine ⟨(), hinv.step_inner hop hsteps, fun error _ => answers_storage s' error (.refl s'),
      fun (found : Option (Uuid × IssuedCode)) hr => ?_⟩
    cases found with
    | none => exact answers_other s' (by decide)
    | some row =>
      obtain ⟨id, code⟩ := row
      rw [hr] at hexec
      obtain ⟨hrow, hbytes, rfl⟩ := of_findCode hexec
      have hissued := s.codes.rows_issued _ _ hrow
      exact exchangeFound_exchanges hissued List.mem_cons_self hbytes (hinv.pkce id code hissued)
        (hclock.trans (hs.trans hsteps.later).clock)

theorem handle_exchanges {request : Request} (hclock : at_ ≤ seen.clock) :
    redeeming.Plays (fun w _ reply => exchangeContract.Holds call request at_ reply w)
      (handle call request) seen () := by
  cases request with
  | exchangeCode args =>
    refine plays_replyOk ((exchangeCode_exchanges hclock).mono fun w _ r _ hr => ⟨?_, ?_⟩)
    · rintro e rfl args' hrequest
      cases hrequest
      refine ⟨fun result hreply => ?_, fun e' hreply he => ?_⟩
      · cases hreply
      · cases hreply
        exact hr he
    · rintro result rfl args' hrequest
      cases hrequest
      refine ⟨fun result' hreply => ?_, fun e hreply => ?_⟩
      · cases hreply
        exact hr
      · cases hreply
  | _ =>
    refine redeeming_keeps.uses (handle_inner _) fun _ reply _ args hrequest => ?_
    cases hrequest

/-- Every request keeps what the log says in line with the tables. -/
theorem redeeming_sound : redeeming.Sound anyEnd where
  spawn s roles request hinv _ := by
    refine ⟨(), hinv, plays_serve fun s₁ others choice hs hinv₁ _ hnow => ?_⟩
    refine ⟨(), hinv₁.step_begin hnow, ?_⟩
    refine (handle_exchanges (le_refl _)).mono fun seen' o reply hlater hholds => ?_
    intro t others' choice' ht hinv' _
    refine ⟨(), ?_, trivial⟩
    exact hinv'.step_finish ((hlater.trans ht).mem_log List.mem_cons_self)
      (exchangeContract.later hholds ht)
  outside _ _ event := event.elim

/-! ## Every run -/

theorem after_redeemed (apps : AppTable) (moves : List (Move Request Choice Empty)) :
    Redeemed (after apps moves) := by
  obtain ⟨_, hinv⟩ := redeeming_sound.invariant (Redeemed.start apps)
    (Regime.any_along provider (idle apps) moves)
  exact hinv

/-- What is gone is not taken any more. -/
def spending : Growth provider where
  Later w w' := w.Later w' ∧
    ∀ e x, e ∈ w'.log → e.spent = some x → w.Gone x → e ∈ w.log
  refl w := ⟨.refl w, fun _ _ he _ _ => he⟩
  trans h h' := ⟨h.1.trans h'.1, fun e x he hx hgone =>
    h.2 e x (h'.2 e x he hx (hgone.later h.1)) hx hgone⟩
  exec h := ⟨(steps_of_exec h).later, fun _ _ he hx hgone =>
    (steps_of_exec h).spent_before he hx hgone⟩
  outside w _ := ⟨.refl w, fun _ _ he _ _ => he⟩

theorem after_spends (apps : AppTable) (moves moves' : List (Move Request Choice Empty)) :
    spending.Later (after apps moves) (after apps (moves ++ moves')) := by
  unfold after
  rw [Program.run_append]
  exact spending.run _ moves'

omit [UrlSyntax] in
/-- The call that gets tokens for a code is the one that has deleted it. -/
theorem Redeemed.deleted (h : Redeemed w) (hredeems : w.Redeems call id) :
    .codeDeleted call id ∈ w.log := by
  obtain ⟨args, at_, result, code, hbegan, hfinished, hcode, hhash⟩ := hredeems
  obtain ⟨id', code', hexchanged⟩ :=
    (h.answered.holds call _ at_ _ hbegan hfinished args rfl).1 result rfl
  have hconsumed := hexchanged.consumed
  have hsame : id = id' := h.recorded.codes_unique id id' code code' hcode hconsumed.issued
    (hhash.trans hconsumed.rawCode)
  exact hsame ▸ hconsumed.deleted

omit [UrlSyntax] in
theorem Redeemed.redeemed_once (h : Redeemed w) {call' : Nat} (hredeems : w.Redeems call id)
    (hredeems' : w.Redeems call' id) : call = call' := by
  have heq := h.recorded.spent_once (h.deleted hredeems) (h.deleted hredeems') rfl rfl
  cases heq
  rfl

/-- In every run: a code buys one pair of tokens at most, for who presents what it asks for; and
once a call is refused it and the store has deleted it, it buys nothing but what a call that had
deleted it before that gets. -/
theorem codes_exchanged_once (hinj : Function.Injective Sha256.digest) (apps : AppTable)
    (moves moves' : List (Move Request Choice Empty)) :
    (∀ call call' id, (after apps moves).Redeems call id → (after apps moves).Redeems call' id →
      call = call') ∧
    (∀ call args at_ result, .began call (.exchangeCode args) at_ ∈ (after apps moves).log →
      .finished call (.tokens result) ∈ (after apps moves).log →
      ∃ id code, (after apps moves).Exchanged call args at_ result id code ∧
        ∀ rawCode, Sha256.digest rawCode = code.hashedSecret → args.rawCode = rawCode) ∧
    (∀ call args at_ e, .began call (.exchangeCode args) at_ ∈ (after apps moves).log →
      .finished call (.failed e) ∈ (after apps moves).log → e ∈ consumingRefusals →
      ∃ id code, (after apps moves).Refused call args e id code ∧
        (.failed call (.deleteCode id) ∉ (after apps moves).log →
          ∀ call', (after apps (moves ++ moves')).Redeems call' id →
            .codeDeleted call' id ∈ (after apps moves).log)) := by
  have hinv := after_redeemed apps moves
  refine ⟨fun call call' id h h' => hinv.redeemed_once h h', ?_, ?_⟩
  · intro call args at_ result hbegan hfinished
    obtain ⟨id, code, hexchanged⟩ :=
      (hinv.answered.holds call _ at_ _ hbegan hfinished args rfl).1 result rfl
    refine ⟨id, code, hexchanged, fun rawCode hraw => hinj ?_⟩
    exact hexchanged.consumed.rawCode.trans hraw.symm
  · intro call args at_ e hbegan hfinished he
    obtain ⟨id, code, hrefused⟩ :=
      (hinv.answered.holds call _ at_ _ hbegan hfinished args rfl).2 e rfl he
    refine ⟨id, code, hrefused, fun hanswered call' hredeems => ?_⟩
    have hgone : (after apps moves).Gone (.code id) :=
      ⟨⟨code, hrefused.issued⟩, hrefused.discarded.resolve_left hanswered⟩
    have hdeleted := (after_redeemed apps (moves ++ moves')).deleted hredeems
    exact (after_spends apps moves moves').2 _ _ hdeleted rfl hgone

end

end

/-! ## Runs on fixed inputs -/

/-- A run over one app, with an injective digest. -/
def exchangingWorld (moves : List (Move Request Choice Empty)) : World :=
  @after utf8Digest anyUrl (oneApp true) (grantingRun ++ moves)

theorem utf8Digest_injective : Function.Injective utf8Digest.digest := by
  intro text text' h
  apply String.toByteArray_inj.mp
  ext1
  exact Array.toList_inj.mp h

/-- The call of the number exchanges the text, from the given moment on. -/
def Event.exchanges (call : Nat) (rawCode : String) (now : OffsetDateTime) : Event → Bool
  | began call' (.exchangeCode args) at_ => call' = call ∧ args.rawCode = rawCode ∧ at_ = now
  | _ => false

/-- The call that gets tokens. -/
def Event.paid? : Event → Option Nat
  | finished call (.tokens _) => some call
  | _ => none

/-- The call that gets one of the refusals. -/
def Event.refused? : Event → Option Nat
  | finished call (.failed e) => if e ∈ consumingRefusals then some call else none
  | _ => none

def Event.found? : Event → Option (Nat × Uuid)
  | codeFound call id => some (call, id)
  | _ => none

section

variable {log : List Event} {call : Nat}

theorem Event.exists_exchange {rawCode : String} {now : OffsetDateTime}
    (h : log.any (Event.exchanges call rawCode now) = true) :
    ∃ args, .began call (.exchangeCode args) now ∈ log ∧ args.rawCode = rawCode := by
  obtain ⟨e, he, hexchanges⟩ := List.any_eq_true.mp h
  unfold Event.exchanges at hexchanges
  split at hexchanges
  · obtain ⟨rfl, hraw, rfl⟩ := of_decide_eq_true hexchanges
    exact ⟨_, he, hraw⟩
  · cases hexchanges

theorem Event.exists_payment (h : log.any (fun e => e.paid? = some call) = true) :
    ∃ result, .finished call (.tokens result) ∈ log := by
  obtain ⟨e, he, hpaid⟩ := List.any_eq_true.mp h
  have hpaid := of_decide_eq_true hpaid
  unfold Event.paid? at hpaid
  split at hpaid
  · cases hpaid
    exact ⟨_, he⟩
  · cases hpaid

theorem Event.exists_refusal (h : log.any (fun e => e.refused? = some call) = true) :
    ∃ e, .finished call (.failed e) ∈ log ∧ e ∈ consumingRefusals := by
  obtain ⟨e, he, hrefused⟩ := List.any_eq_true.mp h
  have hrefused := of_decide_eq_true hrefused
  unfold Event.refused? at hrefused
  split at hrefused
  · split at hrefused
    · rename_i hmem
      cases hrefused
      exact ⟨_, he, hmem⟩
    · cases hrefused
  · cases hrefused

theorem Event.mem_of_found {id : Uuid} (h : log.any (fun e => e.found? = some (call, id)) = true) :
    .codeFound call id ∈ log := by
  obtain ⟨e, he, hfound⟩ := List.any_eq_true.mp h
  have hfound := of_decide_eq_true hfound
  unfold Event.found? at hfound
  split at hfound
  · cases hfound
    exact he
  · cases hfound

end

/-- What `Redeems` says of the code of `grantingRun`, as a test. -/
def redeemedBy (w : World) (call : Nat) (now : OffsetDateTime) : Bool :=
  w.log.any (Event.exchanges call (drawnText 3) now) && w.log.any (fun e => e.paid? = some call) &&
    (w.codes.issued.lookup (uuidOf 3)).any fun code =>
      code.hashedSecret = utf8Digest.digest (drawnText 3)

theorem redeems_of_redeemedBy {w : World} {call : Nat} {now : OffsetDateTime}
    (h : redeemedBy w call now = true) : @World.Redeems utf8Digest w call (uuidOf 3) := by
  unfold redeemedBy at h
  rw [Bool.and_eq_true, Bool.and_eq_true] at h
  obtain ⟨⟨hexchanges, hpays⟩, hcode⟩ := h
  obtain ⟨args, hbegan, hraw⟩ := Event.exists_exchange hexchanges
  obtain ⟨result, hfinished⟩ := Event.exists_payment hpays
  obtain ⟨code, hissued, hhash⟩ := (Option.any_eq_true _ _).mp hcode
  refine ⟨args, now, result, code, hbegan, hfinished, hissued, ?_⟩
  rw [hraw]
  exact of_decide_eq_true hhash

/-- One exchange, after which no call is in progress. -/
def exchangingRun : List (Move Request Choice Empty) :=
  .spawn (.exchangeCode (exchangeArgs (drawnText 3))) :: List.replicate 12 (.run 2 (choiceOf 4))

theorem exchangingRun_exchanged :
    Function.Injective utf8Digest.digest ∧ ∃ args at_ result id code,
      .began 2 (.exchangeCode args) at_ ∈ (exchangingWorld exchangingRun).log ∧
      .finished 2 (.tokens result) ∈ (exchangingWorld exchangingRun).log ∧
      @World.Exchanged utf8Digest (exchangingWorld exchangingRun) 2 args at_ result id code := by
  have hexchanges : (exchangingWorld exchangingRun).log.any
      (Event.exchanges 2 (drawnText 3) OffsetDateTime.unixEpoch) = true := by decide +kernel
  have hpays : (exchangingWorld exchangingRun).log.any (fun e => e.paid? = some 2) = true := by
    decide +kernel
  obtain ⟨args, hbegan, -⟩ := Event.exists_exchange hexchanges
  obtain ⟨result, hfinished⟩ := Event.exists_payment hpays
  obtain ⟨id, code, hexchanged, -⟩ :=
    (@codes_exchanged_once utf8Digest anyUrl utf8Digest_injective (oneApp true)
      (grantingRun ++ exchangingRun) []).2.1 2 args _ result hbegan hfinished
  exact ⟨utf8Digest_injective, args, _, result, id, code, hbegan, hfinished, hexchanged⟩

/-! ## Tokens after a refusal -/

/-- The moment at which the code of `grantingRun` expires. -/
def expiryMoment : OffsetDateTime :=
  (OffsetDateTime.unixEpoch.add tenMinutes).getD OffsetDateTime.unixEpoch

def lateChoice (n : Nat) : Choice := { choiceOf n with now := expiryMoment }

/-- A call with another text of the same first bytes finds the code, another with the code itself
deletes it, and the first one is refused. -/
def racingRun : List (Move Request Choice Empty) :=
  .spawn (.exchangeCode (exchangeArgs (drawnText 3))) ::
    .spawn (.exchangeCode (exchangeArgs (drawnText 3 ++ "?"))) ::
    List.replicate 3 (.run 3 (lateChoice 4)) ++ List.replicate 5 (.run 2 (lateChoice 4)) ++
    List.replicate 2 (.run 3 (lateChoice 4))

def racedRun : List (Move Request Choice Empty) :=
  racingRun ++ List.replicate 7 (.run 2 (lateChoice 4))

/-- A call with another text finds the code and is refused; the store has failed to delete it. -/
def failingRun : List (Move Request Choice Empty) :=
  .spawn (.exchangeCode (exchangeArgs (drawnText 3 ++ "?"))) ::
    List.replicate 3 (.run 2 (choiceOf 4)) ++
    [.run 2 { choiceOf 4 with fails := true }, .run 2 (choiceOf 4)]

def retriedRun : List (Move Request Choice Empty) :=
  failingRun ++ .spawn (.exchangeCode (exchangeArgs (drawnText 3))) ::
    List.replicate 12 (.run 3 (choiceOf 5))

/-- A call is refused after it has found the code, before any call has got tokens for it, and
later one does. -/
def World.RefusedThenRedeemed [Sha256] (w w' : World) (id : Uuid) : Prop :=
  (∃ call args at_ e, .began call (.exchangeCode args) at_ ∈ w.log ∧
    .finished call (.failed e) ∈ w.log ∧ e ∈ consumingRefusals ∧ .codeFound call id ∈ w.log) ∧
  (∀ call, ¬ w.Redeems call id) ∧ ∃ call, w'.Redeems call id

theorem refusedThenRedeemed_of_tests {w w' : World} (now : OffsetDateTime)
    (hexchanges : w.log.any (Event.exchanges 2 (drawnText 3 ++ "?") now) = true)
    (hrefuses : w.log.any (fun e => e.refused? = some 2) = true)
    (hfinds : w.log.any (fun e => e.found? = some (2, uuidOf 3)) = true)
    (hunpaid : w.log.all (fun e => e.paid? = none) = true)
    (hredeemed : redeemedBy w' 3 now = true) :
    @World.RefusedThenRedeemed utf8Digest w w' (uuidOf 3) := by
  obtain ⟨args, hbegan, -⟩ := Event.exists_exchange hexchanges
  obtain ⟨e, hfinished, hmem⟩ := Event.exists_refusal hrefuses
  refine ⟨⟨2, args, now, e, hbegan, hfinished, hmem, Event.mem_of_found hfinds⟩, ?_,
    3, redeems_of_redeemedBy hredeemed⟩
  rintro call ⟨args', at_, result, code, -, hpaid, -⟩
  have hnone := List.all_eq_true.mp hunpaid _ hpaid
  simp [Event.paid?] at hnone

/-- Without a failure of the store, and with one; the first exchange comes at the very moment at
which the code expires. -/
theorem refusedCode_redeemed :
    @World.RefusedThenRedeemed utf8Digest (exchangingWorld racingRun) (exchangingWorld racedRun)
        (uuidOf 3) ∧
      @World.RefusedThenRedeemed utf8Digest (exchangingWorld failingRun)
        (exchangingWorld retriedRun) (uuidOf 3) ∧
      ∃ call args at_ code, .began call (.exchangeCode args) at_ ∈ (exchangingWorld racedRun).log ∧
        @World.Redeems utf8Digest (exchangingWorld racedRun) call (uuidOf 3) ∧
        (exchangingWorld racedRun).codes.issued.lookup (uuidOf 3) = some code ∧
        ¬ at_ < code.expiresAt := by
  have hraced : redeemedBy (exchangingWorld racedRun) 3 expiryMoment = true := by decide +kernel
  have hexchanges : (exchangingWorld racedRun).log.any
      (Event.exchanges 3 (drawnText 3) expiryMoment) = true := by decide +kernel
  have hexpires : ((exchangingWorld racedRun).codes.issued.lookup (uuidOf 3)).any
      (fun code => code.expiresAt = expiryMoment) = true := by decide +kernel
  refine ⟨?_, ?_, ?_⟩
  · exact refusedThenRedeemed_of_tests expiryMoment (by decide +kernel) (by decide +kernel)
      (by decide +kernel) (by decide +kernel) hraced
  · have hretried : redeemedBy (exchangingWorld retriedRun) 3 OffsetDateTime.unixEpoch = true := by
      decide +kernel
    exact refusedThenRedeemed_of_tests OffsetDateTime.unixEpoch (by decide +kernel)
      (by decide +kernel) (by decide +kernel) (by decide +kernel) hretried
  · obtain ⟨args, hbegan, -⟩ := Event.exists_exchange hexchanges
    obtain ⟨code, hissued, hexpiry⟩ := (Option.any_eq_true _ _).mp hexpires
    refine ⟨3, args, expiryMoment, code, hbegan, redeems_of_redeemedBy hraced, hissued, ?_⟩
    rw [of_decide_eq_true hexpiry]
    exact lt_irrefl _

end Coderd.OAuth2
