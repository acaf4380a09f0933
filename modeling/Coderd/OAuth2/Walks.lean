import Coderd.OAuth2.Footprint

namespace Coderd.OAuth2

open Coderd.Foundation Coderd.Auth
open Coderd.CryptoKeys (OffsetDateTime)

/-! ## The token endpoints, up to the steps that matter

Where the plain steps keep the invariant, all that is left to show of a token endpoint is what it
does once it takes a code or a token. -/

variable [Sha256] [UrlSyntax] {regime : Regime Op World Choice Request Empty} {ω : Type}
  {m : Method growth regime ω} {seen : World} {o : ω} {call : Nat}
  {Q : World → ω → Outcome OAuth2TokenResult → Prop}

theorem generateTokenPair_plays (hkeeps : m.Keeps Op.Plain) {appSecretId userId : Uuid}
    {audience : String} {grant : Grant} (herror : ∀ w e, seen.Later w → Q w o (.error e))
    (hstore : ∀ w keySecret refreshToken key token, seen.Later w →
      token.appSecretId = appSecretId → token.userId = userId →
      m.Plays Q (storeTokenPair call token.apiKeyId keySecret refreshToken key token grant) w o) :
    m.Plays Q (generateTokenPair call appSecretId userId audience grant) seen o := by
  refine keeps_call hkeeps trivial fun s _ (refreshBytes : Vector UInt8 32) s₁ hs hexec => ?_
  refine keeps_call hkeeps trivial fun s' _ (now : OffsetDateTime) s₂ hs' hexec' => ?_
  have hlater := ((hs.trans (steps_of_exec hexec).later).trans hs').trans
    (steps_of_exec hexec').later
  dsimp only
  split
  · exact herror s₂ _ hlater
  · split
    · exact herror s₂ _ hlater
    · rename_i accessExpiresAt _ _ refreshExpiresAt _
      refine keeps_call hkeeps trivial fun t _ (keyBytes : Vector UInt8 32) t₁ ht hexec => ?_
      refine keeps_call hkeeps trivial fun t' _ (uuid : Uuid) t₂ ht' hexec' => ?_
      have hall := (((hlater.trans ht).trans (steps_of_exec hexec).later).trans ht').trans
        (steps_of_exec hexec').later
      let refreshToken := Base64.encodeUrlSafe refreshBytes.toList
      let token : TokenRow := {
        expiresAt := refreshExpiresAt
        hashPrefix := prefixBytes (newSessionToken keyBytes)
        refreshHash := Sha256.digest refreshToken
        appSecretId := appSecretId
        apiKeyId := uuid.toHyphenated
        audience := audience
        userId := userId }
      exact hstore t₂ (newSessionToken keyBytes) refreshToken _ token hall rfl rfl

/-- Up to the code that is to be redeemed, with a secret of its app. -/
theorem exchangeCode_plays (hkeeps : m.Keeps Op.Plain) {args : ExchangeArgs}
    (herror : ∀ w e, seen.Later w → Q w o (.error e))
    (hredeem : ∀ w id code secretId secret, seen.Later w →
      w.codes.issued.lookup id = some code → w.secrets.issued.lookup secretId = some secret →
      secret.appId = code.appId → m.Plays Q (redeemCode call args id code secretId) w o) :
    m.Plays Q (exchangeCode call args) seen o := by
  have hdiscard : ∀ w id e, seen.Later w → m.Plays Q (discardCode call id e) w o := by
    intro w id e hw
    refine keeps_call hkeeps trivial fun s _ _ s' hs hexec => ?_
    exact herror s' e ((hw.trans hs).trans (steps_of_exec hexec).later)
  unfold exchangeCode
  split
  · exact herror seen _ (.refl seen)
  · refine keeps_awaitStore hkeeps trivial (fun s' _ hs => herror s' _ hs)
      fun s _ (found : Option (Uuid × IssuedCode)) s₁ hs hexec => ?_
    have hlater := hs.trans (steps_of_store hexec).later
    cases found with
    | none => exact herror s₁ _ hlater
    | some row =>
      obtain ⟨id, code⟩ := row
      obtain ⟨hrow, -, rfl⟩ := of_findCode hexec
      refine keeps_call hkeeps trivial fun s₂ _ (now : OffsetDateTime) s₃ hs₂ hexec' => ?_
      have hlater' := (hlater.trans hs₂).trans (steps_of_exec hexec').later
      split
      · exact hdiscard s₃ id _ hlater'
      · split
        · exact hdiscard s₃ id _ hlater'
        · refine keeps_awaitStore hkeeps trivial
            (fun s' _ hs => herror s' _ (hlater'.trans hs))
            fun s₄ _ (secrets : List (Uuid × SecretRow)) s₅ hs₄ hexec'' => ?_
          have hfrom := hs₄.trans (steps_of_store hexec'').later
          split
          · exact hdiscard s₅ id _ (hlater'.trans hfrom)
          · rename_i secretId secret hmatched
            obtain ⟨hmem, -⟩ := matchedSecret_spec hmatched
            obtain ⟨hsecret, happ⟩ := of_listSecrets hexec'' hmem
            have hissued := ((hs₂.trans (steps_of_exec hexec').later).trans hfrom).codes.issued _ _
              (s.codes.rows_issued _ _ hrow)
            exact hredeem s₅ id code secretId secret (hlater'.trans hfrom) hissued
              (s₅.secrets.rows_issued _ _ hsecret) happ

/-- Up to the token that is to be rotated. -/
theorem refreshToken_plays (hkeeps : m.Keeps Op.Plain) {args : RefreshArgs}
    (herror : ∀ w e, seen.Later w → Q w o (.error e))
    (hrotate : ∀ w id token, seen.Later w → w.tokens.issued.lookup id = some token →
      token.refreshHash = Sha256.digest args.refreshToken →
      m.Plays Q (rotateToken call id token) w o) :
    m.Plays Q (refreshToken call args) seen o := by
  unfold refreshToken
  split
  · exact herror seen _ (.refl seen)
  · refine keeps_awaitStore hkeeps trivial (fun s' _ hs => herror s' _ hs)
      fun s _ (found : Option (Uuid × IssuedToken)) s₁ hs hexec => ?_
    have hlater := hs.trans (steps_of_store hexec).later
    cases found with
    | none => exact herror s₁ _ hlater
    | some row =>
      obtain ⟨id, token⟩ := row
      obtain ⟨hrow, hhash⟩ := of_findToken hexec
      have hissued := s₁.tokens.rows_issued _ _ hrow
      refine keeps_call hkeeps trivial fun s₂ _ (now : OffsetDateTime) s₃ hs₂ hexec' => ?_
      have hfrom := hs₂.trans (steps_of_exec hexec').later
      have hlater' := hlater.trans hfrom
      split
      · refine keeps_call hkeeps trivial fun s₄ _ _ s₅ hs₄ hexec'' => ?_
        exact herror s₅ _ ((hlater'.trans hs₄).trans (steps_of_exec hexec'').later)
      · refine keeps_awaitStore hkeeps trivial (fun s' _ hs => herror s' _ (hlater'.trans hs))
          fun s₄ _ (secret : Option SecretRow) s₅ hs₄ hexec'' => ?_
        have hfrom' := hs₄.trans (steps_of_store hexec'').later
        have hlater'' := hlater'.trans hfrom'
        cases secret with
        | none => exact herror s₅ _ hlater''
        | some secret =>
          dsimp only
          split
          · exact herror s₅ _ hlater''
          · split
            · exact herror s₅ _ hlater''
            · refine keeps_awaitStore hkeeps trivial
                (fun s' _ hs => herror s' _ (hlater''.trans hs))
                fun s₆ _ (secrets : List (Uuid × SecretRow)) s₇ hs₆ hexec₃ => ?_
              have hfrom'' := hs₆.trans (steps_of_store hexec₃).later
              split
              · exact hrotate s₇ id token (hlater''.trans hfrom'')
                  (((hfrom.trans hfrom').trans hfrom'').tokens.issued _ _ hissued) hhash
              · exact herror s₇ _ (hlater''.trans hfrom'')

end Coderd.OAuth2
