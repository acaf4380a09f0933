import Coderd.OAuth2.Effects

namespace Coderd.OAuth2

open Coderd.Foundation Coderd.Auth
open Coderd.CryptoKeys (OffsetDateTime)

/-! ## Kinds of steps -/

/-- The calls that neither say what a user agrees to nor touch what comes of it. -/
def StoreCall.Plain : StoreCall → Prop
  | insertPendingConsent _ | insertUserApproval _ _ _ | createCode _ | createApiKey _ _ _
  | createToken _ _ | deleteToken _ | deleteTokensByAppAndUser _ _ => False
  | _ => True

def Op.Plain : Op → Prop
  | begin _ | finish _ _ => False
  | store _ q => q.Plain
  | attempt _ (.deleteToken _) => True
  | attempt _ q => q.Plain
  | _ => True

/-- The steps of the authorization endpoints; a code's challenge is one of the method S256. -/
def Op.Authorizing : Op → Prop
  | store _ (.insertPendingConsent _) | store _ (.insertUserApproval _ _ _) => True
  | store _ (.createCode code) =>
    code.codeChallenge.isEmpty = true ∨ code.codeChallengeMethod = "S256"
  | op => op.Plain

/-- The steps of the token endpoints. -/
def Op.Issuing : Op → Prop
  | store _ (.createApiKey _ _ _) | store _ (.createToken _ _) | store _ (.deleteToken _)
  | store _ (.deleteTokensByAppAndUser _ _) => True
  | op => op.Plain

theorem Op.Plain.authorizing {op : Op} (h : op.Plain) : op.Authorizing := by
  cases op with
  | store call q => cases q <;> first | exact h | cases h
  | _ => exact h

theorem Op.Plain.issuing {op : Op} (h : op.Plain) : op.Issuing := by
  cases op with
  | store call q => cases q <;> first | exact h | cases h
  | _ => exact h

/-- The steps of a handler. -/
def Op.Inner (op : Op) : Prop := op.Authorizing ∨ op.Issuing

theorem Op.Inner.logsInner {choice : Choice} {w w' : World} {op : Op} (h : op.Inner)
    (hsteps : Steps choice w op w') : w.LogsInner w' := by
  refine hsteps.logsInner ?_ ?_
  · rintro request rfl
    exact h.elim id id
  · rintro call reply rfl
    exact h.elim id id

/-- The calls of the authorization endpoints that are not plain. -/
def StoreCall.Asks : StoreCall → Prop
  | insertPendingConsent _ | insertUserApproval _ _ _ | createCode _ => True
  | _ => False

theorem Op.Issuing.not_asks {op : Op} {call : Nat} {q : StoreCall} (h : op.Issuing)
    (hquery : op.query? = some (call, q)) : ¬ q.Asks := by
  cases op with
  | store call' q' =>
    cases hquery
    cases q <;> first | exact id | cases h
  | attempt call' q' =>
    cases hquery
    cases q <;> first | exact id | cases h
  | begin request => cases hquery
  | finish call' reply => cases hquery
  | nowUtc => cases hquery
  | randomBytes => cases hquery
  | newUuid => cases hquery

/-! ## Which handler makes which steps -/

variable {α β : Type} {allowed : Op → Prop} {call : Nat}

theorem awaitStore_uses {q : StoreCall} {next : q.Response → Handler (Outcome α)}
    (hq : allowed (.store call q)) (hnext : ∀ r, (next r).Uses allowed) :
    (awaitStore call q next).Uses allowed := by
  refine ⟨hq, fun r => ?_⟩
  cases r with
  | error e => trivial
  | ok r => exact hnext r

theorem replyStore_uses {q : StoreCall} {next : q.Response → Handler Reply}
    (hq : allowed (.store call q)) (hnext : ∀ r, (next r).Uses allowed) :
    (replyStore call q next).Uses allowed := by
  refine ⟨hq, fun r => ?_⟩
  cases r with
  | error e => trivial
  | ok r => exact hnext r

theorem awaitOk_uses {p : Handler (Outcome α)} {next : α → Handler (Outcome β)}
    (hp : p.Uses allowed) (hnext : ∀ a, (next a).Uses allowed) :
    (awaitOk p next).Uses allowed := by
  refine hp.bind fun r => ?_
  cases r with
  | error e => trivial
  | ok a => exact hnext a

theorem replyOk_uses {p : Handler (Outcome α)} {next : α → Handler Reply}
    (hp : p.Uses allowed) (hnext : ∀ a, (next a).Uses allowed) :
    (replyOk p next).Uses allowed := by
  refine hp.bind fun r => ?_
  cases r with
  | error e => trivial
  | ok a => exact hnext a

theorem createAppWithFirstParty_plain (name icon callbackUrl : String) (createdBy : Option Uuid)
    (firstParty : Bool) :
    (createAppWithFirstParty call name icon callbackUrl createdBy firstParty).Uses Op.Plain := by
  unfold createAppWithFirstParty
  dsimp only
  split
  · trivial
  · split
    · trivial
    · exact awaitStore_uses trivial fun _ => trivial

theorem getApp_plain (appId : Uuid) : (getApp call appId).Uses Op.Plain := by
  refine awaitStore_uses trivial fun app => ?_
  cases app <;> trivial

theorem updateApp_plain (appId : Uuid) (name icon callbackUrl : String) :
    (updateApp call appId name icon callbackUrl).Uses Op.Plain := by
  unfold updateApp
  dsimp only
  split
  · trivial
  · split
    · trivial
    · refine awaitOk_uses (getApp_plain appId) fun existing => awaitStore_uses trivial fun app => ?_
      cases app <;> trivial

theorem deleteApp_plain (appId : Uuid) : (deleteApp call appId).Uses Op.Plain := by
  refine awaitStore_uses trivial fun (found : Bool) => ?_
  cases found <;> trivial

theorem discardKeys_plain (a : α) (keys : List String) :
    (discardKeys call (.done a) keys).Uses Op.Plain := by
  induction keys with
  | nil => trivial
  | cons key keys ih => exact ⟨trivial, fun _ => ih⟩

theorem revokeTokens_issuing (appId userId : Uuid) :
    (revokeTokens call appId userId).Uses Op.Issuing :=
  awaitStore_uses trivial fun _ => awaitStore_uses trivial fun _ =>
    (discardKeys_plain _ _).mono fun _ => Op.Plain.issuing

theorem revokeOwned_plain (clientId id : Uuid) (token : IssuedToken) :
    (revokeOwned call clientId id token).Uses Op.Plain := by
  refine ⟨trivial, fun (r : Except StorageError (Option SecretRow)) => ?_⟩
  match r with
  | .error _ => trivial
  | .ok none => trivial
  | .ok (some secret) =>
    dsimp only
    split
    · exact ⟨trivial, fun _ => ⟨trivial, fun _ => trivial⟩⟩
    · trivial

theorem createAppSecret_plain [Sha256] (appId : Uuid) :
    (createAppSecret call appId).Uses Op.Plain :=
  awaitOk_uses (getApp_plain appId) fun _ =>
    ⟨trivial, fun _ => awaitStore_uses trivial fun _ => trivial⟩

theorem deleteAppSecret_plain (appId secretId : Uuid) :
    (deleteAppSecret call appId secretId).Uses Op.Plain := by
  refine awaitStore_uses trivial fun secrets => ?_
  split
  · refine awaitStore_uses trivial fun (found : Bool) => ?_
    cases found <;> trivial
  · trivial

theorem postOauth2Register_plain [Sha256] (clientName logoUri callbackUrl : String) :
    (postOauth2Register call clientName logoUri callbackUrl).Uses Op.Plain := by
  refine (createAppWithFirstParty_plain _ _ _ _ _).bind fun r => ?_
  cases r with
  | error e => trivial
  | ok row =>
    refine (createAppSecret_plain row.1).bind fun r => ?_
    cases r <;> trivial

theorem validatePkceMethod_ok {codeChallenge codeChallengeMethod : String}
    (h : validatePkceMethod codeChallenge codeChallengeMethod = .ok ()) :
    codeChallenge.isEmpty = true ∨ codeChallengeMethod = "S256" := by
  unfold validatePkceMethod at h
  split at h
  · rename_i hempty
    exact .inl hempty
  · split at h
    · rename_i hmethod
      exact .inr hmethod
    · cases h

theorem createAuthorizationCode_authorizing [Sha256] (appId userId : Uuid)
    (resourceUri codeChallenge codeChallengeMethod : String) :
    (createAuthorizationCode call appId userId resourceUri codeChallenge codeChallengeMethod).Uses
      Op.Authorizing := by
  refine awaitOk_uses ((getApp_plain appId).mono fun _ => Op.Plain.authorizing) fun _ => ?_
  split
  · trivial
  · rename_i hvalid
    refine ⟨trivial, fun bytes => ⟨trivial, fun (now : OffsetDateTime) => ?_⟩⟩
    dsimp only
    split
    · trivial
    · exact awaitStore_uses (validatePkceMethod_ok hvalid) fun _ => trivial

theorem appWithCallback_authorizing [UrlSyntax] (appId : Uuid) {next : AppRow → Handler Reply}
    (hnext : ∀ app, (next app).Uses Op.Authorizing) :
    (appWithCallback call appId next).Uses Op.Authorizing := by
  refine replyOk_uses ((getApp_plain appId).mono fun _ => Op.Plain.authorizing) fun app => ?_
  split
  · exact hnext app
  · trivial

theorem codeRedirect_authorizing [Sha256] (app : AppRow) (appId userId : Uuid)
    (resource codeChallenge codeChallengeMethod : String) (status : Nat)
    (state : List (String × String)) :
    (codeRedirect call app appId userId resource codeChallenge codeChallengeMethod status
      state).Uses Op.Authorizing :=
  replyOk_uses (createAuthorizationCode_authorizing _ _ _ _ _) fun _ => trivial

theorem consentPage_authorizing (app : AppRow) (clientId userId : Uuid)
    (params : OAuth2AuthorizeRequest) :
    (consentPage call app clientId userId params).Uses Op.Authorizing := by
  refine ⟨trivial, fun (now : OffsetDateTime) => ?_⟩
  dsimp only
  split
  · trivial
  · exact replyStore_uses trivial fun _ => trivial

theorem getOauth2Authorize_authorizing [Sha256] [UrlSyntax] (userId : Uuid)
    (params : OAuth2AuthorizeRequest) :
    (getOauth2Authorize call userId params).Uses Op.Authorizing := by
  unfold getOauth2Authorize
  split
  · trivial
  · split
    · trivial
    · refine appWithCallback_authorizing _ fun app => ?_
      dsimp only
      split
      · exact codeRedirect_authorizing _ _ _ _ _ _ _ _
      · refine replyStore_uses trivial fun (approved : Bool) => ?_
        cases approved with
        | false => exact consentPage_authorizing _ _ _ _
        | true => exact codeRedirect_authorizing _ _ _ _ _ _ _ _

theorem postOauth2AuthorizeConsent_authorizing [Sha256] [UrlSyntax] (userId : Uuid)
    (form : OAuth2ConsentForm) :
    (postOauth2AuthorizeConsent call userId form).Uses Op.Authorizing := by
  unfold postOauth2AuthorizeConsent
  split
  · trivial
  · refine replyStore_uses trivial fun (taken : Option PendingConsentRow) => ?_
    cases taken with
    | none => trivial
    | some pending =>
      show (answerConsent call userId form.decision pending).Uses Op.Authorizing
      unfold answerConsent
      split
      · trivial
      · refine appWithCallback_authorizing _ fun app => ?_
        split
        · trivial
        · exact replyStore_uses trivial fun _ => codeRedirect_authorizing _ _ _ _ _ _ _ _

theorem postOauth2Authorize_authorizing [Sha256] [UrlSyntax] (userId : Uuid)
    (params : OAuth2AuthorizeRequest) :
    (postOauth2Authorize call userId params).Uses Op.Authorizing := by
  unfold postOauth2Authorize
  split
  · trivial
  · split
    · trivial
    · exact appWithCallback_authorizing _ fun app => codeRedirect_authorizing _ _ _ _ _ _ _ _

theorem storeTokenPair_issuing (apiKeyId keySecret refreshToken : String) (key : ApiKeyRow)
    (token : TokenRow) (grant : Grant) :
    (storeTokenPair call apiKeyId keySecret refreshToken key token grant).Uses Op.Issuing := by
  refine awaitStore_uses trivial fun (created : Bool) => ?_
  cases created with
  | false => trivial
  | true =>
    refine ⟨trivial, fun (r : Except StorageError Unit) => ?_⟩
    cases r with
    | error e => exact ⟨trivial, fun _ => trivial⟩
    | ok _ => trivial

theorem generateTokenPair_issuing [Sha256] (appSecretId userId : Uuid) (audience : String)
    (grant : Grant) :
    (generateTokenPair call appSecretId userId audience grant).Uses Op.Issuing := by
  refine ⟨trivial, fun refreshBytes => ⟨trivial, fun (now : OffsetDateTime) => ?_⟩⟩
  dsimp only
  split
  · trivial
  · split
    · trivial
    · exact ⟨trivial, fun _ => ⟨trivial, fun _ => storeTokenPair_issuing _ _ _ _ _ _⟩⟩

theorem redeemCode_issuing [Sha256] (args : ExchangeArgs) (id : Uuid) (code : IssuedCode)
    (secretId : Uuid) : (redeemCode call args id code secretId).Uses Op.Issuing := by
  unfold redeemCode
  split
  · trivial
  · refine awaitStore_uses trivial fun (deleted : Bool) => ?_
    cases deleted with
    | false => trivial
    | true => exact generateTokenPair_issuing _ _ _ _

theorem exchangeFound_issuing [Sha256] (args : ExchangeArgs) (id : Uuid) (code : IssuedCode) :
    (exchangeFound call args id code).Uses Op.Issuing := by
  refine ⟨trivial, fun (now : OffsetDateTime) => ?_⟩
  dsimp only
  split
  · exact ⟨trivial, fun _ => trivial⟩
  · split
    · exact ⟨trivial, fun _ => trivial⟩
    · refine awaitStore_uses trivial fun secrets => ?_
      split
      · exact ⟨trivial, fun _ => trivial⟩
      · exact redeemCode_issuing _ _ _ _

theorem exchangeCode_issuing [Sha256] (args : ExchangeArgs) :
    (exchangeCode call args).Uses Op.Issuing := by
  unfold exchangeCode
  split
  · trivial
  · refine awaitStore_uses trivial fun (found : Option (Uuid × IssuedCode)) => ?_
    cases found with
    | none => trivial
    | some row => exact exchangeFound_issuing args row.1 row.2

theorem rotateToken_issuing [Sha256] (id : Uuid) (token : IssuedToken) :
    (rotateToken call id token).Uses Op.Issuing := by
  refine awaitStore_uses trivial fun (deleted : Bool) => ?_
  cases deleted with
  | false => trivial
  | true => exact ⟨trivial, fun _ => generateTokenPair_issuing _ _ _ _⟩

theorem refreshFound_issuing [Sha256] (args : RefreshArgs) (id : Uuid) (token : IssuedToken) :
    (refreshFound call args id token).Uses Op.Issuing := by
  refine awaitStore_uses trivial fun (secret : Option SecretRow) => ?_
  cases secret with
  | none => trivial
  | some secret =>
    dsimp only
    split
    · trivial
    · split
      · trivial
      · refine awaitStore_uses trivial fun secrets => ?_
        split
        · exact rotateToken_issuing id token
        · trivial

theorem refreshToken_issuing [Sha256] (args : RefreshArgs) :
    (refreshToken call args).Uses Op.Issuing := by
  unfold refreshToken
  split
  · trivial
  · refine awaitStore_uses trivial fun (found : Option (Uuid × IssuedToken)) => ?_
    cases found with
    | none => trivial
    | some row =>
      refine ⟨trivial, fun (now : OffsetDateTime) => ?_⟩
      dsimp only
      split
      · exact ⟨trivial, fun _ => trivial⟩
      · exact refreshFound_issuing args row.1 row.2

theorem revokeByRefreshHash_plain [Sha256] (clientId : Uuid) (token : String) :
    (revokeByRefreshHash call clientId token).Uses Op.Plain := by
  refine ⟨trivial, fun (r : Except StorageError (Option (Uuid × IssuedToken))) => ?_⟩
  match r with
  | .error _ => trivial
  | .ok none => trivial
  | .ok (some row) => exact revokeOwned_plain clientId row.1 row.2

theorem revokeByAccessPrefix_plain [Sha256] (clientId : Uuid) (token : String) :
    (revokeByAccessPrefix call clientId token).Uses Op.Plain := by
  refine ⟨trivial, fun (r : Except StorageError (Option (Uuid × IssuedToken))) => ?_⟩
  match r with
  | .error _ => exact revokeByRefreshHash_plain clientId token
  | .ok none => exact revokeByRefreshHash_plain clientId token
  | .ok (some row) =>
    refine ⟨trivial, fun (r : Except StorageError (Option IssuedKey)) => ?_⟩
    match r with
    | .error _ => exact revokeByRefreshHash_plain clientId token
    | .ok none => exact revokeByRefreshHash_plain clientId token
    | .ok (some key) =>
      dsimp only
      split
      · exact revokeOwned_plain clientId row.1 row.2
      · exact revokeByRefreshHash_plain clientId token

theorem postOauth2Revoke_plain [Sha256] (form : OAuth2TokenRevocationRequest) :
    (postOauth2Revoke call form).Uses Op.Plain := by
  unfold postOauth2Revoke
  split
  · trivial
  · split
    · trivial
    · refine (getApp_plain _).bind fun r => ?_
      cases r with
      | error e => trivial
      | ok app => exact revokeByAccessPrefix_plain _ _

/-! ## Requests that neither authorize nor issue -/

def Request.Managing : Request → Prop
  | createApp _ _ _ _ | register _ _ _ | updateApp _ _ _ _ | deleteApp _ | createAppSecret _
  | deleteAppSecret _ _ | revoke _ => True
  | _ => False

theorem handle_plain [Sha256] [UrlSyntax] {request : Request} (h : request.Managing) :
    (handle call request).Uses Op.Plain := by
  cases request with
  | createApp name icon callbackUrl createdBy =>
    exact replyOk_uses (createAppWithFirstParty_plain _ _ _ _ _) fun _ => trivial
  | register clientName logoUri callbackUrl => exact postOauth2Register_plain _ _ _
  | updateApp appId name icon callbackUrl =>
    exact replyOk_uses (updateApp_plain _ _ _ _) fun _ => trivial
  | deleteApp appId => exact replyOk_uses (deleteApp_plain appId) fun _ => trivial
  | createAppSecret appId => exact replyOk_uses (createAppSecret_plain appId) fun _ => trivial
  | deleteAppSecret appId secretId =>
    exact replyOk_uses (deleteAppSecret_plain appId secretId) fun _ => trivial
  | revoke form => exact postOauth2Revoke_plain form
  | getAuthorize user params => cases h
  | consent user form => cases h
  | postAuthorize user params => cases h
  | exchangeCode args => cases h
  | refreshToken args => cases h
  | revokeTokens appId user => cases h

theorem handle_inner [Sha256] [UrlSyntax] (request : Request) :
    (handle call request).Uses Op.Inner := by
  cases request with
  | getAuthorize user params =>
    exact (getOauth2Authorize_authorizing user params).mono fun _ => .inl
  | consent user form =>
    exact (postOauth2AuthorizeConsent_authorizing user form).mono fun _ => .inl
  | postAuthorize user params =>
    exact (postOauth2Authorize_authorizing user params).mono fun _ => .inl
  | exchangeCode args =>
    refine Calls.Uses.mono (replyOk_uses (exchangeCode_issuing args) fun _ => ?_) fun _ => .inr
    trivial
  | refreshToken args =>
    refine Calls.Uses.mono (replyOk_uses (refreshToken_issuing args) fun _ => ?_) fun _ => .inr
    trivial
  | revokeTokens appId user =>
    refine Calls.Uses.mono (replyOk_uses (revokeTokens_issuing appId user) fun _ => ?_)
      fun _ => .inr
    trivial
  | _ =>
    refine Calls.Uses.mono (handle_plain ?_) fun _ h => .inr h.issuing
    trivial

/-! ## Requests that make neither keys nor tokens -/

/-- A step of a handler that makes neither. -/
def Op.Ungranting (op : Op) : Prop :=
  op.Inner ∧ ∀ call q, op.query? = some (call, q) → ¬ q.Grants

theorem Op.Authorizing.ungranting {op : Op} (h : op.Authorizing) : op.Ungranting := by
  refine ⟨.inl h, fun call q hquery => ?_⟩
  cases op with
  | store call' q' =>
    cases hquery
    cases q <;> first | exact id | cases h
  | attempt call' q' =>
    cases hquery
    cases q <;> first | exact id | cases h
  | _ => cases hquery

theorem Op.Plain.ungranting {op : Op} (h : op.Plain) : op.Ungranting := h.authorizing.ungranting

/-- Neither makes a key or a token. -/
theorem handle_ungranting [Sha256] [UrlSyntax] {request : Request}
    (hexchange : ∀ args, request ≠ .exchangeCode args)
    (hrefresh : ∀ args, request ≠ .refreshToken args) :
    (handle call request).Uses Op.Ungranting := by
  cases request with
  | exchangeCode args => exact absurd rfl (hexchange args)
  | refreshToken args => exact absurd rfl (hrefresh args)
  | getAuthorize user params =>
    exact (getOauth2Authorize_authorizing user params).mono fun _ => Op.Authorizing.ungranting
  | consent user form =>
    exact (postOauth2AuthorizeConsent_authorizing user form).mono fun _ => Op.Authorizing.ungranting
  | postAuthorize user params =>
    exact (postOauth2Authorize_authorizing user params).mono fun _ => Op.Authorizing.ungranting
  | revokeTokens appId user =>
    refine replyOk_uses ?_ fun _ => trivial
    refine awaitStore_uses (Op.Plain.ungranting trivial) fun tokens => ?_
    refine awaitStore_uses ⟨.inr trivial, fun _ _ hquery => by cases hquery; exact id⟩ fun _ => ?_
    exact (discardKeys_plain _ _).mono fun _ => Op.Plain.ungranting
  | _ =>
    refine Calls.Uses.mono (handle_plain ?_) fun _ => Op.Plain.ungranting
    trivial

end Coderd.OAuth2
