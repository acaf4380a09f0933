import Coderd.OAuth2.Store

namespace Coderd.OAuth2

open Coderd.Foundation Coderd.Auth
open Coderd.CryptoKeys (OffsetDateTime oneHour)

/-- Whether `url::Url::parse` takes the text. -/
class UrlSyntax where
  valid : String → Bool

/-! ## Checks -/

def validatePkceMethod (codeChallenge codeChallengeMethod : String) :
    Except OAuth2ProviderError Unit :=
  if codeChallenge.isEmpty then .ok ()
  else if codeChallengeMethod = "S256" then .ok ()
  else .error (.badRequest "Unsupported code_challenge_method: only S256 is accepted.")

def validateAuthorizationCodeResource (stored requested : String) :
    Except OAuth2ProviderError Unit :=
  match stored.isEmpty, requested.isEmpty with
  | true, true => .ok ()
  | true, false =>
    .error (.badRequest "Resource parameter was not specified during authorization.")
  | false, true => .error (.badRequest "Resource parameter is required (bound at authorization).")
  | false, false =>
    if stored = requested then .ok ()
    else
      .error
        (.badRequest "Resource parameter does not match the value bound at authorization.")

def validateRefreshTokenResource (tokenAudience requested : String) :
    Except OAuth2ProviderError Unit :=
  if requested.isEmpty ∨ requested = tokenAudience then .ok ()
  else .error (.badRequest "Resource parameter does not match the refresh token's audience.")

/-- The first eight bytes, or all of them. -/
def prefixBytes (text : String) : List UInt8 := text.toUTF8.data.toList.take 8

section

variable [Sha256]

def verifyPkce (codeVerifier codeChallenge : String) : String → Bool
  | "S256" => Base64.encodeUrlSafe (Sha256.digest codeVerifier) = codeChallenge
  | "plain" | "" => codeVerifier = codeChallenge
  | _ => false

/-- The checks of the row alone, each of which consumes the code when it fails. -/
def IssuedCode.refusal (code : IssuedCode) (args : ExchangeArgs) : Option OAuth2ProviderError :=
  if Sha256.digest args.rawCode ≠ code.hashedSecret then
    some (.unauthorized "Invalid authorization code.")
  else if code.appId ≠ args.clientId then
    some (.unauthorized "Authorization code does not belong to this client.")
  else if code.codeChallenge.isEmpty then none
  else if args.codeVerifier.isEmpty then some (.badRequest "Code verifier is required for PKCE.")
  else if verifyPkce args.codeVerifier code.codeChallenge code.codeChallengeMethod then none
  else some (.unauthorized "PKCE code verifier is invalid.")

/-- The first of the secrets that is the one presented. -/
def matchedSecret (clientSecret : String) (secrets : List (Uuid × SecretRow)) :
    Option (Uuid × SecretRow) :=
  secrets.find? fun secret => secret.2.hashedSecret = Sha256.digest clientSecret

end

/-! ## `OAuth2ProviderService` -/

abbrev Handler := Calls Op Op.Response

/-- What a method of the service returns. -/
abbrev Outcome (α : Type) := Except OAuth2ProviderError α

variable {α β : Type}

/-- A store call whose error is passed on. -/
def awaitStore (call : Nat) (q : StoreCall) (next : q.Response → Handler (Outcome α)) :
    Handler (Outcome α) :=
  .call (.store call q) fun
    | .error e => .done (.error (.storage e))
    | .ok r => next r

/-- A method whose error is passed on. -/
def awaitOk (p : Handler (Outcome α)) (next : α → Handler (Outcome β)) : Handler (Outcome β) :=
  p.bind fun
    | .error e => .done (.error e)
    | .ok a => next a

def createAppWithFirstParty (call : Nat) (name icon callbackUrl : String)
    (createdBy : Option Uuid) (firstParty : Bool) : Handler (Outcome (Uuid × AppRow)) :=
  let name := trim name.toList
  let callbackUrl := trim callbackUrl.toList
  if name.isEmpty then .done (.error (.badRequest "App name is required."))
  else if callbackUrl.isEmpty then .done (.error (.badRequest "Callback URL is required."))
  else
    let app : AppRow := {
      name := String.ofList name
      icon := icon
      callbackUrl := String.ofList callbackUrl
      redirectUris := []
      createdBy := createdBy
      firstParty := firstParty }
    awaitStore call (.createApp app) fun row => .done (.ok row)

def createApp (call : Nat) (name icon callbackUrl : String) (createdBy : Option Uuid) :
    Handler (Outcome (Uuid × AppRow)) :=
  createAppWithFirstParty call name icon callbackUrl createdBy true

def createAppDynamic (call : Nat) (name icon callbackUrl : String) :
    Handler (Outcome (Uuid × AppRow)) :=
  createAppWithFirstParty call name icon callbackUrl none false

def getApp (call : Nat) (appId : Uuid) : Handler (Outcome AppRow) :=
  awaitStore call (.findAppById appId) fun
    | none => .done (.error (.notFound "OAuth2 app not found."))
    | some app => .done (.ok app)

def updateApp (call : Nat) (appId : Uuid) (name icon callbackUrl : String) :
    Handler (Outcome AppRow) :=
  let name := trim name.toList
  let callbackUrl := trim callbackUrl.toList
  if name.isEmpty then .done (.error (.badRequest "App name is required."))
  else if callbackUrl.isEmpty then .done (.error (.badRequest "Callback URL is required."))
  else
    awaitOk (getApp call appId) fun existing =>
      awaitStore call (.updateApp appId (String.ofList name) icon (String.ofList callbackUrl)
        existing.redirectUris) fun
        | none => .done (.error (.notFound "OAuth2 app not found."))
        | some app => .done (.ok app)

def deleteApp (call : Nat) (appId : Uuid) : Handler (Outcome Unit) :=
  awaitStore call (.deleteApp appId) fun
    | false => .done (.error (.notFound "OAuth2 app not found."))
    | true => .done (.ok ())

section

variable [Sha256]

def createAppSecret (call : Nat) (appId : Uuid) : Handler (Outcome (String × Uuid)) :=
  awaitOk (getApp call appId) fun _ =>
    .call .randomBytes fun bytes =>
      let rawSecret := Base64.encodeUrlSafe bytes.toList
      let secret : SecretRow := {
        secretPrefix := prefixBytes rawSecret
        hashedSecret := Sha256.digest rawSecret
        displaySecret := String.ofList (rawSecret.toList.take 6) ++ "******"
        appId := appId }
      awaitStore call (.createSecret secret) fun id => .done (.ok (rawSecret, id))

def deleteAppSecret (call : Nat) (appId secretId : Uuid) : Handler (Outcome Unit) :=
  awaitStore call (.listSecrets appId) fun secrets =>
    if secrets.any fun secret => secret.1 = secretId then
      awaitStore call (.deleteSecret secretId) fun
        | false => .done (.error (.notFound "OAuth2 app secret not found."))
        | true => .done (.ok ())
    else .done (.error (.notFound "OAuth2 app secret not found for this app."))

/-- `time::Duration::minutes(10)`. -/
def tenMinutes : Int := 600 * 10 ^ 9

/-- `time::Duration::days(30)`. -/
def thirtyDays : Int := 30 * 24 * oneHour

def createAuthorizationCode (call : Nat) (appId userId : Uuid)
    (resourceUri codeChallenge codeChallengeMethod : String) : Handler (Outcome String) :=
  awaitOk (getApp call appId) fun _ =>
    match validatePkceMethod codeChallenge codeChallengeMethod with
    | .error e => .done (.error e)
    | .ok () =>
      .call .randomBytes fun bytes =>
        let rawCode := Base64.encodeUrlSafe bytes.toList
        .call .nowUtc fun (now : OffsetDateTime) =>
          match now.add tenMinutes with
          | none =>
            .done (.error (.badRequest "Failed to compute authorization code expiry."))
          | some expiresAt =>
            let code : CodeRow := {
              expiresAt := expiresAt
              secretPrefix := prefixBytes rawCode
              hashedSecret := Sha256.digest rawCode
              appId := appId
              userId := userId
              resourceUri := resourceUri
              codeChallenge := codeChallenge
              codeChallengeMethod := codeChallengeMethod }
            awaitStore call (.createCode code) fun _ => .done (.ok rawCode)

/-- The row of the access token, which is the secret of an API key. -/
def accessKey (userId : Uuid) (keySecret apiKeyId : String) (now expiresAt : OffsetDateTime) :
    ApiKeyRow where
  hashedSecret := Sha256.digest keySecret
  userId := userId
  lastUsed := now
  expiresAt := expiresAt
  loginType := .oauth2ProviderApp
  scopes := ["all"]
  tokenName := "oauth2_" ++ apiKeyId
  lifetimeSeconds := 3600
  allowList := []

/-- The end of `generate_token_pair`, from the first store call on. -/
def storeTokenPair (call : Nat) (apiKeyId keySecret refreshToken : String) (key : ApiKeyRow)
    (token : TokenRow) (grant : Grant) : Handler (Outcome OAuth2TokenResult) :=
  awaitStore call (.createApiKey apiKeyId key grant) fun
    | false => .done (.error (.badRequest "Failed to create API key for token."))
    | true =>
      .call (.store call (.createToken token grant)) fun
        | .error e =>
          .call (.attempt call (.deleteApiKey apiKeyId)) fun _ => .done (.error (.storage e))
        | .ok () =>
          .done (.ok {
            accessToken := keySecret
            tokenType := "Bearer"
            expiresIn := 3600
            refreshToken := refreshToken })

def generateTokenPair (call : Nat) (appSecretId userId : Uuid) (audience : String)
    (grant : Grant) : Handler (Outcome OAuth2TokenResult) :=
  .call .randomBytes fun refreshBytes =>
    let refreshToken := Base64.encodeUrlSafe refreshBytes.toList
    .call .nowUtc fun (now : OffsetDateTime) =>
      match now.add oneHour with
      | none => .done (.error (.badRequest "Failed to compute access token expiry."))
      | some accessExpiresAt =>
        match now.add thirtyDays with
        | none => .done (.error (.badRequest "Failed to compute refresh token expiry."))
        | some refreshExpiresAt =>
          .call .randomBytes fun keyBytes =>
            let keySecret := newSessionToken keyBytes
            .call .newUuid fun (uuid : Uuid) =>
              let apiKeyId := uuid.toHyphenated
              let key := accessKey userId keySecret apiKeyId now accessExpiresAt
              let token : TokenRow := {
                expiresAt := refreshExpiresAt
                hashPrefix := prefixBytes keySecret
                refreshHash := Sha256.digest refreshToken
                appSecretId := appSecretId
                apiKeyId := apiKeyId
                audience := audience
                userId := userId }
              storeTokenPair call apiKeyId keySecret refreshToken key token grant

/-- A failed exchange consumes the code, as far as the store goes along. -/
def discardCode (call : Nat) (id : Uuid) (error : OAuth2ProviderError) : Handler (Outcome α) :=
  .call (.attempt call (.deleteCode id)) fun _ => .done (.error error)

/-- The end of `exchange_code`, once the client is known. -/
def redeemCode (call : Nat) (args : ExchangeArgs) (id : Uuid) (code : IssuedCode)
    (secretId : Uuid) : Handler (Outcome OAuth2TokenResult) :=
  match validateAuthorizationCodeResource code.resourceUri args.resource with
  | .error e => .done (.error e)
  | .ok () =>
    awaitStore call (.deleteCode id) fun
      | false => .done (.error (.unauthorized "Authorization code already consumed."))
      | true =>
        generateTokenPair call secretId code.userId code.resourceUri ⟨id, code.appId, code.userId⟩

/-- `exchange_code` with the row that the prefix has found. -/
def exchangeFound (call : Nat) (args : ExchangeArgs) (id : Uuid) (code : IssuedCode) :
    Handler (Outcome OAuth2TokenResult) :=
  .call .nowUtc fun (now : OffsetDateTime) =>
    if code.expiresAt < now then
      discardCode call id (.unauthorized "Authorization code has expired.")
    else
      match code.refusal args with
      | some error => discardCode call id error
      | none =>
        awaitStore call (.listSecrets code.appId) fun secrets =>
          match matchedSecret args.clientSecret secrets with
          | none => discardCode call id (.unauthorized "Invalid client credentials.")
          | some (secretId, _) => redeemCode call args id code secretId

def exchangeCode (call : Nat) (args : ExchangeArgs) : Handler (Outcome OAuth2TokenResult) :=
  if args.rawCode.isEmpty then .done (.error (.badRequest "Code is required."))
  else
    awaitStore call (.findCodeByPrefix (prefixBytes args.rawCode)) fun
      | none => .done (.error (.unauthorized "Invalid or expired authorization code."))
      | some (id, code) => exchangeFound call args id code

/-- The end of `refresh_token`, once the client is known. -/
def rotateToken (call : Nat) (id : Uuid) (token : IssuedToken) :
    Handler (Outcome OAuth2TokenResult) :=
  awaitStore call (.deleteToken id) fun
    | false => .done (.error (.unauthorized "Refresh token already consumed."))
    | true =>
      .call (.attempt call (.deleteApiKey token.apiKeyId)) fun _ =>
        generateTokenPair call token.appSecretId token.userId token.audience token.grant

/-- `refresh_token` with the row that the hash has found, which is not expired. -/
def refreshFound (call : Nat) (args : RefreshArgs) (id : Uuid) (token : IssuedToken) :
    Handler (Outcome OAuth2TokenResult) :=
  awaitStore call (.findSecretById token.appSecretId) fun
    | none => .done (.error (.unauthorized "App secret not found."))
    | some secret =>
      if secret.appId ≠ args.clientId then
        .done (.error (.unauthorized "Refresh token does not belong to this client."))
      else
        match validateRefreshTokenResource token.audience args.resource with
        | .error e => .done (.error e)
        | .ok () =>
          awaitStore call (.listSecrets secret.appId) fun secrets =>
            if (matchedSecret args.clientSecret secrets).isSome then rotateToken call id token
            else .done (.error (.unauthorized "Invalid client credentials."))

def refreshToken (call : Nat) (args : RefreshArgs) : Handler (Outcome OAuth2TokenResult) :=
  if args.refreshToken.isEmpty then .done (.error (.badRequest "Refresh token is required."))
  else
    awaitStore call (.findTokenByRefreshHash (Sha256.digest args.refreshToken)) fun
      | none => .done (.error (.unauthorized "Invalid refresh token."))
      | some (id, token) =>
        .call .nowUtc fun (now : OffsetDateTime) =>
          if token.expiresAt < now then
            .call (.attempt call (.deleteToken id)) fun _ =>
              .done (.error (.unauthorized "Refresh token has expired."))
          else refreshFound call args id token

end

/-- The keys one after the other, whether or not a call fails. -/
def discardKeys (call : Nat) (next : Handler α) : List String → Handler α
  | [] => next
  | key :: keys => .call (.attempt call (.deleteApiKey key)) fun _ => discardKeys call next keys

def revokeTokens (call : Nat) (appId userId : Uuid) : Handler (Outcome Nat) :=
  awaitStore call (.listTokensByAppAndUser appId userId) fun
    (tokens : List (Uuid × IssuedToken)) =>
    awaitStore call (.deleteTokensByAppAndUser appId userId) fun count =>
      discardKeys call (.done (.ok count)) (tokens.map (·.2.apiKeyId))

/-! ## The handlers -/

/-- The handler's answer where a method of the service fails. -/
def replyOk (p : Handler (Outcome α)) (next : α → Handler Reply) : Handler Reply :=
  p.bind fun
    | .error e => .done (.failed e)
    | .ok a => next a

/-- A store call whose error is the handler's. -/
def replyStore (call : Nat) (q : StoreCall) (next : q.Response → Handler Reply) : Handler Reply :=
  .call (.store call q) fun
    | .error e => .done (.storageError e)
    | .ok r => next r

section

variable [Sha256] [UrlSyntax]

/-- The app's row, if its callback URL can be parsed. -/
def appWithCallback (call : Nat) (appId : Uuid) (next : AppRow → Handler Reply) : Handler Reply :=
  replyOk (getApp call appId) fun app =>
    if UrlSyntax.valid app.callbackUrl then next app
    else .done (.serverError "App has invalid callback URL configured.")

def statePair (state : String) : List (String × String) :=
  if state.isEmpty then [] else [("state", state)]

/-- A new code for the session user, which the app gets with the redirect. -/
def codeRedirect (call : Nat) (app : AppRow) (appId userId : Uuid)
    (resource codeChallenge codeChallengeMethod : String) (status : Nat)
    (state : List (String × String)) : Handler Reply :=
  replyOk (createAuthorizationCode call appId userId resource codeChallenge codeChallengeMethod)
    fun rawCode => .done (.redirect status ⟨app.callbackUrl, ("code", rawCode) :: state⟩)

def consentPage (call : Nat) (app : AppRow) (clientId userId : Uuid)
    (params : OAuth2AuthorizeRequest) : Handler Reply :=
  .call .nowUtc fun (now : OffsetDateTime) =>
    match now.add tenMinutes with
    -- the sum panics out of range
    | none => .done (.serverError "")
    | some expiresAt =>
      let row : PendingConsentRow := {
        appId := clientId
        userId := userId
        state := params.state
        resource := params.resource
        codeChallenge := params.codeChallenge
        codeChallengeMethod := params.codeChallengeMethod
        expiresAt := expiresAt }
      replyStore call (.insertPendingConsent row) fun nonce =>
        .done (.consentPage app params.scope nonce
          ⟨app.callbackUrl, ("error", "access_denied") :: statePair params.state⟩)

def getOauth2Authorize (call : Nat) (userId : Uuid) (params : OAuth2AuthorizeRequest) :
    Handler Reply :=
  if params.responseType ≠ "code" then
    .done (.invalidRequest "response_type must be \"code\".")
  else
    match Uuid.parse params.clientId with
    | none => .done (.invalidRequest "Invalid client_id: must be a valid UUID.")
    | some clientId =>
      appWithCallback call clientId fun app =>
        let approved :=
          codeRedirect call app clientId userId params.resource params.codeChallenge
            params.codeChallengeMethod 307 [("state", params.state)]
        if app.firstParty then approved
        else
          replyStore call (.hasUserApproval clientId userId) fun
            | true => approved
            | false => consentPage call app clientId userId params

/-- `post_oauth2_authorize_consent` with the pending consent that the nonce has taken. -/
def answerConsent (call : Nat) (userId : Uuid) (decision : String) (pending : PendingConsentRow) :
    Handler Reply :=
  if pending.userId ≠ userId then
    .done (.invalidRequest "Consent session does not match the authenticated user.")
  else
    appWithCallback call pending.appId fun app =>
      if decision ≠ "approve" then
        .done (.redirect 303
          ⟨app.callbackUrl, ("error", "access_denied") :: statePair pending.state⟩)
      else
        replyStore call (.insertUserApproval pending.appId userId "") fun _ =>
          codeRedirect call app pending.appId userId pending.resource pending.codeChallenge
            pending.codeChallengeMethod 303 (statePair pending.state)

def postOauth2AuthorizeConsent (call : Nat) (userId : Uuid) (form : OAuth2ConsentForm) :
    Handler Reply :=
  match Uuid.parse form.nonce with
  | none => .done (.invalidRequest "Invalid consent nonce.")
  | some nonce =>
    replyStore call (.takePendingConsent nonce) fun
      | none => .done (.invalidRequest "Consent session has expired or is invalid.")
      | some pending => answerConsent call userId form.decision pending

/-- The same as the `GET`, but for the question whether the user has approved the app. -/
def postOauth2Authorize (call : Nat) (userId : Uuid) (params : OAuth2AuthorizeRequest) :
    Handler Reply :=
  if params.responseType ≠ "code" then
    .done (.invalidRequest "response_type must be \"code\".")
  else
    match Uuid.parse params.clientId with
    | none => .done (.invalidRequest "Invalid client_id: must be a valid UUID.")
    | some clientId =>
      appWithCallback call clientId fun app =>
        codeRedirect call app clientId userId params.resource params.codeChallenge
          params.codeChallengeMethod 303 [("state", params.state)]

/-- `post_oauth2_register`, after the validation of the metadata. -/
def postOauth2Register (call : Nat) (clientName logoUri callbackUrl : String) : Handler Reply :=
  (createAppDynamic call clientName logoUri callbackUrl).bind fun
    | .error _ => .done (.serverError "Failed to store client registration")
    | .ok (appId, _) =>
      (createAppSecret call appId).bind fun
        | .error _ => .done (.serverError "Failed to generate client secret")
        | .ok (clientSecret, _) => .done (.registered appId clientSecret)

/-- The key and the token, if the token is one of the client. -/
def revokeOwned (call : Nat) (clientId id : Uuid) (token : IssuedToken) : Handler Reply :=
  .call (.store call (.findSecretById token.appSecretId)) fun
    | .ok (some secret) =>
      if secret.appId = clientId then
        .call (.attempt call (.deleteApiKey token.apiKeyId)) fun _ =>
          .call (.attempt call (.deleteToken id)) fun _ => .done .ok
      else .done .ok
    | .ok none => .done .ok
    | .error _ => .done .ok

def revokeByRefreshHash (call : Nat) (clientId : Uuid) (token : String) : Handler Reply :=
  .call (.store call (.findTokenByRefreshHash (Sha256.digest token))) fun
    | .ok (some (id, row)) => revokeOwned call clientId id row
    | .ok none => .done .ok
    | .error _ => .done .ok

/-- The token as an access token, else as a refresh token. -/
def revokeByAccessPrefix (call : Nat) (clientId : Uuid) (token : String) : Handler Reply :=
  .call (.store call (.findTokenByPrefix (prefixBytes token))) fun
    | .ok (some (id, row)) =>
      .call (.store call (.findApiKeyById row.apiKeyId)) fun
        | .ok (some key) =>
          if key.hashedSecret = Sha256.digest token then revokeOwned call clientId id row
          else revokeByRefreshHash call clientId token
        | .ok none => revokeByRefreshHash call clientId token
        | .error _ => revokeByRefreshHash call clientId token
    | .ok none => revokeByRefreshHash call clientId token
    | .error _ => revokeByRefreshHash call clientId token

def postOauth2Revoke (call : Nat) (form : OAuth2TokenRevocationRequest) : Handler Reply :=
  if form.token.isEmpty then .done (.invalidRequest "Missing token parameter.")
  else
    match Uuid.parse form.clientId with
    | none => .done .ok
    | some clientId =>
      (getApp call clientId).bind fun
        | .error _ => .done .ok
        | .ok _ => revokeByAccessPrefix call clientId form.token

def handle (call : Nat) : Request → Handler Reply
  | .createApp name icon callbackUrl createdBy =>
    replyOk (createApp call name icon callbackUrl (some createdBy)) fun (id, app) =>
      .done (.app id app)
  | .register clientName logoUri callbackUrl =>
    postOauth2Register call clientName logoUri callbackUrl
  | .updateApp appId name icon callbackUrl =>
    replyOk (updateApp call appId name icon callbackUrl) fun app => .done (.app appId app)
  | .deleteApp appId => replyOk (deleteApp call appId) fun _ => .done .ok
  | .createAppSecret appId =>
    replyOk (createAppSecret call appId) fun (raw, id) => .done (.secret raw id)
  | .deleteAppSecret appId secretId =>
    replyOk (deleteAppSecret call appId secretId) fun _ => .done .ok
  | .getAuthorize user params => getOauth2Authorize call user params
  | .consent user form => postOauth2AuthorizeConsent call user form
  | .postAuthorize user params => postOauth2Authorize call user params
  | .exchangeCode args =>
    replyOk (exchangeCode call args) fun result => .done (.tokens result)
  | .refreshToken args =>
    replyOk (refreshToken call args) fun result => .done (.tokens result)
  | .revokeTokens appId user =>
    replyOk (revokeTokens call appId user) fun count => .done (.revoked count)
  | .revoke form => postOauth2Revoke call form

/-- A request from its first moment to its last. -/
def serve (request : Request) : Handler Unit :=
  .call (.begin request) fun (call : Nat) =>
    (handle call request).bind fun reply => .call (.finish call reply) fun _ => .done ()

/-- The provider, with all of its requests over one store. Nothing comes from outside. -/
def provider : Service Op Op.Response Unit World Choice Request Empty where
  exec := exec
  enter := serve
  outside w _ := w

/-- Some apps are registered, and no request has come in. -/
def idle (apps : AppTable) : Pool World (Handler Unit) where
  shared := .start apps
  tasks := []

/-- After a number of steps, of any requests and in any order. -/
def after (apps : AppTable) (moves : List (Move Request Choice Empty)) : World :=
  (provider.program.run (idle apps) moves).shared

end

/-! ## Parameters for runs on fixed inputs -/

/-- A digest that is injective. -/
@[reducible] def utf8Digest : Sha256 where
  digest text := text.toUTF8.data.toList

@[reducible] def anyUrl : UrlSyntax where
  valid _ := true

def uuidOf (n : Nat) : Uuid := ⟨BitVec.ofNat 128 n⟩

/-- A choice with which a call does not fail. -/
def choiceOf (n : Nat) : Choice where
  fails := false
  now := OffsetDateTime.unixEpoch
  bytes := Vector.replicate 32 (UInt8.ofNat n)
  uuid := uuidOf n

def appOf (firstParty : Bool) : AppRow where
  name := "app"
  icon := ""
  callbackUrl := "https://app.example"
  redirectUris := []
  createdBy := none
  firstParty := firstParty

def oneApp (firstParty : Bool) : AppTable :=
  (AppTable.empty.create? (uuidOf 1) (appOf firstParty)).getD .empty

def authorizeParams : OAuth2AuthorizeRequest where
  responseType := "code"
  clientId := "00000000000000000000000000000001"
  state := ""
  scope := ""
  codeChallenge := ""
  codeChallengeMethod := ""
  resource := ""

/-- The text that is drawn with `choiceOf n`. -/
def drawnText (n : Nat) : String := Base64.encodeUrlSafe (choiceOf n).bytes.toList

/-- What the app sends for a code, with the secret that was drawn with `choiceOf 2`. -/
def exchangeArgs (rawCode : String) : ExchangeArgs where
  rawCode := rawCode
  clientId := uuidOf 1
  clientSecret := drawnText 2
  codeVerifier := ""
  resource := ""

/-- The app gets a secret, and the user authorizes it. -/
def grantingRun : List (Move Request Choice Empty) :=
  .spawn (.createAppSecret (uuidOf 1)) :: List.replicate 5 (.run 0 (choiceOf 2)) ++
    .spawn (.getAuthorize (uuidOf 7) authorizeParams) :: List.replicate 7 (.run 1 (choiceOf 3))

end Coderd.OAuth2
