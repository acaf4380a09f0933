import Coderd.Auth.Issuing
import Coderd.Foundation.Register
import Coderd.Foundation.Select

namespace Coderd.OAuth2

open Coderd.Foundation Coderd.Auth Coderd.Rbac
open Coderd.CryptoKeys (OffsetDateTime)

/-! ## Rows -/

/-- A row of `oauth2_provider_apps`, without its id. -/
structure AppRow where
  name : String
  icon : String
  callbackUrl : String
  redirectUris : List String
  createdBy : Option Uuid
  firstParty : Bool

/-- The apps, with the flag under which each id was registered. No update writes the flag, and the
id of a deleted app is not given to another one. -/
structure AppTable where
  rows : HashMap Uuid AppRow
  registered : HashMap Uuid Bool
  rows_registered : ∀ id app, rows.lookup id = some app →
    registered.lookup id = some app.firstParty

structure PendingConsentRow where
  appId : Uuid
  userId : Uuid
  state : String
  resource : String
  codeChallenge : String
  codeChallengeMethod : String
  expiresAt : OffsetDateTime

structure SecretRow where
  secretPrefix : List UInt8
  hashedSecret : List UInt8
  displaySecret : String
  appId : Uuid

structure CodeRow where
  expiresAt : OffsetDateTime
  secretPrefix : List UInt8
  hashedSecret : List UInt8
  appId : Uuid
  userId : Uuid
  resourceUri : String
  codeChallenge : String
  codeChallengeMethod : String

/-- A row as it was inserted: how many calls had begun by then, and the flag of its app. -/
structure IssuedCode extends CodeRow where
  calls : Nat
  firstParty : Bool

/-- The authorization code that something descends from, with its app and its user. -/
structure Grant where
  code : Uuid
  app : Uuid
  user : Uuid
  deriving DecidableEq

structure TokenRow where
  expiresAt : OffsetDateTime
  hashPrefix : List UInt8
  refreshHash : List UInt8
  appSecretId : Uuid
  apiKeyId : String
  audience : String
  userId : Uuid

/-- A row as it was inserted: what it descends from, and the secret that its foreign key found. -/
structure IssuedToken extends TokenRow where
  grant : Grant
  secret : SecretRow

structure IssuedKey extends ApiKeyRow where
  grant : Grant

/-! ## Requests and replies -/

structure OAuth2AuthorizeRequest where
  responseType : String
  clientId : String
  state : String
  scope : String
  codeChallenge : String
  codeChallengeMethod : String
  resource : String

structure OAuth2ConsentForm where
  nonce : String
  decision : String

structure ExchangeArgs where
  rawCode : String
  clientId : Uuid
  clientSecret : String
  codeVerifier : String
  resource : String

structure RefreshArgs where
  refreshToken : String
  clientId : Uuid
  clientSecret : String
  resource : String

structure OAuth2TokenRevocationRequest where
  token : String
  clientId : String

/-- What is asked of the provider, after the checks of who asks. -/
inductive Request where
  | createApp (name icon callbackUrl : String) (createdBy : Uuid)
  | register (clientName logoUri callbackUrl : String)
  | updateApp (appId : Uuid) (name icon callbackUrl : String)
  | deleteApp (appId : Uuid)
  | createAppSecret (appId : Uuid)
  | deleteAppSecret (appId secretId : Uuid)
  | getAuthorize (user : Uuid) (params : OAuth2AuthorizeRequest)
  | consent (user : Uuid) (form : OAuth2ConsentForm)
  | postAuthorize (user : Uuid) (params : OAuth2AuthorizeRequest)
  | exchangeCode (args : ExchangeArgs)
  | refreshToken (args : RefreshArgs)
  | revokeTokens (appId user : Uuid)
  | revoke (form : OAuth2TokenRevocationRequest)

inductive StorageError where
  | unavailable
  | violatesConstraint
  deriving DecidableEq

inductive OAuth2ProviderError where
  | storage (error : StorageError)
  | badRequest (message : String)
  | notFound (message : String)
  | unauthorized (message : String)
  deriving DecidableEq

structure OAuth2TokenResult where
  accessToken : String
  tokenType : String
  expiresIn : Nat
  refreshToken : String
  deriving DecidableEq

/-- A redirect is to the app's callback URL with the pairs appended to its query. -/
structure Redirect where
  callbackUrl : String
  pairs : List (String × String)

inductive Reply where
  | app (id : Uuid) (row : AppRow)
  | secret (raw : String) (id : Uuid)
  | registered (appId : Uuid) (clientSecret : String)
  | ok
  | consentPage (app : AppRow) (scope : String) (nonce : Uuid) (cancel : Redirect)
  | redirect (status : Nat) (target : Redirect)
  | tokens (result : OAuth2TokenResult)
  | revoked (count : Nat)
  | invalidRequest (message : String)
  | serverError (message : String)
  | storageError (error : StorageError)
  | failed (error : OAuth2ProviderError)

/-! ## Calls -/

/-- The calls of the store, under its method names. The grants are not columns: they say for whom
a key or a token is made. -/
inductive StoreCall where
  | createApp (app : AppRow)
  | findAppById (id : Uuid)
  | updateApp (id : Uuid) (name icon callbackUrl : String) (redirectUris : List String)
  | deleteApp (id : Uuid)
  | hasUserApproval (appId userId : Uuid)
  | insertUserApproval (appId userId : Uuid) (scope : String)
  | insertPendingConsent (row : PendingConsentRow)
  | takePendingConsent (nonce : Uuid)
  | listSecrets (appId : Uuid)
  | createSecret (secret : SecretRow)
  | findSecretById (id : Uuid)
  | deleteSecret (id : Uuid)
  | createCode (code : CodeRow)
  | findCodeByPrefix (secretPrefix : List UInt8)
  | deleteCode (id : Uuid)
  | createApiKey (id : String) (key : ApiKeyRow) (grant : Grant)
  | findApiKeyById (id : String)
  | deleteApiKey (id : String)
  | createToken (token : TokenRow) (grant : Grant)
  | findTokenByPrefix (hashPrefix : List UInt8)
  | findTokenByRefreshHash (refreshHash : List UInt8)
  | deleteToken (id : Uuid)
  | listTokensByAppAndUser (appId userId : Uuid)
  | deleteTokensByAppAndUser (appId userId : Uuid)

/-- `createApiKey` answers `false` for `DuplicateTokenName`. -/
abbrev StoreCall.Response : StoreCall → Type
  | createApp _ => Uuid × AppRow
  | findAppById _ => Option AppRow
  | updateApp _ _ _ _ _ => Option AppRow
  | deleteApp _ => Bool
  | hasUserApproval _ _ => Bool
  | insertUserApproval _ _ _ => Unit
  | insertPendingConsent _ => Uuid
  | takePendingConsent _ => Option PendingConsentRow
  | listSecrets _ => List (Uuid × SecretRow)
  | createSecret _ => Uuid
  | findSecretById _ => Option SecretRow
  | deleteSecret _ => Bool
  | createCode _ => Unit
  | findCodeByPrefix _ => Option (Uuid × IssuedCode)
  | deleteCode _ => Bool
  | createApiKey _ _ _ => Bool
  | findApiKeyById _ => Option IssuedKey
  | deleteApiKey _ => Bool
  | createToken _ _ => Unit
  | findTokenByPrefix _ => Option (Uuid × IssuedToken)
  | findTokenByRefreshHash _ => Option (Uuid × IssuedToken)
  | deleteToken _ => Bool
  | listTokensByAppAndUser _ _ => List (Uuid × IssuedToken)
  | deleteTokensByAppAndUser _ _ => Nat

/-- One step of a request. The first and the last one are the moments at which it comes in and
returns; the number that it gets at the first one names it in the log. -/
inductive Op where
  | begin (request : Request)
  | finish (call : Nat) (reply : Reply)
  | nowUtc
  | randomBytes
  | newUuid
  | store (call : Nat) (query : StoreCall)
  /-- `let _ = …`: a call whose result is not looked at. -/
  | attempt (call : Nat) (query : StoreCall)

abbrev Op.Response : Op → Type
  | begin _ => Nat
  | finish _ _ => Unit
  | nowUtc => OffsetDateTime
  | randomBytes => Vector UInt8 32
  | newUuid => Uuid
  | store _ query => Except StorageError query.Response
  | attempt _ _ => Unit

/-- What the code does not decide: whether the store call fails, what the clock shows, what the
generators draw, and which of several rows a query returns. -/
structure Choice where
  fails : Bool
  now : OffsetDateTime
  bytes : Vector UInt8 32
  uuid : Uuid

/-! ## The state -/

inductive Event where
  | began (call : Nat) (request : Request) (at_ : OffsetDateTime)
  | finished (call : Nat) (reply : Reply)
  | failed (call : Nat) (query : StoreCall)
  | consentIssued (call : Nat) (nonce : Uuid)
  | consentTaken (call : Nat) (nonce : Uuid) (at_ : OffsetDateTime)
  | codeFound (call : Nat) (id : Uuid)
  | codeDeleted (call : Nat) (id : Uuid)
  | keyCreated (call : Nat) (id : String)
  | tokenCreated (call : Nat) (id : Uuid)
  | tokenDeleted (call : Nat) (id : Uuid)
  | tokensListed (call : Nat) (appId userId : Uuid) (keys : List String)

/-- The tables, the clock, the number of calls that have begun, and what has happened, the newest
event first. -/
structure World where
  apps : AppTable
  approvals : HashMap (Uuid × Uuid) String
  pendings : Register Uuid PendingConsentRow
  secrets : Register Uuid SecretRow
  codes : Register Uuid IssuedCode
  apiKeys : Register String IssuedKey
  tokens : Register Uuid IssuedToken
  clock : OffsetDateTime
  calls : Nat
  log : List Event

namespace AppTable

def empty : AppTable where
  rows := ∅
  registered := ∅
  rows_registered := by simp

/-- A new app, under an id that no app has had. -/
def create? (apps : AppTable) (id : Uuid) (app : AppRow) : Option AppTable :=
  if (apps.registered.lookup id).isSome then none
  else
    some {
      rows := apps.rows.insert id app
      registered := apps.registered.insert id app.firstParty
      rows_registered := by
        intro id' app' h
        rw [HashMap.lookup_insert_ite] at h ⊢
        by_cases hid : id' = id
        · rw [if_pos hid] at h ⊢
          cases h
          rfl
        · rw [if_neg hid] at h ⊢
          exact apps.rows_registered id' app' h }

/-- `UPDATE oauth2_provider_apps SET name, icon, callback_url, redirect_uris`. -/
def update (apps : AppTable) (id : Uuid) (name icon callbackUrl : String)
    (redirectUris : List String) : AppTable where
  rows := apps.rows.mapValues fun id' app =>
    if id' = id then
      { app with
        name := name
        icon := icon
        callbackUrl := callbackUrl
        redirectUris := redirectUris }
    else app
  registered := apps.registered
  rows_registered := by
    intro id' app' h
    rw [HashMap.lookup_mapValues, Option.map_eq_some_iff] at h
    obtain ⟨app, hrow, rfl⟩ := h
    rw [apps.rows_registered id' app hrow]
    split <;> rfl

def erase (apps : AppTable) (id : Uuid) : AppTable where
  rows := apps.rows.erase id
  registered := apps.registered
  rows_registered := by
    intro id' app' h
    rw [HashMap.lookup_erase_ite] at h
    split at h
    · cases h
    · exact apps.rows_registered id' app' h

end AppTable

namespace World

/-- No request has come in; some apps are registered. -/
def start (apps : AppTable) : World where
  apps := apps
  approvals := ∅
  pendings := .empty
  secrets := .empty
  codes := .empty
  apiKeys := .empty
  tokens := .empty
  clock := OffsetDateTime.unixEpoch
  calls := 0
  log := []

def note (w : World) (event : Event) : World := { w with log := event :: w.log }

/-- `ON DELETE CASCADE` from the secrets to the tokens. -/
def cascade (w : World) (secrets : Register Uuid SecretRow) : World :=
  { w with
    secrets := secrets
    tokens := w.tokens.retain fun _ token => (secrets.rows.lookup token.appSecretId).isSome }

/-- The rows of `oauth2_provider_app_tokens` that join the app's secrets. -/
def ofAppAndUser (w : World) (appId userId : Uuid) (token : IssuedToken) : Bool :=
  token.userId = userId ∧
    ((w.secrets.rows.lookup token.appSecretId).any fun secret => secret.appId = appId) = true

def violatesUnique (w : World) (id : String) (key : ApiKeyRow) : Bool :=
  (w.apiKeys.rows.lookup id).isSome ||
    (key.tokenName ≠ "" ∧
      (HashMap.values w.apiKeys.rows).any fun row =>
        row.userId = key.userId ∧ row.tokenName ≠ "" ∧
          eqIgnoreAsciiCase row.tokenName key.tokenName)

end World

end Coderd.OAuth2
