import Coderd.Auth.Middleware
import Coderd.Foundation.Calls
import Coderd.Foundation.Select
import Coderd.Foundation.Uuid

namespace Coderd.ExternalAuth

open Coderd.Foundation Coderd.Rbac
open Coderd.Auth (trim)
open Coderd.CryptoKeys (OffsetDateTime)

/-! ## Rows -/

structure ExternalAuthLinkProvider where
  id : String
  allowRefresh : Bool
  noRefresh : Bool
  allowValidate : Bool
  tokenUrl : String

/-- A row of `external_auth_links`, without its key. The user and the installations are in the
JSON form in which they are stored. -/
structure ExternalAuthLink where
  accessToken : String
  refreshToken : String
  tokenType : String
  scopes : List String
  expires : OffsetDateTime
  authenticated : Bool
  validateError : String
  refreshError : String
  lastValidatedAt : Option OffsetDateTime
  lastRefreshedAt : Option OffsetDateTime
  user : Option String
  installations : List String
  appInstallable : Bool

/-- A user and a provider. -/
abbrev Key := Uuid × String

structure ExternalAuthTokenSet where
  accessToken : String
  refreshToken : String
  tokenType : String
  scopes : List String
  expiresAt : OffsetDateTime

structure ExternalAuthValidation where
  authenticated : Bool
  validateError : String
  user : Option String
  installations : List String
  appInstallable : Bool

/-- Why a provider has not done what it was asked for. -/
inductive ProviderError where
  | badRequest (detail : String)
  | internal (detail : String)

inductive StorageError where
  | unavailable
  deriving DecidableEq

/-- What the provider hands out at once. -/
structure TokenPair where
  accessToken : String
  refreshToken : String
  deriving DecidableEq

def ExternalAuthLink.tokens (link : ExternalAuthLink) : TokenPair :=
  ⟨link.accessToken, link.refreshToken⟩

def ExternalAuthTokenSet.pair (tokens : ExternalAuthTokenSet) : TokenPair :=
  ⟨tokens.accessToken, tokens.refreshToken⟩

/-! ## Calls -/

inductive Request where
  | list (userId : Uuid)
  | get (userId : Uuid) (providerId : String)
  | refreshIfExpiring (userId : Uuid) (providerId : String)

/-- The calls of the store and of the provider. -/
inductive Op where
  | nowUtc
  | listExternalAuthLinks (userId : Uuid)
  | findExternalAuthLink (userId : Uuid) (providerId : String)
  | upsertExternalAuthLink (key : Key) (link : ExternalAuthLink)
  | postRefresh (key : Key) (refreshToken : String)
  | validate (accessToken : String)

abbrev Op.Response : Op → Type
  | nowUtc => OffsetDateTime
  | listExternalAuthLinks _ => Except StorageError (List (Key × ExternalAuthLink))
  | findExternalAuthLink _ _ => Except StorageError (Option ExternalAuthLink)
  | upsertExternalAuthLink _ _ => Except StorageError ExternalAuthLink
  | postRefresh _ _ => Except ProviderError ExternalAuthTokenSet
  | validate _ => Except ProviderError ExternalAuthValidation

/-- What the code does not decide: whether a store call fails, what the clock shows, and what the
provider answers: an error of its own accord, the tokens it draws, what it says of a token. -/
structure Choice where
  fails : Bool
  now : OffsetDateTime
  refuses : Option ProviderError
  tokens : ExternalAuthTokenSet
  validation : Except ProviderError ExternalAuthValidation

/-- The table, and the tokens that the provider has issued for each link, the newest ones first. -/
structure World where
  links : HashMap Key ExternalAuthLink
  issued : Key → List TokenPair

/-- Each link has the tokens that the provider has issued for it last. -/
def World.start (links : HashMap Key ExternalAuthLink) : World where
  links := links
  issued key := ((links.lookup key).map (·.tokens)).toList

/-- The provider takes the refresh token that it has issued last, and issues new tokens for it. It
is `none` where the new refresh token is one that there has been. -/
def refresh (w : World) (choice : Choice) (key : Key) (refreshToken : String) :
    Option (Except ProviderError ExternalAuthTokenSet × World) :=
  match choice.refuses with
  | some error => some (.error error, w)
  | none =>
    if (w.issued key).head?.any (·.refreshToken = refreshToken) then
      if (w.issued key).any (·.refreshToken = choice.tokens.refreshToken) then none
      else
        some (.ok choice.tokens,
          { w with issued := Function.update w.issued key (choice.tokens.pair :: w.issued key) })
    else some (.error (.badRequest "bad_refresh_token"), w)

def exec : (op : Op) → World → Choice → Option (op.Response × World)
  | .nowUtc, w, choice => some (choice.now, w)
  | .listExternalAuthLinks userId, w, choice =>
    if choice.fails then some (.error .unavailable, w)
    else some (.ok (w.links.selectAll fun key _ => key.1 = userId), w)
  | .findExternalAuthLink userId providerId, w, choice =>
    if choice.fails then some (.error .unavailable, w)
    else some (.ok (w.links.lookup (userId, providerId)), w)
  | .upsertExternalAuthLink key link, w, choice =>
    if choice.fails then some (.error .unavailable, w)
    else some (.ok link, { w with links := w.links.insert key link })
  | .postRefresh key refreshToken, w, choice => refresh w choice key refreshToken
  | .validate _, w, choice => some (choice.validation, w)

/-! ## `ExternalAuthService` -/

abbrev Handler := Calls Op Op.Response

/-- The duration of `secs` seconds from the time on, if there is such a time. -/
def OffsetDateTime.within (now : OffsetDateTime) (secs : Int) : OffsetDateTime :=
  (now.add (secs * 10 ^ 9)).getD now

def externalAuthRefreshWindowSecs : Int := 60

def externalAuthProactiveRefreshWindowSecs : Int := 5 * 60

def isBlank (text : String) : Bool := (trim text.toList).isEmpty

def expiresWithin (secs : Int) (provider : ExternalAuthLinkProvider) (link : ExternalAuthLink)
    (now : OffsetDateTime) : Bool :=
  !(provider.noRefresh || !provider.allowRefresh || isBlank link.refreshToken) &&
    decide (link.expires ≤ OffsetDateTime.within now secs)

def needsRefresh : ExternalAuthLinkProvider → ExternalAuthLink → OffsetDateTime → Bool :=
  expiresWithin externalAuthRefreshWindowSecs

def needsProactiveRefresh : ExternalAuthLinkProvider → ExternalAuthLink → OffsetDateTime → Bool :=
  expiresWithin externalAuthProactiveRefreshWindowSecs

def findProvider (providers : List ExternalAuthLinkProvider) (providerId : String) :
    Option ExternalAuthLinkProvider :=
  providers.find? fun provider => eqIgnoreAsciiCase provider.id providerId

/-- `refresh_token` of the adapter. -/
def refreshToken (provider : ExternalAuthLinkProvider) (key : Key) (link : ExternalAuthLink) :
    Handler (Except ProviderError ExternalAuthTokenSet) :=
  if provider.noRefresh || !provider.allowRefresh then
    .done (.error (.badRequest "token expired, refreshing is disabled"))
  else if isBlank provider.tokenUrl then
    .done (.error (.internal "provider token endpoint is not configured"))
  else if isBlank link.refreshToken then
    .done (.error (.badRequest "token expired and refresh token is not set"))
  else .call (.postRefresh key link.refreshToken) .done

/-- The link with the provider's answer to a refresh. -/
def ExternalAuthLink.refreshed (link : ExternalAuthLink) (now : OffsetDateTime) :
    Except ProviderError ExternalAuthTokenSet → ExternalAuthLink
  | .ok tokens =>
    { link with
      accessToken := tokens.accessToken
      refreshToken := tokens.refreshToken
      tokenType := tokens.tokenType
      scopes := tokens.scopes
      expires := tokens.expiresAt
      refreshError := ""
      lastRefreshedAt := some now }
  | .error (.badRequest detail) =>
    { link with
      authenticated := false
      refreshError := detail
      validateError := detail }
  | .error (.internal detail) =>
    { link with
      authenticated := false
      validateError := detail }

/-- The link with what the provider says of its access token. -/
def ExternalAuthLink.validated (link : ExternalAuthLink) (now : OffsetDateTime) :
    Except ProviderError ExternalAuthValidation → ExternalAuthLink
  | .ok validation =>
    { link with
      authenticated := validation.authenticated
      validateError := validation.validateError
      user := validation.user
      installations := validation.installations
      appInstallable := validation.appInstallable
      lastValidatedAt := some now }
  | .error (.badRequest detail) =>
    { link with
      authenticated := false
      validateError := detail
      user := none
      installations := []
      appInstallable := false
      lastValidatedAt := some now }
  | .error (.internal detail) =>
    { link with
      authenticated := false
      validateError := detail
      lastValidatedAt := some now }

/-- The end of `reconcile_link`, from the validation on. -/
def validateAndStore (provider : ExternalAuthLinkProvider) (key : Key) (link : ExternalAuthLink)
    (now : OffsetDateTime) (detail changed : Bool) :
    Handler (Except StorageError ExternalAuthLink) :=
  if detail || provider.allowValidate then
    .call (.validate link.accessToken) fun
      (answer : Except ProviderError ExternalAuthValidation) =>
      .call (.upsertExternalAuthLink key (link.validated now answer)) .done
  else if changed then .call (.upsertExternalAuthLink key link) .done
  else .done (.ok link)

def reconcileLink (provider : ExternalAuthLinkProvider) (key : Key) (link : ExternalAuthLink)
    (detail : Bool) : Handler (Except StorageError ExternalAuthLink) :=
  .call .nowUtc fun (now : OffsetDateTime) =>
    if needsRefresh provider link now then
      (refreshToken provider key link).bind fun answer =>
        validateAndStore provider key (link.refreshed now answer) now detail true
    else validateAndStore provider key link now detail false

/-- The links one after the other; those of no configured provider are left as they are. -/
def reconcileLinks (providers : List ExternalAuthLinkProvider) :
    List (Key × ExternalAuthLink) → Handler (Except StorageError (List (Key × ExternalAuthLink)))
  | [] => .done (.ok [])
  | (key, link) :: rest =>
    match findProvider providers key.2 with
    | some provider =>
      (reconcileLink provider key link false).bindOk fun link' =>
        (reconcileLinks providers rest).bindOk fun links => .done (.ok ((key, link') :: links))
    | none =>
      (reconcileLinks providers rest).bindOk fun links => .done (.ok ((key, link) :: links))

def list (providers : List ExternalAuthLinkProvider) (userId : Uuid) :
    Handler (Except StorageError (List (Key × ExternalAuthLink))) :=
  .call (.listExternalAuthLinks userId) fun
    | .error e => .done (.error e)
    | .ok links => reconcileLinks providers links

def get (providers : List ExternalAuthLinkProvider) (userId : Uuid) (providerId : String) :
    Handler (Except StorageError (Option ExternalAuthLink)) :=
  match findProvider providers providerId with
  | none => .done (.ok none)
  | some provider =>
    .call (.findExternalAuthLink userId providerId) fun
      | .error e => .done (.error e)
      | .ok none => .done (.ok none)
      | .ok (some link) =>
        (reconcileLink provider (userId, providerId) link true).bindOk fun link' =>
          .done (.ok (some link'))

def refreshIfExpiring (provider : ExternalAuthLinkProvider) (key : Key) (token : ExternalAuthLink) :
    Handler (Except StorageError ExternalAuthLink) :=
  .call .nowUtc fun (now : OffsetDateTime) =>
    if needsProactiveRefresh provider token now then
      (refreshToken provider key token).bind fun
        | .error _ => .done (.ok token)
        | .ok tokens =>
          .call .nowUtc fun (now : OffsetDateTime) =>
            .call (.upsertExternalAuthLink key (token.refreshed now (.ok tokens))) .done
    else .done (.ok token)

/-- A caller of `refresh_if_expiring`, with the link as it is stored. -/
def refreshStored (providers : List ExternalAuthLinkProvider) (userId : Uuid)
    (providerId : String) : Handler (Except StorageError (Option ExternalAuthLink)) :=
  match findProvider providers providerId with
  | none => .done (.ok none)
  | some provider =>
    .call (.findExternalAuthLink userId providerId) fun
      | .error e => .done (.error e)
      | .ok none => .done (.ok none)
      | .ok (some link) =>
        (refreshIfExpiring provider (userId, providerId) link).bindOk fun link' =>
          .done (.ok (some link'))

def handle (providers : List ExternalAuthLinkProvider) : Request → Handler Unit
  | .list userId => (list providers userId).bind fun _ => .done ()
  | .get userId providerId => (get providers userId providerId).bind fun _ => .done ()
  | .refreshIfExpiring userId providerId =>
    (refreshStored providers userId providerId).bind fun _ => .done ()

/-- The service, over one store and the providers' own records. -/
def externalAuth (providers : List ExternalAuthLinkProvider) :
    Service Op Op.Response Unit World Choice Request Empty where
  exec := exec
  enter := handle providers
  outside w _ := w

/-- After a number of steps, of any requests and in any order. -/
def poolAfter (providers : List ExternalAuthLinkProvider) (links : HashMap Key ExternalAuthLink)
    (moves : List (Move Request Choice Empty)) : Pool World (Handler Unit) :=
  (externalAuth providers).program.run { shared := .start links, tasks := [] } moves

end Coderd.ExternalAuth
