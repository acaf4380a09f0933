import Coderd.Auth.SessionCache
import Mathlib.Data.List.DropRight

namespace Coderd.Auth

open Coderd.Foundation Coderd.Rbac
open Coderd.CryptoKeys (OffsetDateTime)

/-! ## Headers -/

def isVisibleAscii (c : Char) : Bool := (32 ≤ c.toNat ∧ c.toNat < 127) ∨ c = '\t'

/-- A header value whose text can be read. -/
structure HeaderValue where
  text : String
  visible : text.toList.all isVisibleAscii = true

def HeaderValue.fromStr (text : String) : Option HeaderValue :=
  if h : text.toList.all isVisibleAscii = true then some ⟨text, h⟩ else none

/-- The headers a token may be in; a value whose text cannot be read is left out. -/
structure HeaderMap where
  coderSessionToken : Option HeaderValue
  cookie : Option HeaderValue
  authorization : Option HeaderValue

def sessionTokenCookie : String := "coder_session_token"

def trim (text : List Char) : List Char :=
  (text.dropWhile Char.isWhitespace).rdropWhile Char.isWhitespace

def cookieFromHeaders (headers : HeaderMap) (name : String) : Option String :=
  headers.cookie.bind fun cookies =>
    (cookies.text.toList.splitOn ';').findSome? fun entry =>
      match splitOnce (String.ofList (trim entry)) '=' with
      | some (candidateName, candidateValue) =>
        if candidateName = name then some candidateValue else none
      | none => none

def nonEmpty (text : String) : Option String := if text = "" then none else some text

/-- The token after a scheme that reads `bearer` in whatever case. -/
def bearerToken (headers : HeaderMap) : Option String :=
  headers.authorization.bind fun value =>
    match value.text.toList.span fun c => !c.isWhitespace with
    | (_, []) => none
    | (scheme, _ :: rest) =>
      if eqIgnoreAsciiCase (String.ofList scheme) "bearer" then
        nonEmpty (String.ofList (trim rest))
      else none

def extractTokenFromHeaders (headers : HeaderMap) : Option String :=
  (headers.coderSessionToken.bind fun value => nonEmpty value.text) <|>
    ((cookieFromHeaders headers sessionTokenCookie).bind nonEmpty) <|> bearerToken headers

def apiKeyIdLen : Nat := 10

def apiKeySecretLen : Nat := 22

/-- The id and the secret of a key, if the token is of the form `{10}-{22}` in bytes. -/
def splitApiToken (token : String) : Option (String × String) :=
  match splitOnce token '-' with
  | none => none
  | some (id, rest) =>
    if rest.contains '-' then none
    else if id.utf8ByteSize = apiKeyIdLen ∧ rest.utf8ByteSize = apiKeySecretLen then
      some (id, rest)
    else none

/-! ## Session tokens -/

structure Service where
  store : Store
  cache : SessionCache

section

variable [UuidText] [Sha256]

/-- `AuthService::authenticate`, with the error of its store call. -/
def authenticate (fault : Option String) (clock : Nat) (service : Service) (headers : HeaderMap) :
    Except String (Option AuthenticatedRequest) × Service :=
  match (headers.coderSessionToken.map (·.text)) <|>
      cookieFromHeaders headers sessionTokenCookie with
  | none => (.ok none, service)
  | some sessionToken =>
    let sessionTokenHash := Sha256.digest sessionToken
    match service.cache.get sessionTokenHash clock with
    | some user => (.ok (some (.of sessionToken user)), service)
    | none =>
      match fault with
      | some e => (.error e, service)
      | none =>
        match service.store.findUserBySessionTokenHash sessionTokenHash with
        | none => (.ok none, service)
        | some user =>
          let (cache, count) := service.cache.count
          (.ok (some (.of sessionToken user)),
            { service with cache := cache.insertCounted sessionTokenHash user count clock })

/-! ## The middleware -/

/-- The error of each store call of one request, if it fails. -/
structure RequestFaults extends Faults where
  findUserBySessionTokenHash : Option String
  updateUserStatus : Option String

def RequestFaults.none : RequestFaults where
  toFaults := .none
  findUserBySessionTokenHash := .none
  updateUserStatus := .none

omit [UuidText] [Sha256] in
def Store.updateUserStatus (store : Store) (userId : Uuid) (status : UserStatus) :
    Store × Option UserRecord :=
  match store.users.lookup userId with
  | some row =>
    if row.deleted then (store, none)
    else
      let store := { store with users := store.users.insert userId { row with status } }
      (store, store.findUserById userId)
  | none => (store, none)

omit [UuidText] [Sha256] in
/-- If the authenticated user is dormant, activate them. -/
def maybeActivateDormant (fault : Option String) (store : Store) (ctx : AuthenticatedContext) :
    Except Rejection AuthenticatedContext × Store :=
  if ctx.user.status ≠ .dormant then (.ok ctx, store)
  else
    match fault with
    | some e => (.error (.internalError "Failed to activate dormant user." e), store)
    | none =>
      match store.updateUserStatus ctx.user.id .active with
      | (store, some _) => (.ok { ctx with user := { ctx.user with status := .active } }, store)
      | (store, none) => (.error (.unauthorized "User not found."), store)

/-- Without a token a request passes as it is, for public routes. -/
inductive Outcome where
  | anonymous
  | rejected (rejection : Rejection)
  | admitted (ctx : AuthenticatedContext)

/-- The token as a session token, in a header map of its own. -/
def sessionContext (fault : Option String) (clock : Nat) (service : Service) (token : String) :
    Except Rejection AuthenticatedContext × Service :=
  let headers : HeaderMap :=
    { coderSessionToken := HeaderValue.fromStr token, cookie := none, authorization := none }
  match authenticate fault clock service headers with
  | (.ok (some request), service) =>
    (.ok
      { user := request.user
        actor := actorFromUser request.user
        apiKey := none
        scopes := [.all] }, service)
  | (.ok none, service) => (.error (.unauthorized "Missing or invalid session token."), service)
  | (.error e, service) => (.error (.internalError "Internal authentication error." e), service)

def tokenContext (faults : RequestFaults) (now : OffsetDateTime) (clock : Nat) (service : Service)
    (token : String) : Except Rejection AuthenticatedContext × Service :=
  match splitApiToken token with
  | some (keyId, keySecret) =>
    let (result, store) := validateApiKey faults.toFaults now service.store keyId keySecret
    (result, { service with store })
  | none => sessionContext faults.findUserBySessionTokenHash clock service token

def apiKeyAuthMiddleware (faults : RequestFaults) (now : OffsetDateTime) (clock : Nat)
    (service : Service) (headers : HeaderMap) : Outcome × Service :=
  match extractTokenFromHeaders headers with
  | none => (.anonymous, service)
  | some token =>
    match tokenContext faults now clock service token with
    | (.error rejection, service) => (.rejected rejection, service)
    | (.ok ctx, service) =>
      match maybeActivateDormant faults.updateUserStatus service.store ctx with
      | (.error rejection, store) => (.rejected rejection, { service with store })
      | (.ok ctx, store) =>
        if ctx.user.status ≠ .active then
          (.rejected (.unauthorized ("User is not active (status = " ++ ctx.user.status.asStr
            ++ "). Contact an admin to reactivate your account.")), { service with store })
        else (.admitted ctx, { service with store })

end

end Coderd.Auth
