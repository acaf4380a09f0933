import Coderd.Auth.Middleware
import Coderd.Foundation.Base64

namespace Coderd.Auth

open Coderd.Foundation Coderd.Rbac
open Coderd.CryptoKeys (Duration OffsetDateTime)

/-! ## New tokens -/

def sessionTokenLength : Nat := 32

/-- A new session token, of the bytes the generator fills in. -/
def newSessionToken (bytes : Vector UInt8 sessionTokenLength) : String :=
  Base64.encode bytes.toList

def defaultSessionKeyLifetimeSecs : UInt64 := 60 * 60 * 24

def defaultTokenKeyLifetimeSecs : UInt64 := 60 * 60 * 24 * 30

def regularMaxTokenLifetimeSecs : UInt64 := 60 * 60 * 24 * 30

def ownerMaxTokenLifetimeSecs : UInt64 := 60 * 60 * 24 * 365

/-! ## Creating a key -/

namespace Store

/-- The greatest lifetime of the user's tokens, in seconds. -/
def tokenConfig (store : Store) (userId : Uuid) : UInt64 :=
  match store.users.lookup userId with
  | some row =>
    if "owner" ∈ row.rbacRoles ∧ row.deleted = false then ownerMaxTokenLifetimeSecs
    else regularMaxTokenLifetimeSecs
  | none => regularMaxTokenLifetimeSecs

/-- The ids are unique, and for each user the names that are not empty are, without case. -/
def violatesUnique (store : Store) (key : ApiKeyRecord) : Bool :=
  (store.apiKeys.lookup key.id).isSome ||
    (key.tokenName ≠ "" ∧
      (HashMap.values store.apiKeys).any fun row =>
        row.userId = key.userId ∧ row.tokenName ≠ "" ∧
          eqIgnoreAsciiCase row.tokenName key.tokenName)

def createApiKey (store : Store) (key : ApiKeyRecord) : Option Store :=
  if store.violatesUnique key then none
  else some { store with apiKeys := store.apiKeys.insert key.id key.toApiKeyRow }

end Store

structure ApiKeyCreation where
  targetUser : UserRecord
  loginType : LoginType
  lifetime : Duration
  tokenName : String
  scopes : List String
  allowList : List ApiAllowListTarget

/-- The response has the key, and `keyId` goes to the audit log. -/
structure ApiKeyGeneration where
  keyId : String
  key : String
  deriving DecidableEq, Repr

/-- What the generator of random numbers gives to one request. -/
structure Randomness where
  secret : Vector UInt8 sessionTokenLength
  keyId : Uuid
  tokenName : Uuid

/-- The error of each store call of one creation, if it fails. -/
structure CreationFaults where
  resolveUser : Option String
  tokenConfig : Option String
  createApiKey : Option String

def Duration.asSecs (d : Duration) : Nat := d.nanos / 10 ^ 9

section

variable [UuidText] [Sha256]

/-- The row of a new key. Its id is not part of what the user gets. -/
def ApiKeyCreation.record (request : ApiKeyCreation) (randomness : Randomness)
    (now expiresAt : OffsetDateTime) : ApiKeyRecord where
  id := UuidText.display randomness.keyId
  hashedSecret := Sha256.digest (newSessionToken randomness.secret)
  userId := request.targetUser.id
  lastUsed := now
  expiresAt := expiresAt
  loginType := request.loginType
  scopes := request.scopes
  tokenName := request.tokenName
  lifetimeSeconds := Int64.ofNat (Duration.asSecs request.lifetime)
  allowList := request.allowList

def createApiKeyForUser (fault : Option String) (randomness : Randomness) (now : OffsetDateTime)
    (store : Store) (request : ApiKeyCreation) :
    Except AuthServiceError ApiKeyGeneration × Store :=
  let lifetimeSecs := Duration.asSecs request.lifetime
  if 2 ^ 63 ≤ lifetimeSecs then
    (.error (.storage "out of range integral type conversion attempted"), store)
  else
    match now.add (lifetimeSecs * 10 ^ 9) with
    | none => (.error (.storage "invalid token lifetime"), store)
    | some expiresAt =>
      match fault with
      | some e => (.error (.storage e), store)
      | none =>
        let key := request.record randomness now expiresAt
        match store.createApiKey key with
        | none =>
          (.error (.conflict "Failed to create API key." "A token with this name already exists."),
            store)
        | some store =>
          (.ok { keyId := key.id, key := newSessionToken randomness.secret }, store)

structure CreateTokenRequest where
  lifetime : Duration
  scope : String
  scopes : List String
  tokenName : String
  allowList : List ApiAllowListTarget

/-- The requested lifetime, or the default one. -/
def CreateTokenRequest.requestedLifetime (request : CreateTokenRequest) : Duration :=
  if request.lifetime.nanos = 0 then .fromSecs defaultTokenKeyLifetimeSecs else request.lifetime

/-- A request for a session key, or for a token. -/
inductive KeyRequest where
  | session
  | token (request : CreateTokenRequest)

def KeyRequest.lifetime : KeyRequest → Duration
  | .session => .fromSecs defaultSessionKeyLifetimeSecs
  | .token request => request.requestedLifetime

/-- Who asks, and for whom. -/
structure Requester where
  actor : Actor
  authenticatedUser : Uuid
  requestedUser : String

/-- The user a key is asked for, if the requester may. -/
def targetOf (fault : Option String) (store : Store) (requester : Requester) :
    Except AuthServiceError UserRecord :=
  match fault with
  | some e => .error (.storage e)
  | none =>
    match store.resolveUser requester.requestedUser requester.authenticatedUser with
    | none => .error (.notFound "User not found.")
    | some targetUser =>
      if !canAccessUser requester.actor targetUser.id then
        .error (.forbidden "You are not authorized to create API keys for this user.")
      else if targetUser.isSystem then
        .error (.forbidden "System users cannot receive API keys.")
      else .ok targetUser

def sessionCreation (targetUser : UserRecord) : ApiKeyCreation where
  targetUser := targetUser
  loginType := .password
  lifetime := .fromSecs defaultSessionKeyLifetimeSecs
  tokenName := ""
  scopes := ["all"]
  allowList := []

/-- The token's creation, with the defaults filled in, if its lifetime is within the limit. -/
def tokenCreation (randomness : Randomness) (maxTokenLifetimeSecs : UInt64)
    (targetUser : UserRecord) (request : CreateTokenRequest) :
    Except AuthServiceError ApiKeyCreation :=
  if (Duration.fromSecs maxTokenLifetimeSecs).nanos < request.requestedLifetime.nanos then
    .error (.badRequest "Failed to validate create API key request."
      ("lifetime must be less than or equal to " ++ toString maxTokenLifetimeSecs.toNat ++ "s"))
  else
    .ok
      { targetUser
        loginType := .token
        lifetime := request.requestedLifetime
        tokenName :=
          if request.tokenName = "" then
            "token-" ++ String.ofList (Uuid.toHex 32 randomness.tokenName.bits.toNat)
          else request.tokenName
        scopes :=
          if request.scopes ≠ [] then request.scopes
          else if request.scope ≠ "" then [request.scope]
          else ["all"]
        allowList := request.allowList }

def createSessionApiKey (faults : CreationFaults) (randomness : Randomness)
    (now : OffsetDateTime) (store : Store) (requester : Requester) :
    Except AuthServiceError ApiKeyGeneration × Store :=
  match targetOf faults.resolveUser store requester with
  | .error e => (.error e, store)
  | .ok targetUser =>
    createApiKeyForUser faults.createApiKey randomness now store (sessionCreation targetUser)

def createChecked (fault : Option String) (randomness : Randomness) (now : OffsetDateTime)
    (store : Store) (creation : Except AuthServiceError ApiKeyCreation) :
    Except AuthServiceError ApiKeyGeneration × Store :=
  match creation with
  | .error e => (.error e, store)
  | .ok creation => createApiKeyForUser fault randomness now store creation

def createTokenApiKey (faults : CreationFaults) (randomness : Randomness) (now : OffsetDateTime)
    (store : Store) (requester : Requester) (request : CreateTokenRequest) :
    Except AuthServiceError ApiKeyGeneration × Store :=
  match targetOf faults.resolveUser store requester with
  | .error e => (.error e, store)
  | .ok targetUser =>
    match faults.tokenConfig with
    | some e => (.error (.storage e), store)
    | none =>
      createChecked faults.createApiKey randomness now store
        (tokenCreation randomness (store.tokenConfig targetUser.id) targetUser request)

def createKey (faults : CreationFaults) (randomness : Randomness) (now : OffsetDateTime)
    (store : Store) (requester : Requester) :
    KeyRequest → Except AuthServiceError ApiKeyGeneration × Store
  | .session => createSessionApiKey faults randomness now store requester
  | .token request => createTokenApiKey faults randomness now store requester request

end

end Coderd.Auth
