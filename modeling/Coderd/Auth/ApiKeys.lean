import Coderd.CryptoKeys.Rotator
import Coderd.Rbac.Authorizer

namespace Coderd.Auth

open Coderd.Foundation Coderd.Rbac
open Coderd.CryptoKeys (OffsetDateTime oneHour)

/-- `Sha256::digest` of a text's bytes. -/
class Sha256 where
  digest : String → List UInt8

/-! ## Records -/

inductive ApiKeyScope where
  | all
  | applicationConnect
  deriving DecidableEq, Repr

/-- Any other text is no scope. -/
def ApiKeyScope.fromScopeString : String → Option ApiKeyScope
  | "all" => some .all
  | "application_connect" => some .applicationConnect
  | _ => none

inductive LoginType where
  | password | github | oidc | token | none | oauth2ProviderApp
  deriving DecidableEq, Repr

inductive UserStatus where
  | active
  | suspended
  | dormant
  deriving DecidableEq, Repr

def UserStatus.asStr : UserStatus → String
  | active => "active"
  | suspended => "suspended"
  | dormant => "dormant"

/-- A row of `users`, without its id. -/
structure UserRow where
  username : String
  rbacRoles : List String
  loginType : LoginType
  status : UserStatus
  lastSeenAt : Option OffsetDateTime
  deleted : Bool
  isSystem : Bool

structure UserRecord where
  id : Uuid
  username : String
  organizationIds : List Uuid
  roles : List String
  loginType : LoginType
  status : UserStatus
  lastSeenAt : Option OffsetDateTime
  isSystem : Bool

/-- `orgRoles` are in the form `role_name:org_id`. -/
structure AuthenticatedUser where
  id : Uuid
  username : String
  organizationIds : List Uuid
  roles : List String
  orgRoles : List String
  loginType : LoginType
  status : UserStatus
  lastSeenAt : Option OffsetDateTime
  deriving DecidableEq

def AuthenticatedUser.ofRecord (user : UserRecord) : AuthenticatedUser where
  id := user.id
  username := user.username
  organizationIds := user.organizationIds
  roles := user.roles
  orgRoles := []
  loginType := user.loginType
  status := user.status
  lastSeenAt := user.lastSeenAt

structure OrganizationMemberRecord where
  userId : Uuid
  organizationId : Uuid
  roles : List String

structure ApiAllowListTarget where
  typeName : String
  id : String
  deriving DecidableEq, Repr

/-- A row of `api_keys`, without its id. -/
structure ApiKeyRow where
  hashedSecret : List UInt8
  userId : Uuid
  lastUsed : OffsetDateTime
  expiresAt : OffsetDateTime
  loginType : LoginType
  scopes : List String
  tokenName : String
  lifetimeSeconds : Int64
  allowList : List ApiAllowListTarget

structure ApiKeyRecord extends ApiKeyRow where
  id : String

/-! ## The store -/

/-- The tables read and written here; `authSessions` is keyed by the token's hash. -/
structure Store where
  users : HashMap Uuid UserRow
  memberships : List OrganizationMemberRecord
  apiKeys : HashMap String ApiKeyRow
  authSessions : HashMap (List UInt8) Uuid

namespace Store

def listUserMemberships (store : Store) (userId : Uuid) : List OrganizationMemberRecord :=
  store.memberships.filter fun member => member.userId = userId

def userRecordFromRow (store : Store) (userId : Uuid) (row : UserRow) : UserRecord where
  id := userId
  username := row.username
  organizationIds := ((store.listUserMemberships userId).map (·.organizationId)).dedup
  roles := row.rbacRoles
  loginType := row.loginType
  status := row.status
  lastSeenAt := row.lastSeenAt
  isSystem := row.isSystem

def findUserById (store : Store) (userId : Uuid) : Option UserRecord :=
  match store.users.lookup userId with
  | some row => if row.deleted then none else some (store.userRecordFromRow userId row)
  | none => none

theorem findUserById_id {store : Store} {userId : Uuid} {user : UserRecord}
    (h : store.findUserById userId = some user) : user.id = userId := by
  unfold findUserById at h
  split at h
  · split at h
    · cases h
    · cases h
      rfl
  · cases h

/-- Usernames are compared without case. -/
def findUserByUsername (store : Store) (username : String) : Option UserRecord :=
  (store.users.entries.find? fun entry =>
      eqIgnoreAsciiCase entry.2.username username && !entry.2.deleted).map fun entry =>
    store.userRecordFromRow entry.1 entry.2

def findApiKeyById (store : Store) (id : String) : Option ApiKeyRecord :=
  (store.apiKeys.lookup id).map fun row => { row with id }

/-- An `UPDATE` of the key's row: no row, no change. -/
def modifyApiKey (store : Store) (id : String) (f : ApiKeyRow → ApiKeyRow) : Store :=
  match store.apiKeys.lookup id with
  | some row => { store with apiKeys := store.apiKeys.insert id (f row) }
  | none => store

def updateApiKeyLastUsed (store : Store) (id : String) (lastUsed expiresAt : OffsetDateTime) :
    Store :=
  store.modifyApiKey id fun row => { row with lastUsed, expiresAt }

def expireApiKey (store : Store) (id : String) (now : OffsetDateTime) : Store × Bool :=
  (store.modifyApiKey id fun row => { row with expiresAt := now },
    (store.apiKeys.lookup id).isSome)

def updateUserLastSeenAt (store : Store) (userId : Uuid) (lastSeenAt : OffsetDateTime) : Store :=
  match store.users.lookup userId with
  | some row =>
    { store with users := store.users.insert userId { row with lastSeenAt := some lastSeenAt } }
  | none => store

end Store

/-! ## Actors -/

def actorFromUser (user : AuthenticatedUser) : Actor where
  userId := user.id
  username := user.username
  organizationIds := user.organizationIds
  siteRoles := user.roles
  orgRoles := user.orgRoles
  groups := []
  scope := none
  scopeOverride := none

/-- `apiKey` is `none` for a session token. -/
structure AuthenticatedContext where
  user : AuthenticatedUser
  actor : Actor
  apiKey : Option ApiKeyRecord
  scopes : List ApiKeyScope

/-! ## Validation -/

/-- The response of a request that is not let in. Arithmetic out of range panics, and the
connection closes without one. -/
inductive Rejection where
  | unauthorized (message : String)
  | internalError (message detail : String)
  | panicked
  deriving DecidableEq, Repr

def apiKeyInvalid : Rejection := .unauthorized "API key is invalid."

def databaseError (detail : String) : Rejection :=
  .internalError "A database error occurred." detail

def lastUsedDebounceSecs : Int := 3600

/-- The recognised ones among the stored scopes. -/
def ApiKeyRecord.parsedScopes (key : ApiKeyRecord) : List ApiKeyScope :=
  key.scopes.filterMap ApiKeyScope.fromScopeString

/-- The checks of the row that was read: secret, expiry, scopes. -/
def checkApiKey [Sha256] (key : ApiKeyRecord) (keySecret : String) (now : OffsetDateTime) :
    Except Rejection (List ApiKeyScope) :=
  if Sha256.digest keySecret ≠ key.hashedSecret then .error apiKeyInvalid
  else if key.expiresAt < now then .error apiKeyInvalid
  else if key.parsedScopes = [] then .error (.unauthorized "API key has no recognised scopes.")
  else .ok key.parsedScopes

theorem checkApiKey_ok_iff [Sha256] {key : ApiKeyRecord} {keySecret : String} {now : OffsetDateTime}
    {scopes : List ApiKeyScope} :
    checkApiKey key keySecret now = .ok scopes ↔
      Sha256.digest keySecret = key.hashedSecret ∧ ¬ key.expiresAt < now ∧
        key.parsedScopes ≠ [] ∧ scopes = key.parsedScopes := by
  unfold checkApiKey
  by_cases hdigest : Sha256.digest keySecret = key.hashedSecret
  case neg => simp [hdigest]
  by_cases hexpired : key.expiresAt < now
  case pos => simp [hdigest, hexpired]
  by_cases hscopes : key.parsedScopes = []
  case pos => simp [hdigest, hexpired, hscopes]
  simp only [hdigest, hexpired, hscopes, ne_eq, not_true_eq_false, if_false, not_false_eq_true,
    true_and, Except.ok.injEq]
  exact eq_comm

/-- The last use is over an hour ago. -/
def ApiKeyRecord.lastUsedElapsed (key : ApiKeyRecord) (now : OffsetDateTime) : Bool :=
  lastUsedDebounceSecs < Int.tdiv (now.unixNanos - key.lastUsed.unixNanos) (10 ^ 9)

def ApiKeyRecord.lifetime (key : ApiKeyRecord) : Int := key.lifetimeSeconds.toInt * 10 ^ 9

/-- Over an hour of the lifetime is used up. -/
def ApiKeyRecord.expiryElapsed (key : ApiKeyRecord) (now : OffsetDateTime) : Bool :=
  key.expiresAt.unixNanos - now.unixNanos ≤ key.lifetime - oneHour

/-- The expiry, a whole lifetime from now if it has elapsed; `none` where the arithmetic of
the `time` crate panics. -/
def ApiKeyRecord.refreshedExpiresAt (key : ApiKeyRecord) (now : OffsetDateTime) :
    Option OffsetDateTime :=
  -- a `time::Duration` has `i64` seconds
  if key.lifetime - oneHour < -2 ^ 63 * 10 ^ 9 then none
  else if key.expiryElapsed now then now.add key.lifetime
  else some key.expiresAt

def ApiKeyRecord.refreshedLastUsed (key : ApiKeyRecord) (now : OffsetDateTime) : OffsetDateTime :=
  if key.lastUsedElapsed now then now else key.lastUsed

/-- The refreshed key, and whether anything had elapsed. -/
def refreshApiKey (key : ApiKeyRecord) (now : OffsetDateTime) : Option (ApiKeyRecord × Bool) :=
  (key.refreshedExpiresAt now).map fun expiresAt =>
    ({ key with lastUsed := key.refreshedLastUsed now, expiresAt },
      key.lastUsedElapsed now || key.expiryElapsed now)

theorem refreshApiKey_eq_some {key updatedKey : ApiKeyRecord} {now : OffsetDateTime}
    {changed : Bool}
    (h : refreshApiKey key now = some (updatedKey, changed)) :
    updatedKey.id = key.id ∧ updatedKey.userId = key.userId := by
  obtain ⟨expiresAt, -, hupdated⟩ := Option.map_eq_some_iff.mp h
  cases hupdated
  exact ⟨rfl, rfl⟩

/-- The error of each store call of one validation, if it fails. -/
structure Faults where
  findApiKeyById : Option String
  updateApiKeyLastUsed : Option String
  updateUserLastSeenAt : Option String
  findUserById : Option String
  listUserMemberships : Option String

def Faults.none : Faults := ⟨.none, .none, .none, .none, .none⟩

/-- The write of a refreshed key. Its failure is logged only. -/
def writeBack (fault : Option String) (store : Store) (updatedKey : ApiKeyRecord) : Store :=
  match fault with
  | some _ => store
  | none => store.updateApiKeyLastUsed updatedKey.id updatedKey.lastUsed updatedKey.expiresAt

/-- The write of the user's visit. Its failure is logged only. -/
def recordVisit (fault : Option String) (store : Store) (userId : Uuid) (now : OffsetDateTime) :
    Store :=
  match fault with
  | some _ => store
  | none => store.updateUserLastSeenAt userId now

def recordUse (faults : Faults) (store : Store) (updatedKey : ApiKeyRecord)
    (now : OffsetDateTime) : Store :=
  recordVisit faults.updateUserLastSeenAt (writeBack faults.updateApiKeyLastUsed store updatedKey)
    updatedKey.userId now

section

variable [UuidText] [Sha256]

/-- The roles in the user's organizations, in the form `role_name:org_id`. -/
def orgRolesOf (memberships : List OrganizationMemberRecord) : List String :=
  memberships.flatMap fun member =>
    member.roles.map fun role => role ++ ":" ++ UuidText.display member.organizationId

def contextOf (user : UserRecord) (memberships : List OrganizationMemberRecord)
    (updatedKey : ApiKeyRecord) (scopes : List ApiKeyScope) : AuthenticatedContext :=
  let authUser := { AuthenticatedUser.ofRecord user with orgRoles := orgRolesOf memberships }
  { user := authUser
    actor := actorFromUser authUser
    apiKey := some updatedKey
    scopes }

/-- The user of the key and the context of the request. -/
def loadContext (faults : Faults) (store : Store) (updatedKey : ApiKeyRecord)
    (scopes : List ApiKeyScope) : Except Rejection AuthenticatedContext :=
  match faults.findUserById with
  | some e => .error (databaseError e)
  | none =>
    match store.findUserById updatedKey.userId with
    | none => .error apiKeyInvalid
    | some user =>
      match faults.listUserMemberships with
      | some e => .error (databaseError e)
      | none => .ok (contextOf user (store.listUserMemberships user.id) updatedKey scopes)

def validateApiKey (faults : Faults) (now : OffsetDateTime) (store : Store)
    (keyId keySecret : String) : Except Rejection AuthenticatedContext × Store :=
  match faults.findApiKeyById with
  | some e => (.error (databaseError e), store)
  | none =>
    match store.findApiKeyById keyId with
    | none => (.error apiKeyInvalid, store)
    | some key =>
      match checkApiKey key keySecret now with
      | .error rejection => (.error rejection, store)
      | .ok scopes =>
        match refreshApiKey key now with
        | none => (.error .panicked, store)
        | some (updatedKey, changed) =>
          let store := if changed then recordUse faults store updatedKey now else store
          (loadContext faults store updatedKey scopes, store)

/-! ## Requests about keys -/

inductive AuthServiceError where
  | notFound (message : String)
  | forbidden (message : String)
  | badRequest (message detail : String)
  | conflict (message detail : String)
  | storage (detail : String)
  deriving DecidableEq, Repr

/-- The user a request names: itself, by id or by name. -/
def Store.resolveUser (store : Store) (requestedUser : String) (authenticatedUser : Uuid) :
    Option UserRecord :=
  if requestedUser = "me" then store.findUserById authenticatedUser
  else
    match UuidText.parseStr requestedUser with
    | some userId => store.findUserById userId
    | none => store.findUserByUsername requestedUser

end

def canAccessUser (actor : Actor) (targetUserId : Uuid) : Bool :=
  actor.hasSiteRole "owner" || actor.userId = targetUserId

end Coderd.Auth
