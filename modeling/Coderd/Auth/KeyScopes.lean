import Coderd.Auth.ApiKeys
import Coderd.Rbac.Policy

namespace Coderd.Auth

open Coderd.Foundation Coderd.Rbac
open Coderd.CryptoKeys (OffsetDateTime)

/-! ## What a validation lets in -/

section

variable [Sha256] {key : ApiKeyRecord} {keySecret : String} {now : OffsetDateTime}

/-- The row lets in that secret at that time: its hash, its expiry and its scopes are right,
and the refresh stays in range. -/
structure ApiKeyRecord.Passes (key : ApiKeyRecord) (keySecret : String) (now : OffsetDateTime) :
    Prop where
  digest : Sha256.digest keySecret = key.hashedSecret
  notExpired : ¬ key.expiresAt < now
  recognised : key.parsedScopes ≠ []
  inRange : (refreshApiKey key now).isSome = true

end

section

variable [UuidText] [Sha256] {key : ApiKeyRecord} {keyId keySecret : String}
  {now : OffsetDateTime} {faults : Faults} {store : Store} {ctx : AuthenticatedContext}

omit [Sha256] in
theorem loadContext_ok {updatedKey : ApiKeyRecord} {scopes : List ApiKeyScope}
    (h : loadContext faults store updatedKey scopes = .ok ctx) :
    ctx.actor = actorFromUser ctx.user ∧ ctx.user.id = updatedKey.userId := by
  unfold loadContext at h
  split at h
  · cases h
  split at h
  · cases h
  next user huser =>
    split at h
    · cases h
    · cases h
      exact ⟨rfl, Store.findUserById_id huser⟩

theorem validateApiKey_ok (hfind : store.findApiKeyById keyId = some key)
    (h : (validateApiKey faults now store keyId keySecret).1 = .ok ctx) :
    key.Passes keySecret now ∧ ctx.actor = actorFromUser ctx.user ∧
      ctx.user.id = key.userId := by
  unfold validateApiKey at h
  rw [hfind] at h
  split at h
  · cases h
  dsimp only at h
  split at h
  · cases h
  next scopes hcheck =>
    obtain ⟨hdigest, hexpired, hscopes, -⟩ := checkApiKey_ok_iff.mp hcheck
    split at h
    · cases h
    next updatedKey changed hrefresh =>
      obtain ⟨hactor, huser⟩ := loadContext_ok h
      refine ⟨⟨hdigest, hexpired, hscopes, ?_⟩, hactor, ?_⟩
      · rw [hrefresh]
        rfl
      · rw [huser, (refreshApiKey_eq_some hrefresh).2]

/-! ## What a key may do -/

/-- The scope names that stand for more than one permission. -/
def compositeScopes : List String := ["all", "application_connect", "no_user_data"]

/-- A scope of the form `resource:action` permits that action on that type at most, and a
name that is not listed permits nothing. -/
def scopePermits (s : String) (action : Action) (rt : ResourceType) : Bool :=
  match splitOnce s ':' with
  | some (resource, actionName) => resource = rt.asStr ∧ actionName = action.asStr
  | none => compositeScopes.contains s

/-- The key's allow list admits the object, as the authorizer reads such a list: an empty
one admits every object. -/
def ApiKeyRecord.allowsObject (key : ApiKeyRecord) (object : Object) : Bool :=
  Scope.allowsObject
    { Scope.scopeAll with
      allowList := key.allowList.map fun target => (target.typeName, target.id) }
    object

/-- Whatever a request with the key is let do, one of the key's scopes permits, and the
allow list admits the object. -/
def WithinScopes (key : ApiKeyRecord) : Prop :=
  ∀ (faults : Faults) (now : OffsetDateTime) (store : Store) (keySecret : String)
    (ctx : AuthenticatedContext) (action : Action) (object : Object),
    store.findApiKeyById key.id = some key →
    (validateApiKey faults now store key.id keySecret).1 = .ok ctx →
    authorize ctx.actor action object = .ok () →
    (∃ s ∈ key.scopes, authorize { ctx.actor with scope := some s } action object = .ok () ∧
      scopePermits s action object.resourceType = true) ∧
    key.allowsObject object = true

/-! ## One scope of a key -/

omit [UuidText] [Sha256] in
theorem anyMatch_congr {perms : List Permission} {action : Action} {negate : Bool}
    {object object' : Object} (h : object.resourceType = object'.resourceType) :
    anyMatch negate perms object action = anyMatch negate perms object' action := by
  unfold anyMatch
  rw [h]

omit [Sha256] in
theorem checkPermissionsInRole_named {name : Option String} {actor : Actor} {action : Action}
    {object : Object} :
    checkPermissionsInRole (Scope.named name).role actor action object =
      anyMatch false (Scope.named name).role.site object action := by
  obtain ⟨-, huser, horg⟩ := Scope.named_siteOnly name
  rw [checkPermissionsInRole, matchOrgLevel_of_empty horg, huser]
  simp [anyMatch]

omit [Sha256] in
/-- Under a named scope the scope's own permissions are asked for, and what the user's roles
and the access lists say. -/
theorem authorize_scoped_iff {user : AuthenticatedUser} {name : Option String} {action : Action}
    {object : Object} :
    authorize { actorFromUser user with scope := name } action object = .ok () ↔
      anyMatch false (Scope.named name).role.site object action = true ∧
      (∀ role ∈ (actorFromUser user).roles,
        hasDenyPermission role (actorFromUser user) action object = false) ∧
      ((∃ role ∈ (actorFromUser user).roles,
          checkPermissionsInRole role (actorFromUser user) action object = true) ∨
        aclAllows (actorFromUser user) action object = true) := by
  have hallow : (Scope.named name).allowsObject object = true := by
    refine Scope.allowsObject_of_wildcard ?_
    rw [Scope.named_allowList]
    exact List.mem_singleton.mpr rfl
  rw [authorize_ok_iff]
  simp only [Actor.effectiveScope, actorFromUser, hallow, checkPermissionsInRole_named, true_and]
  rfl

omit [UuidText] [Sha256] in
/-- The full scope, which is also the one of an actor without a scope. -/
theorem anyMatch_scopeAll {action : Action} {object : Object} :
    anyMatch false Scope.scopeAll.role.site object action = true := by
  simp [anyMatch, Scope.scopeAll, siteRole, Permission.allowAll, Permission.matchesOn]

/-- The scope permits the action on the type, and has a permission for it. -/
def scopeCovers (s : String) (action : Action) (rt : ResourceType) : Bool :=
  scopePermits s action rt && anyMatch false (Scope.named (some s)).role.site (Object.new rt) action

omit [UuidText] [Sha256] in
theorem scopeCovers_all (action : Action) (rt : ResourceType) :
    scopeCovers "all" action rt = true := by
  rw [scopeCovers, Bool.and_eq_true]
  exact ⟨by rfl, anyMatch_scopeAll⟩

/-! ## Keys that hold nothing back -/

/-- Every action on every type is covered by some scope of the key, and the allow list
admits every object. -/
structure ApiKeyRecord.Unrestricted (key : ApiKeyRecord) : Prop where
  covers : ∀ action rt, ∃ s ∈ key.scopes, scopeCovers s action rt = true
  allowList : key.allowList = [] ∨ ⟨wildcard, wildcard⟩ ∈ key.allowList

omit [Sha256] in
theorem ApiKeyRecord.Unrestricted.allowsObject {object : Object} (h : key.Unrestricted) :
    key.allowsObject object = true := by
  unfold ApiKeyRecord.allowsObject
  obtain hempty | hwildcard := h.allowList
  · rw [hempty]
    rfl
  · exact Scope.allowsObject_of_wildcard (List.mem_map.mpr ⟨_, hwildcard, rfl⟩)

theorem ApiKeyRecord.Unrestricted.withinScopes (h : key.Unrestricted) : WithinScopes key := by
  intro faults now store keySecret ctx action object hfind hvalid hauth
  obtain ⟨-, hactor, -⟩ := validateApiKey_ok hfind hvalid
  obtain ⟨s, hs, hcovers⟩ := h.covers action object.resourceType
  obtain ⟨hpermits, hmatch⟩ := Bool.and_eq_true _ _ |>.mp hcovers
  rw [hactor] at hauth ⊢
  obtain ⟨-, hgranted⟩ := authorize_scoped_iff.mp hauth
  refine ⟨⟨s, hs, authorize_scoped_iff.mpr ⟨?_, hgranted⟩, hpermits⟩, h.allowsObject⟩
  rw [← hmatch]
  exact anyMatch_congr rfl

/-- The keys the service issues by default stay within their scopes: they hold nothing back. -/
theorem withinScopes_of_all (hall : "all" ∈ key.scopes) (hlist : key.allowList = []) :
    WithinScopes key :=
  ApiKeyRecord.Unrestricted.withinScopes
    ⟨fun action rt => ⟨"all", hall, scopeCovers_all action rt⟩, .inl hlist⟩

/-! ## Probing a key with an object that names its owner -/

/-- An object of the type without id, whose access list names the user for the action. -/
def probe (userId : Uuid) (action : Action) (rt : ResourceType) : Object :=
  (Object.new rt).withAclUserList (AList.insert (UuidText.display userId) [action] ∅)

/-- A user without any role. -/
def plainUser : UserRow where
  username := "member"
  rbacRoles := []
  loginType := .password
  status := .active
  lastSeenAt := none
  deleted := false
  isSystem := false

/-- The key and its owner, who has no role. -/
def storeOf (key : ApiKeyRecord) : Store where
  users := AList.insert key.userId plainUser ∅
  memberships := []
  apiKeys := AList.insert key.id key.toApiKeyRow ∅
  authSessions := ∅

omit [UuidText] [Sha256] in
theorem findApiKeyById_storeOf : (storeOf key).findApiKeyById key.id = some key := by
  unfold Store.findApiKeyById
  rw [show (storeOf key).apiKeys.lookup key.id = some key.toApiKeyRow from AList.lookup_insert _]
  rfl

omit [Sha256] in
theorem loadContext_of_row {updatedKey : ApiKeyRecord} {scopes : List ApiKeyScope} {row : UserRow}
    (hrow : store.users.lookup updatedKey.userId = some row) (hdeleted : row.deleted = false)
    (hmemberships : store.memberships = []) :
    ∃ ctx, loadContext .none store updatedKey scopes = .ok ctx ∧
      ctx.user.roles = row.rbacRoles ∧ ctx.user.orgRoles = [] := by
  simp only [loadContext, Faults.none, Store.findUserById, hrow, hdeleted, Bool.false_eq_true,
    if_false]
  refine ⟨_, rfl, rfl, ?_⟩
  simp [contextOf, Store.listUserMemberships, hmemberships, orgRolesOf]

omit [UuidText] [Sha256] in
theorem writeBack_users (fault : Option String) (store : Store) (updatedKey : ApiKeyRecord) :
    (writeBack fault store updatedKey).users = store.users ∧
      (writeBack fault store updatedKey).memberships = store.memberships := by
  unfold writeBack
  split
  · exact ⟨rfl, rfl⟩
  · unfold Store.updateApiKeyLastUsed Store.modifyApiKey
    split <;> exact ⟨rfl, rfl⟩

omit [UuidText] [Sha256] in
/-- A recorded use leaves the user's row as it was, but for the time of the visit. -/
theorem recordUse_users (faults : Faults) (now : OffsetDateTime) {updatedKey : ApiKeyRecord}
    {row : UserRow} (hrow : store.users.lookup updatedKey.userId = some row) :
    ∃ lastSeenAt, (recordUse faults store updatedKey now).users.lookup updatedKey.userId =
      some { row with lastSeenAt } ∧
      (recordUse faults store updatedKey now).memberships = store.memberships := by
  obtain ⟨husers, hmemberships⟩ :=
    writeBack_users faults.updateApiKeyLastUsed store updatedKey
  unfold recordUse recordVisit
  split
  · exact ⟨row.lastSeenAt, by rw [husers, hrow], hmemberships⟩
  · unfold Store.updateUserLastSeenAt
    rw [husers, hrow]
    exact ⟨some now, AList.lookup_insert _, hmemberships⟩

/-- With no call failing, the owner is let in. -/
theorem validateApiKey_storeOf (h : key.Passes keySecret now) :
    ∃ ctx, (validateApiKey .none now (storeOf key) key.id keySecret).1 = .ok ctx ∧
      ctx.user.roles = [] ∧ ctx.user.orgRoles = [] := by
  obtain ⟨⟨updatedKey, changed⟩, hrefresh⟩ := Option.isSome_iff_exists.mp h.inRange
  have hcheck := checkApiKey_ok_iff.mpr ⟨h.digest, h.notExpired, h.recognised, rfl⟩
  obtain ⟨-, huserId⟩ := refreshApiKey_eq_some hrefresh
  have hrow : (storeOf key).users.lookup updatedKey.userId = some plainUser := by
    rw [huserId]
    exact AList.lookup_insert _
  unfold validateApiKey
  rw [findApiKeyById_storeOf]
  simp only [Faults.none, hcheck, hrefresh]
  cases changed with
  | false => exact loadContext_of_row hrow rfl rfl
  | true =>
    obtain ⟨lastSeenAt, hused, hmemberships⟩ := recordUse_users .none now hrow
    exact loadContext_of_row hused rfl hmemberships

omit [Sha256] in
theorem authorize_probe {user : AuthenticatedUser} (hroles : user.roles = [])
    (horg : user.orgRoles = []) (action : Action) (rt : ResourceType) :
    authorize (actorFromUser user) action (probe user.id action rt) = .ok () := by
  have hnone : (actorFromUser user).roles = [] := by
    simp [Actor.roles, actorFromUser, hroles, horg]
  have hacl : aclAllows (actorFromUser user) action (probe user.id action rt) = true := by
    simp only [aclAllows, Bool.or_eq_true]
    left
    rw [show (probe user.id action rt).aclUserList.lookup
      (UuidText.display (actorFromUser user).userId) = some [action] from AList.lookup_insert _]
    simp
  refine authorize_scoped_iff.mpr ⟨anyMatch_scopeAll, ?_, .inr hacl⟩
  intro role hrole
  rw [hnone] at hrole
  cases hrole

omit [Sha256] in
/-- Only a full wildcard admits an object of the wildcard type without an id. -/
theorem allowList_of_allowsObject {object : Object} (htype : object.resourceType = .wildcard)
    (hid : object.id = none) (h : key.allowsObject object = true) :
    key.allowList = [] ∨ ⟨wildcard, wildcard⟩ ∈ key.allowList := by
  unfold ApiKeyRecord.allowsObject Scope.allowsObject at h
  rw [Bool.or_eq_true, List.any_eq_true] at h
  obtain hempty | ⟨pair, hpair, hentry⟩ := h
  · exact .inl (by simpa using hempty)
  · right
    obtain ⟨⟨typeName, id⟩, htarget, rfl⟩ := List.mem_map.mp hpair
    rw [htype, hid] at hentry
    obtain ⟨rfl, rfl⟩ : typeName = wildcard ∧ id = wildcard := by
      simpa [ResourceType.asStr, wildcard] using hentry
    exact htarget

theorem WithinScopes.unrestricted (h : WithinScopes key) (hpasses : key.Passes keySecret now) :
    key.Unrestricted := by
  obtain ⟨ctx, hvalid, hroles, horg⟩ := validateApiKey_storeOf hpasses
  obtain ⟨-, hactor, -⟩ := validateApiKey_ok findApiKeyById_storeOf hvalid
  have hprobe : ∀ action rt, (∃ s ∈ key.scopes, scopeCovers s action rt = true) ∧
      key.allowsObject (probe ctx.user.id action rt) = true := by
    intro action rt
    have hauth := authorize_probe hroles horg action rt
    rw [← hactor] at hauth
    obtain ⟨⟨s, hs, hscoped, hpermits⟩, hallow⟩ :=
      h .none now _ keySecret ctx action _ findApiKeyById_storeOf hvalid hauth
    rw [hactor, authorize_scoped_iff] at hscoped
    refine ⟨⟨s, hs, ?_⟩, hallow⟩
    rw [scopeCovers, Bool.and_eq_true]
    exact ⟨hpermits, (anyMatch_congr rfl).symm.trans hscoped.1⟩
  exact ⟨fun action rt => (hprobe action rt).1,
    allowList_of_allowsObject rfl rfl (hprobe .read .wildcard).2⟩

/-- A key stays within its scopes exactly if no request passes with it or it holds nothing
back: what it holds back is not enforced. -/
theorem withinScopes_iff (key : ApiKeyRecord) :
    WithinScopes key ↔
      ((∃ keySecret now, key.Passes keySecret now) → key.Unrestricted) := by
  constructor
  · rintro h ⟨keySecret, now, hpasses⟩
    exact h.unrestricted hpasses
  · intro h faults now store keySecret ctx action object hfind hvalid hauth
    obtain ⟨hpasses, -, -⟩ := validateApiKey_ok hfind hvalid
    exact (h ⟨keySecret, now, hpasses⟩).withinScopes faults now store keySecret ctx action object
      hfind hvalid hauth

end

/-! ## A key for connecting to applications -/

/-- The digest of the one secret that is presented. -/
@[reducible] def seededDigest : Sha256 where
  digest secret :=
    if secret = "0123456789abcdefghijkl" then
      [38, 89, 75, 162, 199, 62, 188, 23, 32, 71, 242, 48, 86, 99, 188, 44,
        94, 111, 246, 10, 136, 24, 46, 239, 67, 227, 83, 244, 143, 201, 91, 148]
    else []

def seededKey : ApiKeyRecord where
  id := "abcdefghij"
  hashedSecret :=
    [38, 89, 75, 162, 199, 62, 188, 23, 32, 71, 242, 48, 86, 99, 188, 44,
      94, 111, 246, 10, 136, 24, 46, 239, 67, 227, 83, 244, 143, 201, 91, 148]
  userId := ⟨1⟩
  lastUsed := .unixEpoch
  expiresAt := ⟨86400 * 10 ^ 9, by decide, by decide⟩
  loginType := .token
  scopes := ["application_connect"]
  tokenName := "apps"
  lifetimeSeconds := 86400
  allowList := []

/-- The key belongs to an owner. -/
def seededStore : Store :=
  { storeOf seededKey with
    users := AList.insert ⟨1⟩ { plainUser with username := "owner", rbacRoles := ["owner"] } ∅ }

def seededOwner : AuthenticatedUser where
  id := ⟨1⟩
  username := "owner"
  organizationIds := []
  roles := ["owner"]
  orgRoles := []
  loginType := .password
  status := .active
  lastSeenAt := none

/-- The owner's application key reads a workspace, which no scope of the key permits. -/
theorem not_withinScopes_application_connect :
    ¬ @WithinScopes Uuid.hyphenated seededDigest seededKey := by
  let := Uuid.hyphenated
  let := seededDigest
  intro h
  have hvalid : (validateApiKey .none .unixEpoch seededStore "abcdefghij"
      "0123456789abcdefghijkl").1 = .ok
        { user := seededOwner
          actor := actorFromUser seededOwner
          apiKey := some seededKey
          scopes := [.applicationConnect] } := by
    rfl
  have hread : authorize (actorFromUser seededOwner) .read (Object.new .workspace) = .ok () := by
    rfl
  obtain ⟨⟨s, hs, hscoped, -⟩, -⟩ := h _ _ _ _ _ .read (Object.new .workspace) rfl hvalid hread
  obtain rfl : s = "application_connect" := List.mem_singleton.mp hs
  rw [authorize_scoped_iff] at hscoped
  exact absurd hscoped.1 (by decide)

end Coderd.Auth
