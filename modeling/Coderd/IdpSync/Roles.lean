import Mathlib.Data.String.Basic
import Coderd.Foundation.Frame
import Coderd.Foundation.Json
import Coderd.Foundation.SortedSet
import Coderd.IdpSync.Organizations

namespace Coderd.IdpSync

open Coderd.Foundation Coderd.DbAuthz

/-! ## Claims -/

/-- The first of equal items stays. -/
def dedupeStable (items : List String) : List String :=
  (items.foldl (fun (kept : HashSet String × List String) item =>
    if item ∈ kept.1 then kept else (kept.1.insert item, kept.2 ++ [item])) (∅, [])).2

def parseStringSlice (field : String) (mergedClaims : Json) : List String :=
  match mergedClaims.get field with
  | some (.array items) => dedupeStable (items.filterMap Json.asStr)
  -- some providers make a bare string of a list of one
  | some (.string s) => if s.isEmpty then [] else dedupeStable [s]
  | _ => []

def parseRoleClaims (field : String) (mergedClaims : Json) : List String :=
  if field.isEmpty then [] else parseStringSlice field mergedClaims

/-! ## The store -/

structure RoleSyncSettings where
  field : String := ""
  mapping : HashMap String (List String) := ∅

/-- The tables of the sync, with the column `rbac_roles` of the users and the site
configuration. -/
structure RoleDb (lower : String → String) where
  tables : Db lower
  rbacRoles : HashMap Uuid (List String)
  siteConfigs : HashMap String String

namespace RoleDb

variable {lower : String → String}

/-- The site roles of a user who has not been deleted. -/
def siteRoles (db : RoleDb lower) (userId : Uuid) : Option (List String) :=
  if db.tables.live userId then some ((db.rbacRoles.lookup userId).getD []) else none

def setSiteRoles (db : RoleDb lower) (userId : Uuid) (roles : List String) : RoleDb lower :=
  { db with rbacRoles := db.rbacRoles.insert userId roles }

def setMemberRoles (db : RoleDb lower) (organizationId userId : Uuid) (roles : List String) :
    RoleDb lower :=
  { db with
    tables :=
      { db.tables with
        organizationMembers :=
          db.tables.organizationMembers.modify (organizationId, userId) fun row =>
            { row with roles } } }

end RoleDb

variable {lower : String → String}

/-- Of the record only the roles are read. -/
def findUserById (userId : Uuid) : Effect (RoleDb lower) StorageError (Option (List String)) :=
  fun db => (.ok (db.siteRoles userId), db)

def updateUserRoles (userId : Uuid) (roles : List String) :
    Effect (RoleDb lower) StorageError (Option (List String)) := fun db =>
  if db.tables.live userId then
    findUserById userId (db.setSiteRoles userId roles)
  else (.ok none, db)

def listMemberships (userId : Uuid) :
    Effect (RoleDb lower) StorageError (List ((_ : Uuid × Uuid) × OrganizationMemberRow)) :=
  fun db => (.ok (db.tables.selectUserMemberships userId), db)

def roleSyncSettingsKey [UuidText] (orgId : Uuid) : String :=
  UuidText.display orgId ++ ":role-sync-settings"

/-- `serde_json::from_str` at the settings, with the text of its error. -/
abbrev SettingsFromStr := String → Except String RoleSyncSettings

def roleSyncSettings [UuidText] (fromStr : SettingsFromStr) (orgId : Uuid) :
    Effect (RoleDb lower) StorageError RoleSyncSettings := fun db =>
  match db.siteConfigs.lookup (roleSyncSettingsKey orgId) with
  | some encoded =>
    match fromStr encoded with
    | .ok settings => (.ok settings, db)
    | .error message => (.error (.invalidData message), db)
  | none => (.ok {}, db)

def updateOrganizationMemberRoles (organizationId userId : Uuid) (roles : List String) :
    Effect (RoleDb lower) StorageError (Option OrganizationMemberRow) := fun db =>
  if (db.tables.organizationMembers.lookup (organizationId, userId)).isNone then (.ok none, db)
  else
    let db := db.setMemberRoles organizationId userId roles
    (.ok (findOrganizationMember db.tables organizationId userId), db)

/-! ## The sync -/

/-- The implicit role of every member. -/
def orgMemberRole : String := "organization-member"

structure RoleSyncResult where
  siteAdded : Nat := 0
  siteRemoved : Nat := 0
  orgAdded : Nat := 0
  orgRemoved : Nat := 0
  deriving DecidableEq

/-- The calls of a pass to the store. -/
inductive RoleCall where
  | findUser
  | updateUserRoles
  | listMemberships
  | roleSyncSettings (orgId : Uuid)
  | updateMemberRoles (orgId : Uuid)
  deriving DecidableEq

/-- What the code does not decide: which calls fail. -/
structure RoleRun where
  fault : RoleCall → Option (Effect.Fault StorageError)

/-- How many of `expected` are new and how many of `existing` go. -/
def countDiff (existing expected : List String) : Nat × Nat :=
  ((expected.filter fun role => decide (role ∉ existing)).length,
    (existing.filter fun role => decide (role ∉ expected)).length)

/-- An update that fails is logged and counts for nothing. -/
def applyRoles {σ α : Type} (existing expected : List String) (update : Effect σ StorageError α) :
    Effect σ StorageError (Nat × Nat) :=
  if existing = expected then pure (0, 0)
  else do
    let updated ← Effect.result update
    match updated with
    | .ok _ => pure (countDiff existing expected)
    | .error _ => pure (0, 0)

def syncSiteWideRoles (run : RoleRun) (userId : Uuid) (rawSiteClaims : List String) :
    Effect (RoleDb lower) StorageError (Nat × Nat) := do
  let user ← Effect.through (run.fault .findUser) (findUserById userId)
  match user with
  | none => pure (0, 0)
  | some roles =>
    let existing := uniqueSorted roles
    let expected := uniqueSorted rawSiteClaims
    applyRoles existing expected
      (Effect.through (run.fault .updateUserRoles) (updateUserRoles userId expected))

/-- A claim with a mapping stands for the mapped names. -/
def expandMapping (settings : RoleSyncSettings) (claimRoles : List String) : List String :=
  claimRoles.flatMap fun role => (settings.mapping.lookup role).getD [role]

def withoutMemberRole (roles : List String) : List String :=
  uniqueSorted (roles.filter fun role => decide (role ≠ orgMemberRole))

def syncOrgRoles (run : RoleRun) (userId orgId : Uuid) (mergedClaims : Json)
    (settings : RoleSyncSettings) (existingRoles : List String) :
    Effect (RoleDb lower) StorageError (Nat × Nat) :=
  let claimRoles := parseRoleClaims settings.field mergedClaims
  let expected := withoutMemberRole (expandMapping settings claimRoles)
  let existing := withoutMemberRole existingRoles
  applyRoles existing expected
    (Effect.through (run.fault (.updateMemberRoles orgId))
      (updateOrganizationMemberRoles orgId userId expected))

/-- One turn of the loop over the memberships. -/
def syncMembership [UuidText] (fromStr : SettingsFromStr) (run : RoleRun) (userId : Uuid)
    (mergedClaims : Json) (result : RoleSyncResult)
    (membership : (_ : Uuid × Uuid) × OrganizationMemberRow) :
    Effect (RoleDb lower) StorageError RoleSyncResult := do
  let orgId := membership.1.1
  let loaded ← Effect.result <| Effect.through (run.fault (.roleSyncSettings orgId))
    (roleSyncSettings fromStr orgId)
  match loaded with
  | .error _ => pure result
  | .ok settings =>
    if settings.field.isEmpty then pure result
    else do
      let synced ← Effect.result
        (syncOrgRoles run userId orgId mergedClaims settings membership.2.roles)
      match synced with
      | .ok counts =>
        pure { result with
          orgAdded := result.orgAdded + counts.1
          orgRemoved := result.orgRemoved + counts.2 }
      | .error _ => pure result

/-- The first stage of `sync_roles`. -/
def syncSite (run : RoleRun) (userId : Uuid) (rawSiteClaims : List String) (syncSiteWide : Bool) :
    Effect (RoleDb lower) StorageError (Nat × Nat) :=
  if syncSiteWide then syncSiteWideRoles run userId rawSiteClaims else pure (0, 0)

/-- `sync_roles`, with the errors of the store as they come. -/
def reconcileRoles [UuidText] (fromStr : SettingsFromStr) (run : RoleRun) (userId : Uuid)
    (mergedClaims : Json) (rawSiteClaims : List String) (syncSiteWide : Bool) :
    Effect (RoleDb lower) StorageError RoleSyncResult := do
  let site ← syncSite run userId rawSiteClaims syncSiteWide
  let memberships ← Effect.through (run.fault .listMemberships) (listMemberships userId)
  memberships.foldlM (syncMembership fromStr run userId mergedClaims)
    { siteAdded := site.1
      siteRemoved := site.2 }

def syncRoles [UuidText] (fromStr : SettingsFromStr) (run : RoleRun) (userId : Uuid)
    (mergedClaims : Json) (rawSiteClaims : List String) (syncSiteWide : Bool) :
    Effect (RoleDb lower) IdpSyncError RoleSyncResult :=
  (reconcileRoles fromStr run userId mergedClaims rawSiteClaims syncSiteWide).mapError .storage

end Coderd.IdpSync
