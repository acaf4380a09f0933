import Mathlib.Data.List.Sort
import Coderd.IdpSync.Schema

namespace Coderd.IdpSync

open Coderd.Foundation Coderd.DbAuthz

variable {lower : String → String}

/-! ## The store -/

namespace Db

/-- No ids stand for all of them. -/
def selectOrganizations (db : Db lower) (organizationIds : List Uuid) :
    List ((_ : Uuid) × OrganizationRow) :=
  db.organizations.entries.filter fun e =>
    !e.2.deleted && (organizationIds.isEmpty || organizationIds.contains e.1)

def selectUserMemberships (db : Db lower) (userId : Uuid) :
    List ((_ : Uuid × Uuid) × OrganizationMemberRow) :=
  db.organizationMembers.entries.filter fun e => decide (e.1.2 = userId) && db.live e.1.2

end Db

def listOrganizations (organizationIds : List Uuid) :
    Effect (Db lower) StorageError (List ((_ : Uuid) × OrganizationRow)) := fun db =>
  (.ok (db.selectOrganizations organizationIds), db)

def listUserMemberships (userId : Uuid) :
    Effect (Db lower) StorageError (List ((_ : Uuid × Uuid) × OrganizationMemberRow)) := fun db =>
  (.ok (db.selectUserMemberships userId), db)

inductive InsertOrganizationMemberError where
  | alreadyExists
  | storage (error : StorageError)
  deriving DecidableEq

def findOrganizationMember (db : Db lower) (organizationId userId : Uuid) :
    Option OrganizationMemberRow :=
  if db.live userId then db.organizationMembers.lookup (organizationId, userId) else none

/-- The row is read back after the insert. -/
def insertOrganizationMember (now : Int) (organizationId userId : Uuid) (isIdpControlled : Bool) :
    Effect (Db lower) InsertOrganizationMemberError OrganizationMemberRow := fun db =>
  if (db.organizationMembers.lookup (organizationId, userId)).isSome then
    (.error .alreadyExists, db)
  else if (db.organizations.lookup organizationId).isNone ∨ (db.users.lookup userId).isNone then
    (.error (.storage foreignKeyViolation), db)
  else
    let row := { createdAt := now, roles := [], isIdpControlled }
    let db :=
      { db with
        organizationMembers := db.organizationMembers.insert (organizationId, userId) row }
    match findOrganizationMember db organizationId userId with
    | some row => (.ok row, db)
    | none =>
      (.error (.storage (.invalidData "inserted organization member could not be reloaded")), db)

def deleteOrganizationMember (organizationId userId : Uuid) :
    Effect (Db lower) StorageError Bool := fun db =>
  (.ok (db.organizationMembers.lookup (organizationId, userId)).isSome,
    { db with organizationMembers := db.organizationMembers.erase (organizationId, userId) })

/-! ## The sync -/

structure OrganizationSyncSettings where
  field : String
  mapping : HashMap String (List Uuid)
  assignDefault : Bool

structure OrganizationSyncResult where
  added : Nat := 0
  removed : Nat := 0
  deriving DecidableEq

/-- The result, and the memberships that the log warns about. -/
structure OrganizationSyncOutcome where
  result : OrganizationSyncResult := {}
  notAdded : List Uuid := []
  notRemoved : List Uuid := []
  deriving DecidableEq

/-- The calls of a pass to the store. -/
inductive OrganizationCall where
  | listAll
  | listExpected
  | listUserMemberships
  | delete (organizationId : Uuid)
  deriving DecidableEq

/-- What the code does not decide: the clock of the database, and which calls fail. -/
structure OrganizationRun where
  now : Int
  fault : OrganizationCall → Option (Effect.Fault StorageError)
  insertFault : Uuid → Option (Effect.Fault InsertOrganizationMemberError)

/-- The organizations that the claims which pass the filter are mapped to. -/
def mapClaims (filter : Option (String → Bool)) (mapping : HashMap String (List Uuid))
    (rawClaims : List String) : HashSet Uuid :=
  rawClaims.foldl (fun expected raw =>
    if passes filter raw then ((mapping.lookup raw).getD []).foldl HashSet.insert expected
    else expected) ∅

def includeDefault (run : OrganizationRun) (assignDefault : Bool) (expected : HashSet Uuid) :
    Effect (Db lower) StorageError (HashSet Uuid) :=
  if assignDefault then do
    let allOrgs ← Effect.through (run.fault .listAll) (listOrganizations [])
    match allOrgs.find? fun o => o.2.isDefault && !o.2.deleted with
    | some default => pure (expected.insert default.1)
    -- without a default organization there is nothing to include
    | none => pure expected
  else pure expected

def dropDeleted (run : OrganizationRun) (expected : HashSet Uuid) :
    Effect (Db lower) StorageError (HashSet Uuid) :=
  -- an empty list of ids would stand for all organizations
  if expected.isEmpty then pure expected
  else do
    let allOrgs ← Effect.through (run.fault .listExpected) (listOrganizations expected.toList)
    let live := (allOrgs.filter fun o => !o.2.deleted).map (·.1)
    pure (expected.retain fun id => live.contains id)

structure SyncPlan where
  toAdd : List Uuid
  toRemove : List Uuid

def planSyncDiff (expected : HashSet Uuid) (existingWithFlag : List (Uuid × Bool)) : SyncPlan where
  toAdd :=
    (expected.toList.filter fun id => !(existingWithFlag.map (·.1)).contains id).insertionSort
      fun id id' => id.bits ≤ id'.bits
  toRemove :=
    ((existingWithFlag.filter fun m => m.2 && !decide (m.1 ∈ expected)).map (·.1)).insertionSort
      fun id id' => id.bits ≤ id'.bits

/-- A membership that cannot be added is logged and left out. -/
def addMembership (run : OrganizationRun) (userId : Uuid) (outcome : OrganizationSyncOutcome)
    (orgId : Uuid) : Effect (Db lower) StorageError OrganizationSyncOutcome := do
  let inserted ← Effect.result <| Effect.through (run.insertFault orgId)
    (insertOrganizationMember run.now orgId userId true)
  match inserted with
  | .ok _ =>
    pure { outcome with result := { outcome.result with added := outcome.result.added + 1 } }
  | .error _ => pure { outcome with notAdded := outcome.notAdded ++ [orgId] }

def removeMembership (run : OrganizationRun) (userId : Uuid) (outcome : OrganizationSyncOutcome)
    (orgId : Uuid) : Effect (Db lower) StorageError OrganizationSyncOutcome := do
  let deleted ← Effect.result <| Effect.through (run.fault (.delete orgId))
    (deleteOrganizationMember orgId userId)
  match deleted with
  | .ok true =>
    pure { outcome with result := { outcome.result with removed := outcome.result.removed + 1 } }
  | .ok false => pure outcome
  | .error _ => pure { outcome with notRemoved := outcome.notRemoved ++ [orgId] }

/-- The part of `sync_organizations` after the filter is compiled. -/
def reconcileOrganizations (run : OrganizationRun) (userId : Uuid)
    (filter : Option (String → Bool)) (rawClaims : List String)
    (settings : OrganizationSyncSettings) :
    Effect (Db lower) StorageError OrganizationSyncOutcome := do
  let expected ← includeDefault run settings.assignDefault
    (mapClaims filter settings.mapping rawClaims)
  let expected ← dropDeleted run expected
  let existing ← Effect.through (run.fault .listUserMemberships) (listUserMemberships userId)
  let plan := planSyncDiff expected (existing.map fun m => (m.1.1, m.2.isIdpControlled))
  let outcome ← plan.toAdd.foldlM (addMembership run userId) {}
  plan.toRemove.foldlM (removeMembership run userId) outcome

def syncOrganizations (regexNew : RegexNew) (run : OrganizationRun) (userId : Uuid)
    (rawClaims : List String) (settings : OrganizationSyncSettings)
    (regexFilter : Option String) : Effect (Db lower) IdpSyncError OrganizationSyncOutcome :=
  if settings.field.isEmpty ∧ !settings.assignDefault then pure {}
  else do
    let filter ← Effect.ofExcept (compileFilter regexNew regexFilter)
    (reconcileOrganizations run userId filter rawClaims settings).mapError .storage

end Coderd.IdpSync
