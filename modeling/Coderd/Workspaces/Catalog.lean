import Coderd.CryptoKeys.Rotator
import Coderd.Foundation.Select
import Coderd.Foundation.SetMap
import Coderd.Foundation.Uuid

namespace Coderd.Catalog

open Coderd.Foundation
open Coderd.CryptoKeys (OffsetDateTime)

/-! ## Rows -/

/-- A row of `users`, without its id. -/
structure UserRow where
  username : String
  deleted : Bool

/-- A row of `workspaces`, without its id. -/
structure WorkspaceRow where
  createdAt : OffsetDateTime
  updatedAt : OffsetDateTime
  deleted : Bool
  ownerId : Uuid
  organizationId : Uuid
  templateId : Uuid
  name : String
  autostartSchedule : Option String
  ttl : Option Int
  lastUsedAt : OffsetDateTime
  dormantAt : Option OffsetDateTime
  deletingAt : Option OffsetDateTime
  automaticUpdates : String
  nextStartAt : Option OffsetDateTime

/-- A row of `workspace_builds`, without its id. The job is `NULL` once its row is gone. -/
structure WorkspaceBuildRow where
  createdAt : OffsetDateTime
  updatedAt : OffsetDateTime
  workspaceId : Uuid
  buildNumber : Int
  transition : String
  jobId : Option Uuid
  templateVersionId : Uuid
  initiatorId : Uuid
  provisionerState : Option (List UInt8)
  deadline : Option OffsetDateTime
  maxDeadline : Option OffsetDateTime
  reason : String
  dailyCost : Int

structure WorkspaceBuildRecord where
  id : Uuid
  createdAt : OffsetDateTime
  updatedAt : OffsetDateTime
  workspaceId : Uuid
  buildNumber : Int
  transition : String
  jobId : Uuid
  templateVersionId : Uuid
  initiatorId : Uuid
  provisionerState : Option (List UInt8)
  deadline : Option OffsetDateTime
  maxDeadline : Option OffsetDateTime
  reason : String
  dailyCost : Int

/-- A row of `workspace_resources`, without its id. -/
structure WorkspaceResourceRow where
  jobId : Uuid
  name : String

/-- A row of `workspace_agents`, without its id. -/
structure WorkspaceAgentRow where
  createdAt : OffsetDateTime
  name : String
  firstConnectedAt : Option OffsetDateTime
  lastConnectedAt : Option OffsetDateTime
  disconnectedAt : Option OffsetDateTime
  resourceId : Uuid
  deleted : Bool

/-- The error of a row that does not decode into its record. -/
def nullColumn : String := "unexpected null; try decoding as an `Option`"

/-- The record holds a job id that is not optional. -/
def workspaceBuildRecordFromRow (id : Uuid) (row : WorkspaceBuildRow) :
    Except String WorkspaceBuildRecord :=
  match row.jobId with
  | none => .error nullColumn
  | some jobId => .ok
    { id
      createdAt := row.createdAt
      updatedAt := row.updatedAt
      workspaceId := row.workspaceId
      buildNumber := row.buildNumber
      transition := row.transition
      jobId
      templateVersionId := row.templateVersionId
      initiatorId := row.initiatorId
      provisionerState := row.provisionerState
      deadline := row.deadline
      maxDeadline := row.maxDeadline
      reason := row.reason
      dailyCost := row.dailyCost }

theorem workspaceBuildRecordFromRow_ok {id : Uuid} {row : WorkspaceBuildRow}
    {build : WorkspaceBuildRecord} (h : workspaceBuildRecordFromRow id row = .ok build) :
    build.id = id ∧ build.workspaceId = row.workspaceId ∧ row.jobId = some build.jobId := by
  unfold workspaceBuildRecordFromRow at h
  split at h
  · cases h
  · rename_i jobId hjob
    cases h
    exact ⟨rfl, rfl, hjob⟩

/-! ## Tables -/

/-- The tables of users, workspaces and what their builds made, with the indexes on them. `lower` is
the function `LOWER` of the database. A membership is a pair `(organization_id, user_id)`. -/
structure Db (lower : String → String) where
  users : HashMap Uuid UserRow
  organizationMembers : HashSet (Uuid × Uuid)
  workspaces : HashMap Uuid WorkspaceRow
  builds : HashMap Uuid WorkspaceBuildRow
  resources : HashMap Uuid WorkspaceResourceRow
  agents : HashMap Uuid WorkspaceAgentRow
  oneUsername : ∀ id id' row row', users.lookup id = some row → users.lookup id' = some row' →
    row.deleted = false → row'.deleted = false →
    lower row.username = lower row'.username → id = id'
  oneName : ∀ id id' row row', workspaces.lookup id = some row → workspaces.lookup id' = some row' →
    row.deleted = false → row'.deleted = false → row.ownerId = row'.ownerId →
    lower row.name = lower row'.name → id = id'
  oneNumber : ∀ id id' row row', builds.lookup id = some row → builds.lookup id' = some row' →
    row.workspaceId = row'.workspaceId → row.buildNumber = row'.buildNumber → id = id'

namespace Db

variable {lower : String → String} (db : Db lower)

/-- A row by its id, unless it is marked as deleted. -/
def findUserById (userId : Uuid) : Option UserRow :=
  (db.users.lookup userId).filter fun row => !row.deleted

def findUserByUsername (username : String) : Option (Uuid × UserRow) :=
  db.users.selectFirst fun _ row => lower row.username = lower username && !row.deleted

def findOrganizationMember (organizationId userId : Uuid) : Option (Uuid × Uuid) :=
  if (organizationId, userId) ∈ db.organizationMembers ∧ (db.findUserById userId).isSome then
    some (organizationId, userId)
  else none

def findWorkspaceById (workspaceId : Uuid) : Option WorkspaceRow :=
  (db.workspaces.lookup workspaceId).filter fun row => !row.deleted

def findWorkspaceByOwnerAndName (ownerId : Uuid) (name : String) : Option (Uuid × WorkspaceRow) :=
  db.workspaces.selectFirst fun _ row =>
    row.ownerId = ownerId && lower row.name = lower name && !row.deleted

/-- The build with the highest number, before its row is decoded. -/
def latestBuildRow (workspaceId : Uuid) : Option (Uuid × WorkspaceBuildRow) :=
  db.builds.selectGreatest (fun _ row => row.workspaceId = workspaceId) (·.buildNumber)

def findLatestWorkspaceBuild (workspaceId : Uuid) : Except String (Option WorkspaceBuildRecord) :=
  match db.latestBuildRow workspaceId with
  | none => .ok none
  | some (id, row) => (workspaceBuildRecordFromRow id row).map some

def listWorkspaceResourcesByJob (jobId : Uuid) : List (Uuid × WorkspaceResourceRow) :=
  db.resources.selectOrdered (fun _ row => row.jobId = jobId) (·.name)

def listWorkspaceAgentsByResourceIds (resourceIds : List Uuid) : List (Uuid × WorkspaceAgentRow) :=
  db.agents.selectOrdered (fun _ row => resourceIds.contains row.resourceId && !row.deleted)
    fun row => row.createdAt.unixNanos

def findWorkspaceAgentById (agentId : Uuid) : Option WorkspaceAgentRow :=
  (db.agents.lookup agentId).filter fun row => !row.deleted

/-! ## What the queries return -/

variable {db}

theorem findUserByUsername_eq_some_iff {username : String} {id : Uuid} {row : UserRow} :
    db.findUserByUsername username = some (id, row) ↔
      db.users.lookup id = some row ∧ lower row.username = lower username ∧ row.deleted = false := by
  unfold findUserByUsername
  rw [HashMap.selectFirst_eq_some_iff]
  · simp
  · intro k k' v v' hlookup hlookup' hp hp'
    simp only [Bool.and_eq_true, decide_eq_true_eq, Bool.not_eq_true'] at hp hp'
    exact db.oneUsername k k' v v' hlookup hlookup' hp.2 hp'.2 (hp.1.trans hp'.1.symm)

theorem findWorkspaceById_eq_some_iff {id : Uuid} {row : WorkspaceRow} :
    db.findWorkspaceById id = some row ↔
      db.workspaces.lookup id = some row ∧ row.deleted = false := by
  unfold findWorkspaceById
  rw [Option.filter_eq_some_iff]
  simp

theorem findWorkspaceByOwnerAndName_eq_some_iff {ownerId : Uuid} {name : String} {id : Uuid}
    {row : WorkspaceRow} :
    db.findWorkspaceByOwnerAndName ownerId name = some (id, row) ↔
      db.workspaces.lookup id = some row ∧ row.ownerId = ownerId ∧ lower row.name = lower name ∧
        row.deleted = false := by
  unfold findWorkspaceByOwnerAndName
  rw [HashMap.selectFirst_eq_some_iff]
  · simp [and_assoc]
  · intro k k' v v' hlookup hlookup' hp hp'
    simp only [Bool.and_eq_true, decide_eq_true_eq, Bool.not_eq_true'] at hp hp'
    exact db.oneName k k' v v' hlookup hlookup' hp.2 hp'.2 (hp.1.1.trans hp'.1.1.symm)
      (hp.1.2.trans hp'.1.2.symm)

theorem findWorkspaceAgentById_eq_some_iff {id : Uuid} {row : WorkspaceAgentRow} :
    db.findWorkspaceAgentById id = some row ↔
      db.agents.lookup id = some row ∧ row.deleted = false := by
  unfold findWorkspaceAgentById
  rw [Option.filter_eq_some_iff]
  simp

/-- The build is the latest one of the workspace. -/
def IsLatestBuild (db : Db lower) (workspaceId buildId : Uuid) (row : WorkspaceBuildRow) : Prop :=
  db.builds.lookup buildId = some row ∧ row.workspaceId = workspaceId ∧
    ∀ id other, db.builds.lookup id = some other → other.workspaceId = workspaceId →
      other.buildNumber ≤ row.buildNumber

theorem latestBuildRow_eq_some_iff {workspaceId id : Uuid} {row : WorkspaceBuildRow} :
    db.latestBuildRow workspaceId = some (id, row) ↔ db.IsLatestBuild workspaceId id row := by
  unfold latestBuildRow IsLatestBuild
  rw [HashMap.selectGreatest_eq_some_iff]
  · simp
  · intro k k' v v' hlookup hlookup' hp hp' hnumber
    simp only [decide_eq_true_eq] at hp hp'
    exact db.oneNumber k k' v v' hlookup hlookup' (hp.trans hp'.symm) hnumber

theorem findLatestWorkspaceBuild_eq_some_iff {workspaceId : Uuid} {build : WorkspaceBuildRecord} :
    db.findLatestWorkspaceBuild workspaceId = .ok (some build) ↔
      ∃ id row, db.IsLatestBuild workspaceId id row ∧
        workspaceBuildRecordFromRow id row = .ok build := by
  unfold findLatestWorkspaceBuild
  cases hlatest : db.latestBuildRow workspaceId with
  | none =>
    constructor
    · intro h
      cases h
    · rintro ⟨id, row, hrow, -⟩
      rw [latestBuildRow_eq_some_iff.mpr hrow] at hlatest
      cases hlatest
  | some found =>
    obtain ⟨id, row⟩ := found
    have hrow := latestBuildRow_eq_some_iff.mp hlatest
    constructor
    · intro h
      cases hrecord : workspaceBuildRecordFromRow id row with
      | error e =>
        simp [hrecord, Except.map] at h
      | ok record =>
        simp only [hrecord, Except.map, Except.ok.injEq, Option.some.injEq] at h
        exact ⟨id, row, hrow, h ▸ hrecord⟩
    · rintro ⟨id', row', hrow', hrecord⟩
      have hsame := latestBuildRow_eq_some_iff.mpr hrow'
      rw [hlatest] at hsame
      cases hsame
      simp [hrecord, Except.map]

end Db

end Coderd.Catalog
