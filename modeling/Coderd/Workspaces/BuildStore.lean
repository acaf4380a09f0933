import Coderd.Foundation.Calls
import Coderd.Foundation.Select
import Coderd.Workspaces.Catalog
import Coderd.Workspaces.Schema

namespace Coderd.Builds

open Coderd.Foundation
open Coderd.Auth (UserRow)
open Coderd.Catalog (WorkspaceRow WorkspaceBuildRow WorkspaceBuildRecord)
open Coderd.CryptoKeys (OffsetDateTime)
open Coderd.Provisioner

/-! ## Rows -/

/-- A row of `organizations`, without its id. -/
structure OrganizationRow where
  name : String
  deleted : Bool

/-- A row of `templates`, without its id: what the lifecycle needs, and what a build does. -/
structure TemplateRow extends Workspaces.TemplateRow where
  organizationId : Uuid
  activeVersionId : Uuid
  autostopRequirementDaysOfWeek : Int
  autostopRequirementWeeks : Int

/-- A row of `template_versions`, without its id. -/
structure TemplateVersionRow where
  templateId : Option Uuid
  jobId : Uuid

/-- The `input` of a job. -/
inductive JobInput where
  | empty
  | prebuildStart (presetId : Uuid)
  | prebuildDelete

/-- The columns of `provisioner_jobs` that nothing writes after the insert. -/
structure JobDetails where
  jobType : String
  initiatorId : Uuid
  input : JobInput

/-- The number that the next build of the workspace gets. -/
def nextBuildNumber (builds : HashMap Uuid WorkspaceBuildRow) (workspaceId : Uuid) : Int :=
  match builds.selectGreatest (fun _ row => row.workspaceId = workspaceId) (·.buildNumber) with
  | some (_, row) => row.buildNumber + 1
  | none => 1

theorem lt_nextBuildNumber {builds : HashMap Uuid WorkspaceBuildRow} {id : Uuid}
    {row : WorkspaceBuildRow} (h : builds.lookup id = some row) :
    row.buildNumber < nextBuildNumber builds row.workspaceId := by
  unfold nextBuildNumber
  split
  · rename_i greatest hselect
    obtain ⟨-, -, hgreatest⟩ := HashMap.selectGreatest_spec hselect
    exact Int.lt_add_one_of_le (hgreatest id row h (decide_eq_true rfl))
  · rename_i hselect
    have hnone := HashMap.selectGreatest_eq_none_iff.mp hselect id row h
    simp at hnone

/-- The tables, with the foreign key from builds to jobs and the index on build numbers. -/
structure World where
  users : HashMap Uuid UserRow
  organizations : HashMap Uuid OrganizationRow
  templates : HashMap Uuid TemplateRow
  versions : HashMap Uuid TemplateVersionRow
  workspaces : HashMap Uuid WorkspaceRow
  builds : HashMap Uuid WorkspaceBuildRow
  buildParameters : HashMap (Uuid × String) String
  jobs : JobTable
  jobDetails : HashMap Uuid JobDetails
  userConfigs : HashMap (Uuid × String) String
  jobOfBuild : ∀ id row jobId, builds.lookup id = some row → row.jobId = some jobId →
    (jobs.lookup jobId).isSome
  oneNumber : ∀ id id' row row', builds.lookup id = some row → builds.lookup id' = some row' →
    row.workspaceId = row'.workspaceId → row.buildNumber = row'.buildNumber → id = id'

/-! ## Inputs -/

structure CreateWorkspaceInput where
  id : Uuid
  ownerId : Uuid
  organizationId : Uuid
  templateId : Uuid
  name : String
  autostartSchedule : Option String
  ttlNs : Option Int
  automaticUpdates : String

def CreateWorkspaceInput.row (input : CreateWorkspaceInput) (now : OffsetDateTime) :
    WorkspaceRow where
  createdAt := now
  updatedAt := now
  deleted := false
  ownerId := input.ownerId
  organizationId := input.organizationId
  templateId := input.templateId
  name := input.name
  autostartSchedule := input.autostartSchedule
  ttl := input.ttlNs
  lastUsedAt := now
  dormantAt := none
  deletingAt := none
  automaticUpdates := input.automaticUpdates
  nextStartAt := none

structure CreateProvisionerJobInput where
  id : Uuid
  createdAt : OffsetDateTime
  updatedAt : OffsetDateTime
  organizationId : Uuid
  initiatorId : Uuid
  provisioner : ProvisionerType
  jobType : String
  input : JobInput
  tags : Tags

def CreateProvisionerJobInput.row (input : CreateProvisionerJobInput) : ProvisionerJobRow where
  createdAt := input.createdAt
  updatedAt := input.updatedAt
  startedAt := none
  canceledAt := none
  completedAt := none
  error := ""
  errorCode := ""
  organizationId := input.organizationId
  provisioner := input.provisioner
  tags := input.tags
  workerId := none

def CreateProvisionerJobInput.details (input : CreateProvisionerJobInput) : JobDetails where
  jobType := input.jobType
  initiatorId := input.initiatorId
  input := input.input

/-- `build_number` is not in it: the statement computes the number. -/
structure CreateWorkspaceBuildInput where
  id : Uuid
  workspaceId : Uuid
  templateVersionId : Uuid
  transition : String
  initiatorId : Uuid
  jobId : Uuid
  reason : String
  deadline : Option OffsetDateTime
  maxDeadline : Option OffsetDateTime

def CreateWorkspaceBuildInput.row (input : CreateWorkspaceBuildInput) (buildNumber : Int)
    (now : OffsetDateTime) : WorkspaceBuildRow where
  createdAt := now
  updatedAt := now
  workspaceId := input.workspaceId
  buildNumber := buildNumber
  transition := input.transition
  jobId := some input.jobId
  templateVersionId := input.templateVersionId
  initiatorId := input.initiatorId
  provisionerState := none
  deadline := input.deadline
  maxDeadline := input.maxDeadline
  reason := input.reason
  dailyCost := 0

/-! ## The writes -/

namespace World

/-- The job is in the table, with its details. -/
def createJob (w : World) (input : CreateProvisionerJobInput) : World :=
  { w with
    jobs := w.jobs.insert input.id input.row
    jobDetails := w.jobDetails.insert input.id input.details
    jobOfBuild := by
      intro id row jobId hrow hjob
      rw [HashMap.lookup_insert_ite]
      split
      · rfl
      · exact w.jobOfBuild id row jobId hrow hjob }

/-- Jobs that are written, not taken away. -/
def writeJobs (w : World) (id : Uuid) (set : ProvisionerJobRow → ProvisionerJobRow) : World :=
  { w with
    jobs := w.jobs.update id set
    jobOfBuild := by
      intro buildId row jobId hrow hjob
      have hsome := w.jobOfBuild buildId row jobId hrow hjob
      rw [JobTable.lookup_update]
      split
      · rename_i heq
        rw [heq] at hsome
        simpa using hsome
      · exact hsome }

def createBuild (w : World) (input : CreateWorkspaceBuildInput) (now : OffsetDateTime)
    (hjob : (w.jobs.lookup input.jobId).isSome) : World :=
  { w with
    builds := w.builds.insert input.id
      (input.row (nextBuildNumber w.builds input.workspaceId) now)
    jobOfBuild := by
      intro id row jobId hrow hof
      rw [HashMap.lookup_insert_ite] at hrow
      split at hrow
      · cases hrow
        cases hof
        exact hjob
      · exact w.jobOfBuild id row jobId hrow hof
    oneNumber := by
      intro id id' row row' hrow hrow' hof hnumber
      rw [HashMap.lookup_insert_ite] at hrow hrow'
      split at hrow
      · rename_i hid
        split at hrow'
        · rename_i hid'
          exact hid.trans hid'.symm
        · cases hrow
          have hlt := lt_nextBuildNumber hrow'
          rw [← hof] at hlt
          exact absurd hnumber.symm (ne_of_lt hlt)
      · split at hrow'
        · cases hrow'
          have hlt := lt_nextBuildNumber hrow
          rw [hof] at hlt
          exact absurd hnumber (ne_of_lt hlt)
        · exact w.oneNumber id id' row row' hrow hrow' hof hnumber }

/-- The tables behind the lifecycle of workspaces, with the columns that it reads. -/
def database (w : World) : Workspaces.Database where
  workspaces := w.workspaces.project fun row =>
    { ownerId := row.ownerId
      templateId := row.templateId
      autostartSchedule := row.autostartSchedule
      lastUsedAt := row.lastUsedAt
      dormantAt := row.dormantAt
      deletingAt := row.deletingAt
      nextStartAt := row.nextStartAt
      deleted := row.deleted }
  builds := w.builds.project fun row =>
    { workspaceId := row.workspaceId
      buildNumber := row.buildNumber
      transition := row.transition
      jobId := row.jobId
      deadline := row.deadline
      maxDeadline := row.maxDeadline }
  jobs := w.jobs
  templates := w.templates.project (·.toTemplateRow)
  users := w.users

end World

/-! ## Calls -/

inductive StorageError where
  | notFound (message : String)
  | violatesConstraint
  | invalidData (message : String)
  | unavailable (message : String)
  deriving DecidableEq

inductive StoreCall where
  | findUserById (userId : Uuid)
  | findUserByUsername (username : String)
  | findOrganizationById (organizationId : Uuid)
  | findOrganizationByName (name : String)
  | getUserConfig (userId : Uuid) (key : String)
  | findTemplateById (templateId : Uuid)
  | findTemplateVersionById (versionId : Uuid)
  | findWorkspaceById (workspaceId : Uuid)
  | insertWorkspace (input : CreateWorkspaceInput)
  | getWorkspacesEligibleForTransition (now : OffsetDateTime)
  | getProvisionerJobById (id : Uuid)
  | createProvisionerJob (input : CreateProvisionerJobInput)
  | findLatestWorkspaceBuild (workspaceId : Uuid)
  | insertWorkspaceBuild (input : CreateWorkspaceBuildInput)
  | insertWorkspaceBuildParameters (buildId : Uuid) (params : List (String × String))
  | acquireProvisionerJob (input : AcquireProvisionerJobInput)
  | updateProvisionerJobWithCompleteById (input : CompleteProvisionerJobInput)

/-- A row that is found by a name comes with its id. The rows that are eligible for a transition
come with the workspaces that they are about. -/
abbrev StoreCall.Response : StoreCall → Type
  | findUserById _ => Option UserRow
  | findUserByUsername _ => Option (Uuid × UserRow)
  | findOrganizationById _ => Option OrganizationRow
  | findOrganizationByName _ => Option (Uuid × OrganizationRow)
  | getUserConfig _ _ => Option String
  | findTemplateById _ => Option TemplateRow
  | findTemplateVersionById _ => Option TemplateVersionRow
  | findWorkspaceById _ => Option WorkspaceRow
  | insertWorkspace _ => WorkspaceRow
  | getWorkspacesEligibleForTransition _ => List Workspaces.JoinedRow
  | getProvisionerJobById _ => Option ProvisionerJobRecord
  | createProvisionerJob _ => ProvisionerJobRow
  | findLatestWorkspaceBuild _ => Option WorkspaceBuildRecord
  | insertWorkspaceBuild _ => WorkspaceBuildRow
  | insertWorkspaceBuildParameters _ _ => Unit
  | acquireProvisionerJob _ => Option ProvisionerJobRecord
  | updateProvisionerJobWithCompleteById _ => Unit

inductive Op where
  | nowUtc
  | newUuid
  | store (query : StoreCall)

abbrev Op.Response : Op → Type
  | nowUtc => OffsetDateTime
  | newUuid => Uuid
  | store query => Except StorageError query.Response

/-- What the code does not decide: the clock, an id that is drawn, which rows other acquisitions
hold, and the error of a call that fails without effect. A job may also be inserted and then not be
read back. -/
structure Choice where
  now : OffsetDateTime
  uuid : Uuid
  locked : List Uuid
  fails : Option StorageError
  unread : Option StorageError

/-- `LOWER`, of the database. -/
class Collation where
  lower : String → String

section

variable [Collation] (choice : Choice) (w : World)

def findLatestWorkspaceBuild (workspaceId : Uuid) :
    Except StorageError (Option WorkspaceBuildRecord) :=
  match w.builds.selectGreatest (fun _ row => row.workspaceId = workspaceId) (·.buildNumber) with
  | none => .ok none
  | some (id, row) =>
    match Catalog.workspaceBuildRecordFromRow id row with
    | .ok record => .ok (some record)
    | .error e => .error (.invalidData e)

def insertWorkspace (input : CreateWorkspaceInput) : Except StorageError WorkspaceRow × World :=
  let taken := w.workspaces.selectFirst fun id row =>
    id = input.id || (!row.deleted && row.ownerId = input.ownerId &&
      Collation.lower row.name = Collation.lower input.name)
  match taken with
  | some _ => (.error .violatesConstraint, w)
  | none =>
    let row := input.row choice.now
    (.ok row, { w with workspaces := w.workspaces.insert input.id row })

/-- The insert, and the read of what was inserted. -/
def createProvisionerJob (input : CreateProvisionerJobInput) :
    Except StorageError ProvisionerJobRow × World :=
  match w.jobs.lookup input.id with
  | some _ => (.error .violatesConstraint, w)
  | none =>
    match choice.unread with
    | some e => (.error e, w.createJob input)
    | none => (.ok input.row, w.createJob input)

def insertWorkspaceBuild (input : CreateWorkspaceBuildInput) :
    Except StorageError WorkspaceBuildRow × World :=
  match w.builds.lookup input.id, w.workspaces.lookup input.workspaceId with
  | none, some _ =>
    if hjob : (w.jobs.lookup input.jobId).isSome then
      (.ok (input.row (nextBuildNumber w.builds input.workspaceId) choice.now),
        w.createBuild input choice.now hjob)
    else (.error .violatesConstraint, w)
  | _, _ => (.error .violatesConstraint, w)

/-- All of the parameters or none, in one transaction. -/
def insertWorkspaceBuildParameters (buildId : Uuid) (params : List (String × String)) :
    Except StorageError Unit × World :=
  let free := params.all fun param => (w.buildParameters.lookup (buildId, param.1)).isNone
  if (w.builds.lookup buildId).isSome && free && (params.map (·.1)).Nodup then
    let rows := params.foldl (fun rows param => rows.insert (buildId, param.1) param.2)
      w.buildParameters
    (.ok (), { w with buildParameters := rows })
  else (.error .violatesConstraint, w)

def acquireProvisionerJob (input : AcquireProvisionerJobInput) :
    Except StorageError (Option ProvisionerJobRecord) × World :=
  match w.jobs.acquireProvisionerJob input choice.locked with
  | (none, _) => (.ok none, w)
  | (some job, _) => (.ok (some job), w.writeJobs job.id input.set)

/-- A call that does not fail on its own. -/
def perform : (query : StoreCall) → Except StorageError query.Response × World
  | .findUserById userId => (.ok ((w.users.lookup userId).filter fun row => !row.deleted), w)
  | .findUserByUsername username =>
    (.ok (w.users.selectFirst fun _ row =>
      Collation.lower row.username = Collation.lower username && !row.deleted), w)
  | .findOrganizationById organizationId =>
    (.ok ((w.organizations.lookup organizationId).filter fun row => !row.deleted), w)
  | .findOrganizationByName name =>
    (.ok (w.organizations.selectFirst fun _ row =>
      Collation.lower row.name = Collation.lower name && !row.deleted), w)
  | .getUserConfig userId key => (.ok (w.userConfigs.lookup (userId, key)), w)
  | .findTemplateById templateId => (.ok (w.templates.lookup templateId), w)
  | .findTemplateVersionById versionId => (.ok (w.versions.lookup versionId), w)
  | .findWorkspaceById workspaceId =>
    (.ok ((w.workspaces.lookup workspaceId).filter fun row => !row.deleted), w)
  | .insertWorkspace input => insertWorkspace choice w input
  | .getWorkspacesEligibleForTransition now => (.ok (w.database.eligibleRows now), w)
  | .getProvisionerJobById id => (.ok (w.jobs.getProvisionerJobById id), w)
  | .createProvisionerJob input => createProvisionerJob choice w input
  | .findLatestWorkspaceBuild workspaceId => (findLatestWorkspaceBuild w workspaceId, w)
  | .insertWorkspaceBuild input => insertWorkspaceBuild choice w input
  | .insertWorkspaceBuildParameters buildId params => insertWorkspaceBuildParameters w buildId params
  | .acquireProvisionerJob input => acquireProvisionerJob choice w input
  | .updateProvisionerJobWithCompleteById input => (.ok (), w.writeJobs input.id input.set)

def exec : (op : Op) → World → Choice → Option (op.Response × World)
  | .nowUtc, w, choice => some (choice.now, w)
  | .newUuid, w, choice => some (choice.uuid, w)
  | .store query, w, choice =>
    match choice.fails with
    | some e => some (.error e, w)
    | none => some (perform choice w query)

end

end Coderd.Builds
