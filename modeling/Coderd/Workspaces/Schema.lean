import Coderd.Auth.ApiKeys
import Coderd.Foundation.Sql
import Coderd.Provisioner.Jobs

namespace Coderd.Workspaces

open Coderd.Foundation
open Coderd.CryptoKeys (OffsetDateTime)
open Coderd.Auth (UserRow UserStatus)
open Coderd.Provisioner (JobTable ProvisionerJobRow ProvisionerJobStatus)

/-! ## Rows -/

/-- A row of `workspaces`, without its id. -/
structure WorkspaceRow where
  ownerId : Uuid
  templateId : Uuid
  autostartSchedule : Option String
  lastUsedAt : OffsetDateTime
  dormantAt : Option OffsetDateTime
  deletingAt : Option OffsetDateTime
  nextStartAt : Option OffsetDateTime
  deleted : Bool

/-- A row of `workspace_builds`, without its id. -/
structure WorkspaceBuildRow where
  workspaceId : Uuid
  buildNumber : Int
  transition : String
  jobId : Option Uuid
  deadline : Option OffsetDateTime
  maxDeadline : Option OffsetDateTime

/-- A row of `templates`, without its id. Durations are in nanoseconds. -/
structure TemplateRow where
  allowUserAutostart : Bool
  failureTtl : Int
  timeTilDormant : Int
  timeTilDormantAutodelete : Int
  activityBump : Int

abbrev BuildTable := HashMap Uuid WorkspaceBuildRow

/-- The tables behind the lifecycle of workspaces. -/
structure Database where
  workspaces : HashMap Uuid WorkspaceRow
  builds : BuildTable
  jobs : JobTable
  templates : HashMap Uuid TemplateRow
  users : HashMap Uuid UserRow

/-- One row of the join of the five tables. -/
@[ext]
structure JoinedRow where
  workspaceId : Uuid
  workspace : WorkspaceRow
  buildId : Uuid
  build : WorkspaceBuildRow
  job : ProvisionerJobRow
  template : TemplateRow
  owner : UserRow

structure WorkspaceTransitionRow where
  id : Uuid
  autostartSchedule : Option String
  lastUsedAt : OffsetDateTime
  dormantAt : Option OffsetDateTime
  deletingAt : Option OffsetDateTime
  deleted : Bool
  buildTransition : String
  buildDeadline : Option OffsetDateTime
  jobStatus : ProvisionerJobStatus
  jobCompletedAt : Option OffsetDateTime
  templateAllowUserAutostart : Bool
  templateFailureTtl : Int
  templateTimeTilDormant : Int
  templateTimeTilDormantAutodelete : Int
  ownerStatus : UserStatus
  buildId : Uuid
  maxDeadline : Option OffsetDateTime
  activityBumpNs : Int

def JoinedRow.transitionRow (r : JoinedRow) : WorkspaceTransitionRow where
  id := r.workspaceId
  autostartSchedule := r.workspace.autostartSchedule
  lastUsedAt := r.workspace.lastUsedAt
  dormantAt := r.workspace.dormantAt
  deletingAt := r.workspace.deletingAt
  deleted := r.workspace.deleted
  buildTransition := r.build.transition
  buildDeadline := r.build.deadline
  jobStatus := r.job.jobStatus
  jobCompletedAt := r.job.completedAt
  templateAllowUserAutostart := r.template.allowUserAutostart
  templateFailureTtl := r.template.failureTtl
  templateTimeTilDormant := r.template.timeTilDormant
  templateTimeTilDormantAutodelete := r.template.timeTilDormantAutodelete
  ownerStatus := r.owner.status
  buildId := r.buildId
  maxDeadline := r.build.maxDeadline
  activityBumpNs := r.template.activityBump

/-! ## The clause of the query -/

/-- `0001-01-01 00:00:00+00`, the zero time of Go. -/
def goZeroTime : OffsetDateTime := ⟨-62135596800 * 10 ^ 9, by decide, by decide⟩

/-- The user that owns prebuilt workspaces. -/
def prebuildsUserId : Uuid := ⟨0xc42fdf753097471c8c33fb52454d81c0⟩

/-- The difference of two instants, in nanoseconds. -/
def elapsed (now t : OffsetDateTime) : Int := now.unixNanos - t.unixNanos

/-- `INTERVAL '1 millisecond' * (duration / 1000000)`. -/
def wholeMilliseconds (duration : Int) : Int := duration.tdiv 1000000 * 1000000

namespace JoinedRow

open SqlBool

/-- Build started, deadline passed or owner suspended. -/
def autostopClause (r : JoinedRow) (now : OffsetDateTime) : SqlBool :=
  (ofBool (r.job.jobStatus ≠ .failed)).and <|
    (isNull r.workspace.dormantAt).and <|
    (ofBool (r.build.transition = "start")).and <|
    (ofBool (r.owner.status = .suspended)).or <|
      -- the zero time of Go stands for no deadline here, the epoch does not
      (compare (fun deadline zero => deadline ≠ zero) r.build.deadline (some goZeroTime)).and
        (compare (fun deadline now => deadline < now) r.build.deadline (some now))

/-- Build stopped, schedule ready. -/
def autostartClause (r : JoinedRow) (now : OffsetDateTime) : SqlBool :=
  (ofBool (r.owner.status = .active)).and <|
    (ofBool (r.job.jobStatus ≠ .failed)).and <|
    (ofBool (r.build.transition = "stop")).and <|
    (isNull r.workspace.dormantAt).and <|
    (isNotNull r.workspace.autostartSchedule).and <|
    (isNull r.workspace.nextStartAt).or
      (compare (fun next now => next ≤ now) r.workspace.nextStartAt (some now))

/-- Unused longer than `time_til_dormant`. -/
def dormantStopClause (r : JoinedRow) (now : OffsetDateTime) : SqlBool :=
  (isNull r.workspace.dormantAt).and <|
    (ofBool (0 < r.template.timeTilDormant)).and <|
    ofBool (wholeMilliseconds r.template.timeTilDormant < elapsed now r.workspace.lastUsedAt)

/-- A deletion that failed is tried again after a day. -/
def deletionRetryClause (r : JoinedRow) (now : OffsetDateTime) : SqlBool :=
  caseWhen ((ofBool (r.build.transition = "delete")).and
      (ofBool (r.job.jobStatus = .failed)))
    (((isNotNull r.job.canceledAt).or (isNotNull r.job.completedAt)).and
      (compare (fun ended now => 24 * 3600 * 10 ^ 9 < elapsed now ended)
        (caseWhen (isNotNull r.job.canceledAt) r.job.canceledAt r.job.completedAt) (some now)))
    .true

/-- Dormant and past `deleting_at`. -/
def deletionClause (r : JoinedRow) (now : OffsetDateTime) : SqlBool :=
  (isNotNull r.workspace.dormantAt).and <|
    (isNotNull r.workspace.deletingAt).and <|
    (compare (fun deleting now => deleting < now) r.workspace.deletingAt (some now)).and <|
    (ofBool (0 < r.template.timeTilDormantAutodelete)).and <|
    r.deletionRetryClause now

/-- `failure_ttl` exceeded. -/
def failedStopClause (r : JoinedRow) (now : OffsetDateTime) : SqlBool :=
  (ofBool (0 < r.template.failureTtl)).and <|
    (ofBool (r.build.transition = "start")).and <|
    (ofBool (r.job.jobStatus = .failed)).and <|
    (isNotNull r.job.completedAt).and <|
    compare (fun completed now => wholeMilliseconds r.template.failureTtl < elapsed now completed)
      r.job.completedAt (some now)

/-- The `WHERE` clause of the query; `latest` is the greatest number of a build of the
workspace. -/
def whereClause (r : JoinedRow) (latest : Option Int) (now : OffsetDateTime) : SqlBool :=
  (compare (fun number latest => number = latest) (some r.build.buildNumber) latest).and <|
    ((r.autostopClause now).or <| (r.autostartClause now).or <| (r.dormantStopClause now).or <|
      (r.deletionClause now).or (r.failedStopClause now)).and <|
    (ofBool (r.workspace.deleted = Bool.false)).and <|
    ofBool (r.workspace.ownerId ≠ prebuildsUserId)

end JoinedRow

/-! ## Store calls -/

namespace Database

/-- `SELECT MAX(build_number) FROM workspace_builds WHERE workspace_id = …`. -/
def maxBuildNumber (db : Database) (workspaceId : Uuid) : Option Int :=
  ((db.builds.values.filter fun build => build.workspaceId = workspaceId).map
    (·.buildNumber)).max?

/-- The row of a workspace and one of its builds, if the other three are there. -/
def joinBuild (db : Database) (workspaceId : Uuid) (workspace : WorkspaceRow) (buildId : Uuid)
    (build : WorkspaceBuildRow) : Option JoinedRow := do
  guard (build.workspaceId = workspaceId)
  let job ← db.jobs.lookup (← build.jobId)
  let template ← db.templates.lookup workspace.templateId
  let owner ← db.users.lookup workspace.ownerId
  return { workspaceId, workspace, buildId, build, job, template, owner }

def join (db : Database) : List JoinedRow :=
  db.workspaces.entries.flatMap fun workspace =>
    db.builds.entries.filterMap fun build =>
      db.joinBuild workspace.1 workspace.2 build.1 build.2

def eligibleRows (db : Database) (now : OffsetDateTime) : List JoinedRow :=
  db.join.filter fun r => r.whereClause (db.maxBuildNumber r.workspaceId) now = .true

def getWorkspacesEligibleForTransition (db : Database) (now : OffsetDateTime) :
    List WorkspaceTransitionRow :=
  (db.eligibleRows now).map (·.transitionRow)

/-- `UPDATE workspace_builds SET deadline = …, max_deadline = … WHERE id = …`, and whether there
was such a build. -/
def updateWorkspaceBuildDeadline (db : Database) (buildId : Uuid)
    (deadline maxDeadline : Option OffsetDateTime) : Database × Bool :=
  match db.builds.lookup buildId with
  | some build =>
    ({ db with builds := db.builds.insert buildId { build with deadline, maxDeadline } }, true)
  | none => (db, false)

/-! ## What the calls return -/

theorem maxBuildNumber_eq_some {db : Database} {workspaceId buildId : Uuid}
    {build : WorkspaceBuildRow} (hbuild : db.builds.lookup buildId = some build)
    (hworkspace : build.workspaceId = workspaceId) :
    db.maxBuildNumber workspaceId = some build.buildNumber ↔
      ∀ id other, db.builds.lookup id = some other → other.workspaceId = workspaceId →
        other.buildNumber ≤ build.buildNumber := by
  have hmem : ∀ id other, db.builds.lookup id = some other → other.workspaceId = workspaceId →
      other.buildNumber ∈ (db.builds.values.filter fun build =>
        build.workspaceId = workspaceId).map (·.buildNumber) := by
    intro id other hother hof
    exact List.mem_map_of_mem
      (List.mem_filter.mpr ⟨HashMap.mem_values_of_lookup hother, decide_eq_true hof⟩)
  rw [maxBuildNumber, List.max?_eq_some_iff]
  constructor
  · rintro ⟨-, hmax⟩ id other hother hof
    exact hmax _ (hmem id other hother hof)
  · intro hmax
    refine ⟨hmem buildId build hbuild hworkspace, fun number hnumber => ?_⟩
    obtain ⟨other, hother, rfl⟩ := List.mem_map.mp hnumber
    obtain ⟨hother, hof⟩ := List.mem_filter.mp hother
    obtain ⟨entry, hentry, rfl⟩ := List.mem_map.mp hother
    exact hmax entry.1 entry.2 (AList.mem_lookup_iff.mpr hentry) (of_decide_eq_true hof)

theorem joinBuild_eq_some {db : Database} {workspaceId : Uuid} {workspace : WorkspaceRow}
    {buildId : Uuid} {build : WorkspaceBuildRow} {r : JoinedRow} :
    db.joinBuild workspaceId workspace buildId build = some r ↔
      (r.workspaceId = workspaceId ∧ r.workspace = workspace ∧ r.buildId = buildId ∧
        r.build = build) ∧ build.workspaceId = workspaceId ∧
        build.jobId.bind db.jobs.lookup = some r.job ∧
        db.templates.lookup workspace.templateId = some r.template ∧
        db.users.lookup workspace.ownerId = some r.owner := by
  obtain ⟨rworkspaceId, rworkspace, rbuildId, rbuild, job, template, owner⟩ := r
  by_cases hof : build.workspaceId = workspaceId
  · cases hjobId : build.jobId with
    | none => simp [joinBuild, hof, hjobId]
    | some jobId =>
      cases hjob : db.jobs.lookup jobId <;>
        cases htemplate : db.templates.lookup workspace.templateId <;>
        cases howner : db.users.lookup workspace.ownerId <;>
        simp [joinBuild, hof, hjobId, hjob, htemplate, howner]
      grind
  · simp [joinBuild, hof]

/-- The rows of the join, by the id of the build. -/
theorem mem_join {db : Database} {r : JoinedRow} :
    r ∈ db.join ↔
      db.workspaces.lookup r.workspaceId = some r.workspace ∧
        db.builds.lookup r.buildId = some r.build ∧ r.build.workspaceId = r.workspaceId ∧
        r.build.jobId.bind db.jobs.lookup = some r.job ∧
        db.templates.lookup r.workspace.templateId = some r.template ∧
        db.users.lookup r.workspace.ownerId = some r.owner := by
  simp only [join, List.mem_flatMap, List.mem_filterMap, joinBuild_eq_some]
  constructor
  · rintro ⟨⟨workspaceId, workspace⟩, hworkspace, ⟨buildId, build⟩, hbuild,
      ⟨rfl, rfl, rfl, rfl⟩, hrest⟩
    exact ⟨AList.mem_lookup_iff.mpr hworkspace, AList.mem_lookup_iff.mpr hbuild, hrest⟩
  · rintro ⟨hworkspace, hbuild, hrest⟩
    exact ⟨⟨_, _⟩, AList.mem_lookup_iff.mp hworkspace, ⟨_, _⟩, AList.mem_lookup_iff.mp hbuild,
      ⟨rfl, rfl, rfl, rfl⟩, hrest⟩

theorem lookup_updateWorkspaceBuildDeadline (db : Database) (buildId id : Uuid)
    (deadline maxDeadline : Option OffsetDateTime) :
    (db.updateWorkspaceBuildDeadline buildId deadline maxDeadline).1.builds.lookup id =
      if id = buildId then
        (db.builds.lookup buildId).map fun build => { build with deadline, maxDeadline }
      else db.builds.lookup id := by
  unfold updateWorkspaceBuildDeadline
  cases hbuild : db.builds.lookup buildId with
  | some build =>
    show (db.builds.insert buildId _).lookup id = _
    rw [HashMap.lookup_insert_ite]
    rfl
  | none =>
    by_cases hid : id = buildId
    · rw [if_pos hid, hid, hbuild]
      rfl
    · rw [if_neg hid]

end Database

end Coderd.Workspaces
