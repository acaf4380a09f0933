import Coderd.Foundation.Integers
import Coderd.Rbac.Policy
import Coderd.Workspaces.Autobuild
import Coderd.Workspaces.BuildStore

namespace Coderd.Builds

open Coderd.Foundation Coderd.Rbac
open Coderd.Auth (UserRow)
open Coderd.Catalog (WorkspaceRow WorkspaceBuildRow WorkspaceBuildRecord)
open Coderd.CryptoKeys (OffsetDateTime)
open Coderd.Provisioner
open Coderd.Workspaces (Cron JoinedRow prebuildsUserId)

/-! ## Programs over the store -/

abbrev Handler := Calls Op Op.Response

abbrev Outcome (α : Type) := Handler (Except StorageError α)

def ask (query : StoreCall) : Outcome query.Response := .call (.store query) .done

structure Config where
  allowUserCustomQuietHours : Bool
  defaultQuietHoursSchedule : String

/-- Hours of the day, in UTC. -/
structure QuietHoursWindow where
  startHour : Nat
  endHour : Nat

def hourOf (t : OffsetDateTime) : Int := t.unixNanos / (3600 * 10 ^ 9) % 24

def QuietHoursWindow.isQuiet (window : QuietHoursWindow) (now : OffsetDateTime) : Bool :=
  let hour := hourOf now
  if window.startHour ≤ window.endHour then window.startHour ≤ hour && hour < window.endHour
  else window.startHour ≤ hour || hour < window.endHour

/-- The reading of schedules and the calendar, on the crates `chrono` and `chrono-tz`. -/
class QuietHours where
  parseQuietHoursSchedule : String → Option QuietHoursWindow
  computeMaxDeadline : Int → Int → QuietHoursWindow → OffsetDateTime → Option OffsetDateTime

/-! ## Tags -/

/-- Empty values are not merged. -/
def mergeTags (target extra : Tags) : Tags :=
  extra.entries.foldl (fun tags e => if e.2.isEmpty then tags else tags.insert e.1 e.2) target

def mutateTags (userId : Uuid) (provided : List Tags) : Tags :=
  let tags := provided.foldl mergeTags ∅
  let tags :=
    if (tags.lookup "scope").isNone then
      (tags.insert "scope" "organization").insert "owner" ""
    else tags
  match tags.lookup "scope" with
  | some "user" => tags.insert "owner" userId.toHyphenated
  | some "organization" => tags.insert "owner" ""
  | _ => (tags.insert "scope" "organization").insert "owner" ""

/-- The tags of the job that imported the version, if there are both. -/
def buildProvisionerTags (ownerId templateVersionId : Uuid) : Outcome Tags :=
  (ask (.findTemplateVersionById templateVersionId)).bindOk fun
    | none => .done (.ok (mutateTags ownerId [∅]))
    | some version =>
      (ask (.getProvisionerJobById version.jobId)).bindOk fun job =>
        .done (.ok (mutateTags ownerId [(job.map (·.tags)).getD ∅]))

/-! ## Builds that are asked for -/

section

variable [QuietHours] (config : Config)

def maxDeadlineOf (template : TemplateRow) (rawSchedule : String) (now : OffsetDateTime) :
    Option OffsetDateTime :=
  (QuietHours.parseQuietHoursSchedule rawSchedule).bind fun window =>
    QuietHours.computeMaxDeadline template.autostopRequirementDaysOfWeek
      template.autostopRequirementWeeks window now

def resolveBuildMaxDeadline (template : TemplateRow) (ownerId : Uuid) (now : OffsetDateTime) :
    Outcome (Option OffsetDateTime) :=
  if template.autostopRequirementDaysOfWeek = 0 then .done (.ok none)
  else if config.allowUserCustomQuietHours then
    (ask (.getUserConfig ownerId "quiet_hours_schedule")).bindOk fun record =>
      let rawSchedule := (record.filter (!·.isEmpty)).getD config.defaultQuietHoursSchedule
      .done (.ok (maxDeadlineOf template rawSchedule now))
  else .done (.ok (maxDeadlineOf template config.defaultQuietHoursSchedule now))

/-- A job of the type of builds, pending. -/
def buildJob (id : Uuid) (createdAt updatedAt : OffsetDateTime) (organizationId initiatorId : Uuid)
    (input : JobInput) (tags : Tags) : CreateProvisionerJobInput where
  id := id
  createdAt := createdAt
  updatedAt := updatedAt
  organizationId := organizationId
  initiatorId := initiatorId
  provisioner := .echo
  jobType := "workspace_build"
  input := input
  tags := tags

/-- The job, and then the build: what `post_workspace_build`, `post_user_workspace` and
`post_org_member_workspace` have in common. -/
def startBuild (initiatorId organizationId ownerId workspaceId : Uuid) (template : TemplateRow)
    (templateVersionId : Uuid) (transition : String) : Outcome (Uuid × WorkspaceBuildRow) :=
  .call .newUuid fun jobId =>
  .call .newUuid fun buildId =>
  (buildProvisionerTags ownerId templateVersionId).bindOk fun tags =>
  .call .nowUtc fun createdAt =>
  .call .nowUtc fun updatedAt =>
  (ask (.createProvisionerJob
    (buildJob jobId createdAt updatedAt organizationId initiatorId .empty tags))).bindOk fun _ =>
  .call .nowUtc fun now =>
  (resolveBuildMaxDeadline config template ownerId now).bindOk fun maxDeadline =>
  (ask (.insertWorkspaceBuild
    { id := buildId
      workspaceId
      templateVersionId
      transition
      initiatorId
      jobId
      reason := "initiator"
      deadline := maxDeadline
      maxDeadline })).bindOk fun build => .done (.ok (buildId, build))

inductive Response where
  | notFound (message : String)
  | forbidden (message : String)
  | validation (field detail : String)
  | createdWorkspace (id : Uuid) (workspace : WorkspaceRow)
  | createdBuild (id : Uuid) (build : WorkspaceBuildRow)

def resourceNotFound : Response :=
  .notFound "Resource not found or you do not have access to this resource"

/-- The body of a request for a build, by what `get` and `as_str` find in it. -/
structure BuildBody where
  transition : Option String
  templateVersionId : Option String

variable [UuidText] (actor : Actor)

def postWorkspaceBuild (workspaceId : Uuid) (body : BuildBody) : Outcome Response :=
  (ask (.findWorkspaceById workspaceId)).bindOk fun
    | none => .done (.ok resourceNotFound)
    | some workspace =>
      match authorize actor .update ((((Object.new .workspace).withId workspaceId).withOwner
          workspace.ownerId).inOrg workspace.organizationId) with
      | .error _ =>
        .done (.ok (.forbidden "You are not authorized to create builds for this workspace."))
      | .ok () =>
        (ask (.findTemplateById workspace.templateId)).bindOk fun
          | none => .done (.ok (.notFound "Template not found."))
          | some template =>
            let templateVersionId :=
              (body.templateVersionId.bind Uuid.parse).getD template.activeVersionId
            (startBuild config actor.userId workspace.organizationId workspace.ownerId workspaceId
              template templateVersionId (body.transition.getD "start")).bindOk fun build =>
                .done (.ok (.createdBuild build.1 build.2))

/-! ## Workspaces that are asked for -/

/-- The body of a request for a workspace. A parameter whose name or value is not a text is left
out. -/
structure WorkspaceBody where
  templateId : Option String
  name : Option String
  autostartSchedule : Option String
  ttlMs : Option Int
  automaticUpdates : Option String
  templateVersionId : Option String
  richParameterValues : List (Option String × Option String)

def WorkspaceBody.paramPairs (body : WorkspaceBody) : List (String × String) :=
  body.richParameterValues.filterMap fun
    | (some name, some value) => some (name, value)
    | _ => none

/-- The template and the name, or the field that is wrong. -/
def WorkspaceBody.checked (body : WorkspaceBody) : Except (String × String) (Uuid × String) :=
  match body.templateId with
  | none => .error ("template_id", "Template ID is required.")
  | some id =>
    match Uuid.parse id with
    | none => .error ("template_id", "Invalid UUID.")
    | some templateId =>
      let name := body.name.getD ""
      if name.isEmpty then .error ("name", "Name is required.") else .ok (templateId, name)

def resolveUser (requestedUser : String) : Outcome (Option Uuid) :=
  let found (id : Uuid) (user : Option UserRow) := user.map fun _ => id
  if requestedUser = "me" then
    (ask (.findUserById actor.userId)).bindOk fun user => .done (.ok (found actor.userId user))
  else
    match Uuid.parse requestedUser with
    | some userId =>
      (ask (.findUserById userId)).bindOk fun user => .done (.ok (found userId user))
    | none =>
      (ask (.findUserByUsername requestedUser)).bindOk fun user => .done (.ok (user.map (·.1)))

def resolveOrganization (orgRef : String) : Outcome (Option Uuid) :=
  match Uuid.parse orgRef with
  | some id =>
    (ask (.findOrganizationById id)).bindOk fun organization =>
      .done (.ok (organization.map fun _ => id))
  | none =>
    (ask (.findOrganizationByName orgRef)).bindOk fun organization =>
      .done (.ok (organization.map (·.1)))

/-- The multiplication of an `i64`, which wraps around in a release build. -/
def nanosOfMillis (ms : Int) : Int := wrap 64 (ms * 1000000)

/-- From the template on, where the two endpoints are the same but for where they take the
organization from. -/
def createWorkspace (targetUser organizationId templateId : Uuid) (template : TemplateRow)
    (name : String) (body : WorkspaceBody) : Outcome Response :=
  .call .newUuid fun workspaceId =>
  (ask (.insertWorkspace
    { id := workspaceId
      ownerId := targetUser
      organizationId
      templateId
      name
      autostartSchedule := body.autostartSchedule
      ttlNs := body.ttlMs.map nanosOfMillis
      automaticUpdates := body.automaticUpdates.getD "never" })).bindOk fun workspace =>
  (startBuild config actor.userId organizationId targetUser workspaceId template
    ((body.templateVersionId.bind Uuid.parse).getD template.activeVersionId) "start").bindOk
    fun build =>
      if body.paramPairs.isEmpty then .done (.ok (.createdWorkspace workspaceId workspace))
      else
        (ask (.insertWorkspaceBuildParameters build.1 body.paramPairs)).bindOk fun _ =>
          .done (.ok (.createdWorkspace workspaceId workspace))

def postUserWorkspace (user : String) (body : WorkspaceBody) : Outcome Response :=
  (resolveUser actor user).bindOk fun
    | none => .done (.ok resourceNotFound)
    | some targetUser =>
      match authorize actor .create ((Object.new .workspace).withOwner targetUser) with
      | .error _ =>
        .done (.ok (.forbidden "You are not authorized to create workspaces for this user."))
      | .ok () =>
        match body.checked with
        | .error (field, detail) => .done (.ok (.validation field detail))
        | .ok (templateId, name) =>
          (ask (.findTemplateById templateId)).bindOk fun
            | none => .done (.ok (.notFound "Template not found."))
            | some template =>
              createWorkspace config actor targetUser template.organizationId templateId template
                name body

def postOrgMemberWorkspace (organization user : String) (body : WorkspaceBody) :
    Outcome Response :=
  (resolveOrganization organization).bindOk fun
    | none => .done (.ok (.notFound "Organization not found."))
    | some organizationId =>
      (resolveUser actor user).bindOk fun
        | none => .done (.ok resourceNotFound)
        | some targetUser =>
          match authorize actor .create
              (((Object.new .workspace).withOwner targetUser).inOrg organizationId) with
          | .error _ =>
            .done (.ok (.forbidden
              "You are not authorized to create workspaces in this organization."))
          | .ok () =>
            match body.checked with
            | .error (field, detail) => .done (.ok (.validation field detail))
            | .ok (templateId, name) =>
              (ask (.findTemplateById templateId)).bindOk fun
                | none => .done (.ok (.notFound "Template not found."))
                | some template =>
                  if template.organizationId ≠ organizationId then
                    .done (.ok (.notFound "Template not found in the specified organization."))
                  else
                    createWorkspace config actor targetUser organizationId templateId template name
                      body

end

/-! ## Builds of the lifecycle -/

/-- `trigger_workspace_start` and `trigger_workspace_stop`. -/
def triggerWorkspaceBuild (ws : JoinedRow) (transition reason : String) (now : OffsetDateTime) :
    Outcome Unit :=
  (ask (.findLatestWorkspaceBuild ws.workspaceId)).bindOk fun
    | none => .done (.error (.notFound "no build found for workspace"))
    | some latestBuild =>
      (ask (.findWorkspaceById ws.workspaceId)).bindOk fun
        | none => .done (.error (.notFound "workspace not found"))
        | some workspace =>
          .call .newUuid fun jobId =>
          (buildProvisionerTags ws.workspace.ownerId latestBuild.templateVersionId).bindOk fun tags =>
          (ask (.createProvisionerJob (buildJob jobId now now workspace.organizationId
            ws.workspace.ownerId .empty tags))).bindOk fun _ =>
          .call .newUuid fun buildId =>
          (ask (.insertWorkspaceBuild
            { id := buildId
              workspaceId := ws.workspaceId
              templateVersionId := latestBuild.templateVersionId
              transition
              initiatorId := ws.workspace.ownerId
              jobId
              reason
              deadline := none
              maxDeadline := none })).bindOk fun _ => .done (.ok ())

def triggerWorkspaceStart (ws : JoinedRow) (now : OffsetDateTime) : Outcome Unit :=
  triggerWorkspaceBuild ws "start" "autostart" now

def triggerWorkspaceStop (ws : JoinedRow) (reason : String) (now : OffsetDateTime) : Outcome Unit :=
  triggerWorkspaceBuild ws "stop" reason now

structure LifecycleStats where
  started : Nat
  stopped : Nat
  errors : Nat

def LifecycleStats.countStop (stats : LifecycleStats) : Except StorageError Unit → LifecycleStats
  | .ok () => { stats with stopped := stats.stopped + 1 }
  | .error _ => { stats with errors := stats.errors + 1 }

def LifecycleStats.countStart (stats : LifecycleStats) : Except StorageError Unit → LifecycleStats
  | .ok () => { stats with started := stats.started + 1 }
  | .error _ => { stats with errors := stats.errors + 1 }

section

variable [Cron] (now : OffsetDateTime) (quietHours : Option QuietHoursWindow)

/-- The workspaces one after the other; an error of one does not stop the tick. -/
def lifecycleTransitions : List JoinedRow → LifecycleStats → Handler LifecycleStats
  | [], stats => .done stats
  | ws :: rest, stats =>
    if Workspaces.isEligibleForAutostop ws.transitionRow now then
      (triggerWorkspaceStop ws "autostop" now).bind fun result =>
        lifecycleTransitions rest (stats.countStop result)
    else if Workspaces.isEligibleForAutostart ws.transitionRow now then
      if quietHours.any (·.isQuiet now) then lifecycleTransitions rest stats
      else
        (triggerWorkspaceStart ws now).bind fun result =>
          lifecycleTransitions rest (stats.countStart result)
    else if Workspaces.isEligibleForFailedStop ws.transitionRow now then
      (triggerWorkspaceStop ws "autostop" now).bind fun result =>
        lifecycleTransitions rest (stats.countStop result)
    else lifecycleTransitions rest stats

def lifecycleTickOnce : Outcome LifecycleStats :=
  (ask (.getWorkspacesEligibleForTransition now)).bindOk fun workspaces =>
    (lifecycleTransitions now quietHours workspaces ⟨0, 0, 0⟩).bind fun stats => .done (.ok stats)

end

/-! ## Prebuilds -/

namespace PrebuildBuilder

structure PrebuildStartInput where
  organizationId : Uuid
  templateId : Uuid
  templateVersionId : Uuid
  presetId : Uuid

/-- `prebuild-` and the first twelve digits of the id. -/
def prebuildName (workspaceId : Uuid) : String :=
  "prebuild-" ++ String.ofList ((Uuid.toHex 32 workspaceId.bits.toNat).take 12)

/-- The job of a prebuild, and then its build. -/
def insertBuild (workspaceId organizationId templateVersionId jobId buildId : Uuid)
    (transition : String) (input : JobInput) (now : OffsetDateTime) : Outcome WorkspaceBuildRow :=
  (ask (.createProvisionerJob
    (buildJob jobId now now organizationId prebuildsUserId input ∅))).bindOk fun _ =>
  (ask (.insertWorkspaceBuild
    { id := buildId
      workspaceId
      templateVersionId
      transition
      initiatorId := prebuildsUserId
      jobId
      reason := "prebuild"
      deadline := none
      maxDeadline := none }))

def start (input : PrebuildStartInput) : Outcome WorkspaceBuildRow :=
  .call .nowUtc fun now =>
  .call .newUuid fun workspaceId =>
  .call .newUuid fun jobId =>
  .call .newUuid fun buildId =>
  (ask (.insertWorkspace
    { id := workspaceId
      ownerId := prebuildsUserId
      organizationId := input.organizationId
      templateId := input.templateId
      name := prebuildName workspaceId
      autostartSchedule := none
      ttlNs := none
      automaticUpdates := "never" })).bindOk fun _ =>
  insertBuild workspaceId input.organizationId input.templateVersionId jobId buildId "start"
    (.prebuildStart input.presetId) now

/-- Without a build to take the version from it is the nil id. -/
def delete (workspaceId : Uuid) : Outcome WorkspaceBuildRow :=
  .call .nowUtc fun now =>
  .call .newUuid fun jobId =>
  .call .newUuid fun buildId =>
  (ask (.findWorkspaceById workspaceId)).bindOk fun
    | none =>
      .done (.error (.notFound ("prebuilt workspace " ++ workspaceId.toHyphenated ++ " not found")))
    | some workspace =>
      (ask (.findLatestWorkspaceBuild workspaceId)).bindOk fun latest =>
      insertBuild workspaceId workspace.organizationId
        ((latest.map (·.templateVersionId)).getD ⟨0⟩) jobId buildId "delete" .prebuildDelete now

end PrebuildBuilder

/-! ## Requests -/

inductive Request where
  | postWorkspaceBuild (actor : Actor) (workspaceId : Uuid) (body : BuildBody)
  | postUserWorkspace (actor : Actor) (user : String) (body : WorkspaceBody)
  | postOrgMemberWorkspace (actor : Actor) (organization user : String) (body : WorkspaceBody)
  | lifecycleTick (now : OffsetDateTime) (quietHours : Option QuietHoursWindow)
  | startPrebuild (input : PrebuildBuilder.PrebuildStartInput)
  | deletePrebuild (workspaceId : Uuid)
  | acquireJob (input : AcquireProvisionerJobInput)
  | completeJob (input : CompleteProvisionerJobInput)

section

variable [Cron] [QuietHours] [UuidText] (config : Config)

/-- A request, until it is answered. -/
def handle : Request → Handler Unit
  | .postWorkspaceBuild actor workspaceId body =>
    (postWorkspaceBuild config actor workspaceId body).bind fun _ => .done ()
  | .postUserWorkspace actor user body =>
    (postUserWorkspace config actor user body).bind fun _ => .done ()
  | .postOrgMemberWorkspace actor organization user body =>
    (postOrgMemberWorkspace config actor organization user body).bind fun _ => .done ()
  | .lifecycleTick now quietHours => (lifecycleTickOnce now quietHours).bind fun _ => .done ()
  | .startPrebuild input => (PrebuildBuilder.start input).bind fun _ => .done ()
  | .deletePrebuild workspaceId => (PrebuildBuilder.delete workspaceId).bind fun _ => .done ()
  | .acquireJob input => (ask (.acquireProvisionerJob input)).bind fun _ => .done ()
  | .completeJob input =>
    (ask (.updateProvisionerJobWithCompleteById input)).bind fun _ => .done ()

/-- What may change besides: a version is imported, a template gets another active version. -/
inductive Event where
  | importVersion (id : Uuid) (row : TemplateVersionRow)
  | promote (templateId versionId : Uuid)

def World.after (w : World) : Event → World
  | .importVersion id row =>
    match w.versions.lookup id with
    | some _ => w
    | none => { w with versions := w.versions.insert id row }
  | .promote templateId versionId =>
    match w.templates.lookup templateId with
    | none => w
    | some template =>
      { w with
        templates := w.templates.insert templateId { template with activeVersionId := versionId } }

@[reducible] def builds [Collation] : Service Op Op.Response Unit World Choice Request Event where
  exec := exec
  enter := handle config
  outside := World.after

abbrev poolAfter [Collation] (w : World) (moves : List (Move Request Choice Event)) :
    Pool World (Handler Unit) :=
  (builds config).program.run { shared := w, tasks := [] } moves

end

end Coderd.Builds
