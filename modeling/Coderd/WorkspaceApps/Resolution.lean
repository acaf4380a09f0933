import Coderd.Rbac.Types
import Coderd.WorkspaceApps.Requests
import Coderd.Workspaces.Catalog

namespace Coderd.WorkspaceApps

open Coderd.Foundation Coderd.Catalog
open Coderd.Rbac (eqIgnoreAsciiCase)

/-! ## Apps -/

inductive AppSharingLevel where
  | owner
  | authenticated
  | organization
  | «public»
  deriving DecidableEq, Repr

def AppSharingLevel.asStr : AppSharingLevel → String
  | owner => "owner"
  | authenticated => "authenticated"
  | organization => "organization"
  | «public» => "public"

theorem AppSharingLevel.isOrganization_asStr (level : AppSharingLevel) :
    eqIgnoreAsciiCase level.asStr "organization" = true ↔ level = .organization := by
  cases level <;> decide

inductive WorkspaceAppHealth where
  | disabled
  | initializing
  | healthy
  | unhealthy
  deriving DecidableEq, Repr

def WorkspaceAppHealth.asStr : WorkspaceAppHealth → String
  | disabled => "disabled"
  | initializing => "initializing"
  | healthy => "healthy"
  | unhealthy => "unhealthy"

/-- A row of `workspace_apps`, without its id. -/
structure WorkspaceAppRow where
  agentId : Uuid
  slug : String
  url : Option String
  health : WorkspaceAppHealth
  sharingLevel : AppSharingLevel

/-- The catalogue with the apps of the agents. An agent may have two apps with one slug. -/
structure AppDb (lower : String → String) extends Db lower where
  apps : HashMap Uuid WorkspaceAppRow

def AppDb.findWorkspaceAppByAgentAndSlug {lower : String → String} (db : AppDb lower)
    (agentId : Uuid) (slug : String) : Option (Uuid × WorkspaceAppRow) :=
  db.apps.selectFirst fun _ row => row.agentId = agentId && row.slug = slug

/-- A parsed URL. `port` is `none` where the text gives none or the one of its scheme. -/
structure Url where
  text : String
  port : Option Nat
  deriving DecidableEq

/-- `Url::parse`, of the crate `url`. -/
class UrlParser where
  parse : String → Except String Url

structure ResolvedApp where
  url : Url
  agentId : Uuid
  workspaceId : Uuid
  workspaceOrganizationId : Uuid
  sharingLevel : String
  slugOrPort : String
  deriving DecidableEq

/-! ## Resolution -/

section

variable [DebugText] {lower : String → String} (db : AppDb lower) (request : AppRequest)

def requestedUser : Except WorkspaceAppError (Uuid × UserRow) :=
  match db.findUserByUsername request.usernameOrId with
  | none => .error (.notFound ("user " ++ debug request.usernameOrId ++ " not found"))
  | some user => .ok user

def requestedWorkspace (ownerId : Uuid) : Except WorkspaceAppError (Uuid × WorkspaceRow) :=
  match db.findWorkspaceByOwnerAndName ownerId request.workspaceNameOrId with
  | none =>
    .error (.notFound ("workspace " ++ debug request.workspaceNameOrId ++ " not found for user " ++
      debug request.usernameOrId))
  | some workspace => .ok workspace

/-- The workspace of the id, or else of the owner and the name. -/
def lookupWorkspaceForRequest : Except WorkspaceAppError (Uuid × WorkspaceRow) := do
  if let some id := Uuid.parse request.workspaceNameOrId then
    if let some row := db.findWorkspaceById id then
      return (id, row)
  let (userId, _) ← requestedUser db request
  requestedWorkspace db request userId

def latestBuild (workspaceId : Uuid) : Except WorkspaceAppError WorkspaceBuildRecord :=
  match db.findLatestWorkspaceBuild workspaceId with
  | .error e => .error (.internal ("failed to look up workspace build: " ++ e))
  | .ok none =>
    .error (.notFound ("no build found for workspace " ++ debug request.workspaceNameOrId))
  | .ok (some build) => .ok build

/-- The agents of the build's resources, the oldest one first. -/
def agentsOfJob (jobId : Uuid) : List (Uuid × WorkspaceAgentRow) :=
  db.listWorkspaceAgentsByResourceIds ((db.listWorkspaceResourcesByJob jobId).map (·.1))

/-- The only agent where the request names none. -/
def pickAgent (agents : List (Uuid × WorkspaceAgentRow)) : Except WorkspaceAppError Uuid :=
  if request.agentNameOrId.isEmpty then
    match agents with
    | [agent] => .ok agent.1
    | [] => .error (.notFound "no agents found for workspace")
    | _ => .error (.notFound "workspace has multiple agents; specify an agent name")
  else
    match agents.find? fun agent => agent.2.name = request.agentNameOrId with
    | some agent => .ok agent.1
    | none =>
      .error (.notFound ("agent " ++ debug request.agentNameOrId ++ " not found in workspace " ++
        debug request.workspaceNameOrId))

/-- The agent's id as it stands in the request, or the agent of that name in the latest build of
the workspace of that owner and name. -/
def resolveWorkspaceAgentId : Except WorkspaceAppError Uuid := do
  if let some id := Uuid.parse request.agentNameOrId then
    return id
  let (userId, _) ← requestedUser db request
  let (workspaceId, _) ← requestedWorkspace db request userId
  let build ← latestBuild db request workspaceId
  pickAgent request (agentsOfJob db build.jobId)

end

section

variable [DebugText] [UrlParser] {lower : String → String}

def WorkspaceAppHealth.running (health : WorkspaceAppHealth) : Bool :=
  health.asStr.isEmpty || eqIgnoreAsciiCase health.asStr "healthy" ||
    eqIgnoreAsciiCase health.asStr "disabled"

/-- The URL and the sharing level of the agent's port or app. -/
def resolveTarget (db : AppDb lower) (agentId : Uuid) (agent : WorkspaceAgentRow) (slug : String)
    (slugIsPort : Bool) : Except WorkspaceAppError (Url × String) :=
  match portOf slug slugIsPort with
  | some (protocol, port) =>
    match UrlParser.parse (protocol ++ "://" ++ agent.name ++ ":" ++ toString port) with
    | .error e => .error (.internal ("invalid port URL: " ++ e))
    | .ok url => .ok (url, "")
  | none =>
    match db.findWorkspaceAppByAgentAndSlug agentId slug with
    | none => .error (.notFound ("application " ++ debug slug ++ " not found for agent"))
    | some (_, app) =>
      if (app.url.getD "").isEmpty then .error (.classified .appUrlNotSet)
      else
        match UrlParser.parse (app.url.getD "") with
        | .error e => .error (.internal ("invalid app URL: " ++ e))
        | .ok url =>
          if app.health.running then .ok (url, app.sharingLevel.asStr)
          else .error (.classified .appNotRunning)

def resolveAppContext (db : AppDb lower) (request : AppRequest) (slugIsPort : Bool) :
    Except WorkspaceAppError ResolvedApp := do
  let agentId ← resolveWorkspaceAgentId db request
  match db.findWorkspaceAgentById agentId with
  | none => .error (.notFound "workspace agent not found")
  | some agent =>
    if agent.firstConnectedAt.isNone then .error (.classified .agentNotReporting)
    else if agent.disconnectedAt.isSome && agent.lastConnectedAt.isNone then
      .error (.classified .agentNotConnected)
    else
      let (workspaceId, workspace) ← lookupWorkspaceForRequest db request
      if agent.name.isEmpty then .error (.internal "workspace agent has no name configured")
      else
        let (url, sharingLevel) ← resolveTarget db agentId agent request.appSlugOrPort slugIsPort
        return {
          url
          agentId
          workspaceId
          workspaceOrganizationId := workspace.organizationId
          sharingLevel
          slugOrPort := request.appSlugOrPort }

end

end Coderd.WorkspaceApps
