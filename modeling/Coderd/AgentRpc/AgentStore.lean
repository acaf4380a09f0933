import Mathlib.Data.Prod.Lex
import Mathlib.Data.String.Basic
import Coderd.Foundation.Frame
import Coderd.Workspaces.Catalog

namespace Coderd.AgentRpc

open Coderd.Foundation
open Coderd.Catalog (WorkspaceRow WorkspaceBuildRow WorkspaceResourceRow)
open Coderd.CryptoKeys (OffsetDateTime)

/-! ## Rows -/

/-- A row of `workspace_agents`, without its id. -/
structure WorkspaceAgentRow where
  parentId : Option Uuid
  createdAt : OffsetDateTime
  updatedAt : OffsetDateTime
  name : String
  resourceId : Uuid
  authToken : Uuid
  authInstanceId : Option String
  architecture : String
  operatingSystem : String
  directory : String
  expandedDirectory : String
  version : String
  apiVersion : String
  connectionTimeoutSeconds : Int
  troubleshootingUrl : String
  motdFile : String
  lifecycleState : String
  logsLength : Int
  logsOverflowed : Bool
  startedAt : Option OffsetDateTime
  readyAt : Option OffsetDateTime
  subsystems : List String
  displayApps : List String
  displayOrder : Int
  apiKeyScope : String
  deleted : Bool

/-- A row of `workspace_apps`, without its id. -/
structure WorkspaceAppRow where
  agentId : Uuid
  slug : String
  healthcheckUrl : String
  health : String
  displayOrder : Int

/-- A row of `workspace_agent_metadata`, without its key. -/
structure WorkspaceAgentMetadataRow where
  value : String
  error : String
  collectedAt : OffsetDateTime

structure WorkspaceAgentLogRow where
  id : Nat
  agentId : Uuid
  createdAt : OffsetDateTime
  output : String
  level : String
  logSourceId : Uuid

/-- A row of `workspace_agent_log_sources`, without its id. -/
structure WorkspaceAgentLogSourceRow where
  workspaceAgentId : Uuid

/-- A row of `workspace_agent_scripts`, without its id. -/
structure WorkspaceAgentScriptRow where
  workspaceAgentId : Uuid

/-- A row of `workspace_agent_script_timings`, and what it is inserted from. -/
structure InsertAgentScriptTimingInput where
  scriptId : Uuid
  startedAt : OffsetDateTime
  endedAt : OffsetDateTime
  exitCode : Int
  stage : String
  status : String

structure InsertWorkspaceAppStatusInput where
  agentId : Uuid
  appId : Uuid
  workspaceId : Uuid
  state : String
  message : String
  uri : Option String

/-- A row of `workspace_app_statuses`, without its id. -/
structure WorkspaceAppStatusRow extends InsertWorkspaceAppStatusInput where
  createdAt : OffsetDateTime

structure AgentDb where
  agents : HashMap Uuid WorkspaceAgentRow
  apps : HashMap Uuid WorkspaceAppRow
  metadata : HashMap (Uuid × String) WorkspaceAgentMetadataRow
  logs : List WorkspaceAgentLogRow
  nextLogId : Nat
  logSources : HashMap Uuid WorkspaceAgentLogSourceRow
  scripts : HashMap Uuid WorkspaceAgentScriptRow
  scriptTimings : List InsertAgentScriptTimingInput
  appStatuses : HashMap Uuid WorkspaceAppStatusRow
  workspaces : HashMap Uuid WorkspaceRow
  builds : HashMap Uuid WorkspaceBuildRow
  resources : HashMap Uuid WorkspaceResourceRow

/-- `max_logs_length`. -/
def maxLogsLength : Int := 1048576

def WorkspaceAgentRow.addLogs (row : WorkspaceAgentRow) (count : Int) : WorkspaceAgentRow :=
  { row with
    logsLength := min (row.logsLength + count) maxLogsLength
    logsOverflowed := row.logsOverflowed || maxLogsLength < row.logsLength + count }

/-! ## Inputs -/

structure InsertAgentLogInput where
  createdAt : OffsetDateTime
  output : String
  level : String

structure UpsertAgentMetadataEntry where
  key : String
  value : String
  error : String
  collectedAt : OffsetDateTime

structure InsertWorkspaceAgentInput where
  id : Uuid
  parentId : Option Uuid
  createdAt : OffsetDateTime
  updatedAt : OffsetDateTime
  name : String
  resourceId : Uuid
  authToken : Uuid
  authInstanceId : Option String
  architecture : String
  operatingSystem : String
  directory : String
  connectionTimeoutSeconds : Int
  troubleshootingUrl : String
  motdFile : String
  displayApps : List String
  displayOrder : Int
  apiKeyScope : String

/-- The other columns have their defaults. -/
def InsertWorkspaceAgentInput.row (input : InsertWorkspaceAgentInput) : WorkspaceAgentRow where
  parentId := input.parentId
  createdAt := input.createdAt
  updatedAt := input.updatedAt
  name := input.name
  resourceId := input.resourceId
  authToken := input.authToken
  authInstanceId := input.authInstanceId
  architecture := input.architecture
  operatingSystem := input.operatingSystem
  directory := input.directory
  expandedDirectory := ""
  version := ""
  apiVersion := ""
  connectionTimeoutSeconds := input.connectionTimeoutSeconds
  troubleshootingUrl := input.troubleshootingUrl
  motdFile := input.motdFile
  lifecycleState := "created"
  logsLength := 0
  logsOverflowed := false
  startedAt := none
  readyAt := none
  subsystems := []
  displayApps := input.displayApps
  displayOrder := input.displayOrder
  apiKeyScope := input.apiKeyScope
  deleted := false

/-! ## Calls -/

inductive StorageError where
  | unavailable (message : String)
  | notFound (message : String)
  | invalidData (message : String)
  deriving DecidableEq

def StorageError.display : StorageError → String
  | unavailable message => "storage unavailable: " ++ message
  | notFound message => "not found: " ++ message
  | invalidData message => "stored data is invalid: " ++ message

inductive StoreCall where
  | findWorkspaceAgentById (agentId : Uuid)
  | findWorkspaceByAgentId (agentId : Uuid)
  | listWorkspaceAppsByAgentId (agentId : Uuid)
  | findWorkspaceAppByAgentAndSlug (agentId : Uuid) (slug : String)
  | insertWorkspaceAgent (input : InsertWorkspaceAgentInput)
  | insertWorkspaceAgentLogs (agentId logSourceId : Uuid) (logs : List InsertAgentLogInput)
  | updateWorkspaceAgentLifecycleState (agentId : Uuid) (lifecycleState : String)
      (startedAt readyAt : Option OffsetDateTime)
  | updateWorkspaceAgentStartup (agentId : Uuid) (version expandedDirectory : String)
      (subsystems : List String) (apiVersion : String)
  | updateWorkspaceAppHealth (appId : Uuid) (health : String)
  | upsertWorkspaceAgentMetadata (agentId : Uuid) (entries : List UpsertAgentMetadataEntry)
  | insertWorkspaceAgentScriptTiming (input : InsertAgentScriptTimingInput)
  | deleteWorkspaceSubAgent (subAgentId : Uuid)
  | insertWorkspaceAppStatus (input : InsertWorkspaceAppStatusInput)

/-- A row that is not found by its id comes with it. -/
abbrev StoreCall.Response : StoreCall → Type
  | findWorkspaceAgentById _ => Option WorkspaceAgentRow
  | findWorkspaceByAgentId _ => Option (Uuid × WorkspaceRow)
  | listWorkspaceAppsByAgentId _ => List (Uuid × WorkspaceAppRow)
  | findWorkspaceAppByAgentAndSlug _ _ => Option (Uuid × WorkspaceAppRow)
  | insertWorkspaceAgent _ => Uuid × WorkspaceAgentRow
  | insertWorkspaceAgentLogs _ _ _ => List WorkspaceAgentLogRow
  | updateWorkspaceAgentLifecycleState _ _ _ _ => Unit
  | updateWorkspaceAgentStartup _ _ _ _ _ => Unit
  | updateWorkspaceAppHealth _ _ => Unit
  | upsertWorkspaceAgentMetadata _ _ => Unit
  | insertWorkspaceAgentScriptTiming _ => Unit
  | deleteWorkspaceSubAgent _ => Unit
  | insertWorkspaceAppStatus _ => Uuid × WorkspaceAppStatusRow

/-- What the code does not decide: the clock, an id that is drawn, the row that a query reads first
where it selects several, what the database says of a statement that it refuses, and the error of a
call that fails without effect. -/
structure Choice where
  now : OffsetDateTime
  uuid : Uuid
  first : Uuid
  refusal : String
  fails : Option StorageError

namespace AgentDb

/-- A row by its id, unless it is marked as deleted. -/
def findWorkspaceAgentById (db : AgentDb) (agentId : Uuid) : Option WorkspaceAgentRow :=
  (db.agents.lookup agentId).filter fun row => !row.deleted

/-- The workspace of the latest build that made the agent's resource. -/
def findWorkspaceByAgentId (db : AgentDb) (agentId : Uuid) : Option (Uuid × WorkspaceRow) := do
  let agent ← db.findWorkspaceAgentById agentId
  let resource ← db.resources.lookup agent.resourceId
  let workspace := fun id => (db.workspaces.lookup id).filter fun row => !row.deleted
  let build ← db.builds.selectGreatest
    (fun _ row => row.jobId = some resource.jobId && (workspace row.workspaceId).isSome)
    (·.buildNumber)
  (workspace build.2.workspaceId).map fun row => (build.2.workspaceId, row)

def listWorkspaceAppsByAgentId (db : AgentDb) (agentId : Uuid) : List (Uuid × WorkspaceAppRow) :=
  db.apps.selectOrdered (fun _ row => row.agentId = agentId)
    fun row => toLex (row.displayOrder, row.slug)

def findWorkspaceAppByAgentAndSlug (db : AgentDb) (first agentId : Uuid) (slug : String) :
    Option (Uuid × WorkspaceAppRow) :=
  db.apps.selectAny first fun _ row => row.agentId = agentId && row.slug = slug

/-- `INSERT` refuses an id that is taken. -/
def insertWorkspaceAgent (db : AgentDb) (refusal : String) (input : InsertWorkspaceAgentInput) :
    Except StorageError (Uuid × WorkspaceAgentRow) × AgentDb :=
  match db.agents.lookup input.id with
  | some _ => (.error (.unavailable refusal), db)
  | none => (.ok (input.id, input.row), { db with agents := db.agents.insert input.id input.row })

/-- The rows of the logs, with the next ids of the sequence. -/
def logRows (agentId logSourceId : Uuid) : Nat → List InsertAgentLogInput →
    List WorkspaceAgentLogRow
  | _, [] => []
  | id, log :: logs =>
    { id
      agentId
      createdAt := log.createdAt
      output := log.output
      level := log.level
      logSourceId } :: logRows agentId logSourceId (id + 1) logs

/-- The agent is there, and the count of its logs stays in the range of an `integer`. -/
def acceptsLogs (db : AgentDb) (agentId : Uuid) (count : Nat) : Bool :=
  (db.agents.lookup agentId).any fun row => decide (row.logsLength + (count : Int) < 2 ^ 31)

/-- Both statements or none, in one transaction. The logs refer to their agent, but not to a source
of it. -/
def insertWorkspaceAgentLogs (db : AgentDb) (refusal : String) (agentId logSourceId : Uuid)
    (logs : List InsertAgentLogInput) :
    Except StorageError (List WorkspaceAgentLogRow) × AgentDb :=
  if 2 ^ 31 ≤ logs.length then (.error (.invalidData "too many log entries"), db)
  else if logs.isEmpty then (.ok [], db)
  else if db.acceptsLogs agentId logs.length then
    let rows := logRows agentId logSourceId db.nextLogId logs
    (.ok rows,
      { db with
        agents := db.agents.modify agentId fun row => row.addLogs logs.length
        logs := db.logs ++ rows
        nextLogId := db.nextLogId + logs.length })
  else (.error (.unavailable refusal), db)

def updateWorkspaceAgentLifecycleState (db : AgentDb) (agentId : Uuid) (lifecycleState : String)
    (startedAt readyAt : Option OffsetDateTime) : AgentDb :=
  { db with
    agents := db.agents.modify agentId fun row =>
      { row with
        lifecycleState := lifecycleState
        startedAt := startedAt.or row.startedAt
        readyAt := readyAt.or row.readyAt } }

def updateWorkspaceAgentStartup (db : AgentDb) (agentId : Uuid) (version expandedDirectory : String)
    (subsystems : List String) (apiVersion : String) : AgentDb :=
  { db with
    agents := db.agents.modify agentId fun row =>
      { row with
        version := version
        expandedDirectory := expandedDirectory
        subsystems := subsystems
        apiVersion := apiVersion } }

def updateWorkspaceAppHealth (db : AgentDb) (appId : Uuid) (health : String) : AgentDb :=
  { db with apps := db.apps.modify appId fun row => { row with health := health } }

/-- One `UPDATE` for each entry, in one transaction. A key that the agent does not have is left
out. -/
def upsertWorkspaceAgentMetadata (db : AgentDb) (agentId : Uuid)
    (entries : List UpsertAgentMetadataEntry) : AgentDb :=
  { db with
    metadata := entries.foldl (fun rows entry =>
      rows.modify (agentId, entry.key) fun row =>
        { row with
          value := entry.value
          error := entry.error
          collectedAt := entry.collectedAt }) db.metadata }

/-- The timing refers to a script, whosever it is. -/
def insertWorkspaceAgentScriptTiming (db : AgentDb) (refusal : String)
    (input : InsertAgentScriptTimingInput) : Except StorageError Unit × AgentDb :=
  match db.scripts.lookup input.scriptId with
  | none => (.error (.unavailable refusal), db)
  | some _ => (.ok (), { db with scriptTimings := db.scriptTimings ++ [input] })

def deleteWorkspaceSubAgent (db : AgentDb) (subAgentId : Uuid) : AgentDb :=
  { db with agents := db.agents.modify subAgentId fun row => { row with deleted := true } }

/-- The status refers to its agent, but neither to the app nor to the workspace. -/
def insertWorkspaceAppStatus (db : AgentDb) (choice : Choice)
    (input : InsertWorkspaceAppStatusInput) :
    Except StorageError (Uuid × WorkspaceAppStatusRow) × AgentDb :=
  match db.appStatuses.lookup choice.uuid, db.agents.lookup input.agentId with
  | none, some _ =>
    let row : WorkspaceAppStatusRow := { input with createdAt := choice.now }
    (.ok (choice.uuid, row), { db with appStatuses := db.appStatuses.insert choice.uuid row })
  | _, _ => (.error (.unavailable choice.refusal), db)

/-- A call that does not fail on its own. -/
def perform (db : AgentDb) (choice : Choice) :
    (query : StoreCall) → Except StorageError query.Response × AgentDb
  | .findWorkspaceAgentById agentId => (.ok (db.findWorkspaceAgentById agentId), db)
  | .findWorkspaceByAgentId agentId => (.ok (db.findWorkspaceByAgentId agentId), db)
  | .listWorkspaceAppsByAgentId agentId => (.ok (db.listWorkspaceAppsByAgentId agentId), db)
  | .findWorkspaceAppByAgentAndSlug agentId slug =>
    (.ok (db.findWorkspaceAppByAgentAndSlug choice.first agentId slug), db)
  | .insertWorkspaceAgent input => db.insertWorkspaceAgent choice.refusal input
  | .insertWorkspaceAgentLogs agentId logSourceId logs =>
    db.insertWorkspaceAgentLogs choice.refusal agentId logSourceId logs
  | .updateWorkspaceAgentLifecycleState agentId lifecycleState startedAt readyAt =>
    (.ok (), db.updateWorkspaceAgentLifecycleState agentId lifecycleState startedAt readyAt)
  | .updateWorkspaceAgentStartup agentId version expandedDirectory subsystems apiVersion =>
    (.ok (), db.updateWorkspaceAgentStartup agentId version expandedDirectory subsystems apiVersion)
  | .updateWorkspaceAppHealth appId health => (.ok (), db.updateWorkspaceAppHealth appId health)
  | .upsertWorkspaceAgentMetadata agentId entries =>
    (.ok (), db.upsertWorkspaceAgentMetadata agentId entries)
  | .insertWorkspaceAgentScriptTiming input =>
    db.insertWorkspaceAgentScriptTiming choice.refusal input
  | .deleteWorkspaceSubAgent subAgentId => (.ok (), db.deleteWorkspaceSubAgent subAgentId)
  | .insertWorkspaceAppStatus input => db.insertWorkspaceAppStatus choice input

end AgentDb

end Coderd.AgentRpc
