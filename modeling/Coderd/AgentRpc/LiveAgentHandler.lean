import Coderd.AgentRpc.AgentStore
import Coderd.Foundation.Calls
import Coderd.WorkspaceApps.Requests

namespace Coderd.AgentRpc

open Coderd.Foundation
open Coderd.CryptoKeys (OffsetDateTime)
open Coderd.WorkspaceApps (DebugText debug)

/-! ## Messages

An enum of the protocol is the number on the wire, which need not be one of its values. -/

structure Timestamp where
  seconds : Int
  nanos : Int

structure Startup where
  version : String
  expandedDirectory : String
  subsystems : List Int

structure HealthUpdate where
  id : List UInt8
  health : Int

structure Lifecycle where
  state : Int
  changedAt : Option Timestamp

structure Log where
  createdAt : Option Timestamp
  output : String
  level : Int

structure BatchCreateLogsRequest where
  logSourceId : List UInt8
  logs : List Log

structure BatchCreateLogsResponse where
  logLimitExceeded : Bool

/-- The `WorkspaceAgentMetadata.Result`, as far as it is read. -/
structure MetadataResult where
  value : String
  error : String

structure Metadata where
  key : String
  result : Option MetadataResult

structure Timing where
  scriptId : List UInt8
  start : Option Timestamp
  end_ : Option Timestamp
  exitCode : Int
  stage : Int
  status : Int

structure CreateSubAgentRequest where
  name : String
  directory : String
  architecture : String
  operatingSystem : String
  displayApps : List Int

structure SubAgent where
  name : String
  id : List UInt8
  authToken : List UInt8

structure UpdateAppStatusRequest where
  slug : String
  state : Int
  message : String
  uri : String

inductive RpcError where
  | invalidArgument (message : String)
  | internal (message : String)
  deriving DecidableEq

/-- What is published of a log, before it is rendered. -/
structure WorkspaceAgentLog where
  id : Nat
  createdAt : OffsetDateTime
  output : String
  level : String
  sourceId : Uuid

inductive Payload where
  | lifecycleUpdate
  | metadataUpdate
  | log (log : WorkspaceAgentLog)

/-! ## Calls -/

inductive Op where
  | nowUtc
  | newUuid
  | store (query : StoreCall)
  | publish (channel : String) (payload : Payload)

abbrev Op.Response : Op → Type
  | nowUtc => OffsetDateTime
  | newUuid => Uuid
  | store query => Except StorageError query.Response
  | publish _ _ => Unit

def exec : (op : Op) → AgentDb → Choice → Option (op.Response × AgentDb)
  | .nowUtc, db, choice => some (choice.now, db)
  | .newUuid, db, choice => some (choice.uuid, db)
  | .store query, db, choice =>
    match choice.fails with
    | some e => some (.error e, db)
    | none => some (db.perform choice query)
  | .publish _ _, db, _ => some ((), db)

/-- A program that returns a value or an error. -/
abbrev Outcome (α : Type) := Calls Op Op.Response (Except RpcError α)

def invalid {α : Type} (message : String) : Outcome α := .done (.error (.invalidArgument message))

/-- A call of the store, with the words that its error is put after. -/
def ask (context : String) (query : StoreCall) : Outcome query.Response :=
  .call (.store query) fun
    | .error e => .done (.error (.internal (context ++ ": " ++ e.display)))
    | .ok r => .done (.ok r)

/-! ## Values of the protocol -/

/-- The times that are representable; the zero of the protocol is none. -/
def protoTimestampToTime (ts : Timestamp) : Option OffsetDateTime :=
  if ts.seconds = 0 ∧ ts.nanos = 0 then none
  else
    let nanosTotal := ts.seconds * 1000000000 + ts.nanos
    if h : -377705116800 * 10 ^ 9 ≤ nanosTotal ∧ nanosTotal < 253402300800 * 10 ^ 9 then
      some ⟨nanosTotal, h.1, h.2⟩
    else none

def timeToProtoTimestamp (t : OffsetDateTime) : Timestamp where
  seconds := t.unixNanos / 1000000000
  nanos := t.unixNanos % 1000000000

def subsystemProtoToDb : Int → Option String
  | 1 => some "envbox"
  | 2 => some "envbuilder"
  | 3 => some "exectrace"
  | _ => none

def appHealthProtoToDb : Int → Option String
  | 1 => some "disabled"
  | 2 => some "initializing"
  | 3 => some "healthy"
  | 4 => some "unhealthy"
  | _ => none

def lifecycleStateToDb : Int → Option String
  | 1 => some "created"
  | 2 => some "starting"
  | 3 => some "start_timeout"
  | 4 => some "start_error"
  | 5 => some "ready"
  | 6 => some "shutting_down"
  | 7 => some "shutdown_timeout"
  | 8 => some "shutdown_error"
  | 9 => some "off"
  | _ => none

/-- A level that is not known is "info". -/
def logLevelToDb : Int → String
  | 1 => "trace"
  | 2 => "debug"
  | 4 => "warn"
  | 5 => "error"
  | _ => "info"

def timingStageToDb : Int → Option String
  | 0 => some "start"
  | 1 => some "stop"
  | 2 => some "cron"
  | _ => none

def timingStatusToDb : Int → Option String
  | 0 => some "ok"
  | 1 => some "exit_failure"
  | 2 => some "timed_out"
  | 3 => some "pipes_left_open"
  | _ => none

def displayAppToDb : Int → Option String
  | 0 => some "vscode"
  | 1 => some "vscode_insiders"
  | 2 => some "web_terminal"
  | 3 => some "ssh_helper"
  | 4 => some "port_forwarding_helper"
  | _ => none

def appStatusStateToDb : Int → Option String
  | 0 => some "working"
  | 1 => some "idle"
  | 2 => some "complete"
  | 3 => some "failure"
  | _ => none

/-! ## The handler -/

/-- One connection of an agent. -/
structure LiveAgentHandler where
  agentId : Uuid
  apiVersion : String
  pubsub : Bool

namespace LiveAgentHandler

variable (h : LiveAgentHandler)

/-- Nothing is published without a handle, and no error of it is reported. -/
def publish (channel : String) (payload : Payload) : Outcome Unit :=
  if h.pubsub then .call (.publish channel payload) fun _ => .done (.ok ())
  else .done (.ok ())

/-- The names of the subsystems, up to the first that there is no name for. -/
def subsystemNames : List Int → Except String (List String)
  | [] => .ok []
  | s :: rest =>
    match subsystemProtoToDb s with
    | none => .error ("invalid agent subsystem " ++ toString s)
    | some name => (subsystemNames rest).map (name :: ·)

def updateStartup (startup : Option Startup) : Outcome Startup :=
  match startup with
  | none => invalid "startup is required"
  | some startup =>
    match subsystemNames startup.subsystems with
    | .error e => invalid e
    | .ok seen =>
      let subsystems := seen.dedup.insertionSort (· ≤ ·)
      (ask "update startup" (.updateWorkspaceAgentStartup h.agentId startup.version
        startup.expandedDirectory subsystems h.apiVersion)).bindOk fun _ => .done (.ok startup)

/-- The updates one after the other, each for one of the apps that have been listed. -/
def updateHealths (apps : List (Uuid × WorkspaceAppRow)) : List HealthUpdate → Outcome Unit
  | [] => .done (.ok ())
  | update :: rest =>
    match Uuid.fromSlice update.id with
    | .error e => invalid ("parse workspace app ID: " ++ e)
    | .ok id =>
      match apps.find? fun app => app.1 = id with
      | none => invalid ("workspace app ID " ++ id.toHyphenated ++ " not found")
      | some (_, old) =>
        let named := id.toHyphenated ++ " (" ++ old.slug ++ ")"
        if old.healthcheckUrl.isEmpty then
          invalid ("workspace app " ++ named ++ " does not have healthchecks enabled")
        else
          match appHealthProtoToDb update.health with
          | none => invalid ("unknown health status for app " ++ named)
          | some newHealth =>
            if old.health = newHealth then updateHealths apps rest
            else
              (ask ("update workspace app health for " ++ id.toHyphenated)
                (.updateWorkspaceAppHealth id newHealth)).bindOk fun _ => updateHealths apps rest

def batchUpdateAppHealth (updates : List HealthUpdate) : Outcome Unit :=
  if updates.isEmpty then .done (.ok ())
  else
    (ask "list apps" (.listWorkspaceAppsByAgentId h.agentId)).bindOk fun apps =>
      updateHealths apps updates

/-- `started_at` and `ready_at`, of a state that has been reached at a time. -/
def transitionTimes (state : String) (changedAt : OffsetDateTime) :
    Option OffsetDateTime × Option OffsetDateTime :=
  if state = "starting" then (some changedAt, none)
  else if state = "ready" ∨ state = "start_timeout" ∨ state = "start_error" then
    (some changedAt, some changedAt)
  else (none, none)

def updateLifecycle (lifecycle : Option Lifecycle) : Outcome Lifecycle :=
  match lifecycle with
  | none => invalid "lifecycle is required"
  | some lifecycle =>
    match lifecycleStateToDb lifecycle.state with
    | none => invalid ("unknown lifecycle state " ++ toString lifecycle.state)
    | some state =>
      .call .nowUtc fun (now : OffsetDateTime) =>
        let changedAt := (lifecycle.changedAt.bind protoTimestampToTime).getD now
        let times := transitionTimes state changedAt
        (ask "update lifecycle" (.updateWorkspaceAgentLifecycleState h.agentId state times.1
          times.2)).bindOk fun _ =>
        (h.publish ("workspace_agent:" ++ h.agentId.toHyphenated) .lifecycleUpdate).bindOk fun _ =>
        .done (.ok ⟨lifecycle.state, some (timeToProtoTimestamp changedAt)⟩)

def publishLogs : List WorkspaceAgentLogRow → Outcome Unit
  | [] => .done (.ok ())
  | row :: rest =>
    let log : WorkspaceAgentLog := ⟨row.id, row.createdAt, row.output, row.level, row.logSourceId⟩
    (h.publish ("workspace_agent_logs:" ++ h.agentId.toHyphenated) (.log log)).bindOk fun _ =>
    publishLogs rest

def Log.input (log : Log) (now : OffsetDateTime) : InsertAgentLogInput where
  createdAt := (log.createdAt.bind protoTimestampToTime).getD now
  output := log.output
  level := logLevelToDb log.level

def batchCreateLogs (req : BatchCreateLogsRequest) : Outcome BatchCreateLogsResponse :=
  if req.logs.isEmpty then .done (.ok ⟨false⟩)
  else
    (ask "find agent" (.findWorkspaceAgentById h.agentId)).bindOk fun
      | none => .done (.error (.internal "workspace agent not found"))
      | some agentRow =>
        if agentRow.logsOverflowed then .done (.ok ⟨true⟩)
        else
          match Uuid.fromSlice req.logSourceId with
          | .error e => invalid ("parse log source id: " ++ e)
          | .ok logSourceId =>
            .call .nowUtc fun (now : OffsetDateTime) =>
              (ask "insert agent logs" (.insertWorkspaceAgentLogs h.agentId logSourceId
                (req.logs.map fun log => Log.input log now))).bindOk fun inserted =>
              (h.publishLogs inserted).bindOk fun _ => .done (.ok ⟨false⟩)

def maxAllMetadataKeysLen : Nat := 6144

def maxMetadataValueLen : Nat := 2048

def maxMetadataErrorLen : Nat := maxMetadataValueLen

def exceeded (what : String) (len bound : Nat) : String :=
  what ++ " of " ++ toString len ++ " bytes exceeded " ++ toString bound ++ " bytes"

/-- A value that is too long is cut, in characters, and an error of its own takes the place of the
error that came with it. -/
def metadataEntry (md : Metadata) (collectedAt : OffsetDateTime) : UpsertAgentMetadataEntry :=
  let result := md.result.getD ⟨"", ""⟩
  let valueLen := result.value.utf8ByteSize
  let tooLong := maxMetadataValueLen < valueLen
  let value :=
    if tooLong then String.ofList (result.value.toList.take maxMetadataValueLen) else result.value
  let error := if tooLong then exceeded "value" valueLen maxMetadataValueLen else result.error
  let errorLen := error.utf8ByteSize
  { key := md.key
    value
    error := if maxMetadataErrorLen < errorLen then exceeded "error" errorLen maxMetadataErrorLen
      else error
    collectedAt }

/-- The entries up to the first key that is one too many, the length of the keys with that one, and
whether there is one. -/
def metadataEntries (collectedAt : OffsetDateTime) :
    Nat → List Metadata → List UpsertAgentMetadataEntry × Nat × Bool
  | allKeysLen, [] => ([], allKeysLen, false)
  | allKeysLen, md :: rest =>
    let allKeysLen := min (allKeysLen + md.key.utf8ByteSize) (2 ^ 64 - 1)
    if maxAllMetadataKeysLen < allKeysLen then ([], allKeysLen, true)
    else
      let tail := metadataEntries collectedAt allKeysLen rest
      (metadataEntry md collectedAt :: tail.1, tail.2)

/-- The entries before an overflow are written, and then it is reported. -/
def batchUpdateMetadata (metadata : List Metadata) : Outcome Unit :=
  .call .nowUtc fun (collectedAt : OffsetDateTime) =>
    let collected := metadataEntries collectedAt 0 metadata
    let write : Outcome Unit :=
      if collected.1.isEmpty then .done (.ok ())
      else
        (ask "upsert metadata" (.upsertWorkspaceAgentMetadata h.agentId collected.1)).bindOk
          fun _ =>
        h.publish ("workspace_agent_metadata:" ++ h.agentId.toHyphenated) .metadataUpdate
    write.bindOk fun _ =>
      if collected.2.2 then invalid (exceeded "metadata keys" collected.2.1 maxAllMetadataKeysLen)
      else .done (.ok ())

/-- What a timing is inserted as, if it is valid. -/
def timingInput (timing : Timing) : Except String InsertAgentScriptTimingInput :=
  match Uuid.fromSlice timing.scriptId with
  | .error e => .error ("script id from bytes: " ++ e)
  | .ok scriptId =>
    match timing.start.bind protoTimestampToTime with
    | none => .error "script start time is required and cannot be zero"
    | some start =>
      match timing.end_.bind protoTimestampToTime with
      | none => .error "script end time is required and cannot be zero"
      | some end_ =>
        if end_ < start then .error "script start time cannot be after end time"
        else
          match timingStageToDb timing.stage with
          | none => .error ("unknown timing stage " ++ toString timing.stage)
          | some stage =>
            match timingStatusToDb timing.status with
            | none => .error ("unknown timing status " ++ toString timing.status)
            | some status => .ok
              { scriptId
                startedAt := start
                endedAt := end_
                exitCode := timing.exitCode
                stage
                status }

/-- The script is whichever the request names. -/
def scriptCompleted (timing : Option Timing) : Outcome Unit :=
  match timing with
  | none => invalid "script timing is required"
  | some timing =>
    match timingInput timing with
    | .error e => invalid e
    | .ok input => ask "insert script timing" (.insertWorkspaceAgentScriptTiming input)

def createSubAgent (req : CreateSubAgentRequest) : Outcome SubAgent :=
  if req.name.isEmpty then invalid "agent name cannot be empty"
  else
    (ask "find parent agent" (.findWorkspaceAgentById h.agentId)).bindOk fun
      | none => .done (.error (.internal "parent workspace agent not found"))
      | some parent =>
        .call .nowUtc fun (now : OffsetDateTime) =>
          .call .newUuid fun (newId : Uuid) =>
            .call .newUuid fun (authToken : Uuid) =>
              (ask "insert sub agent" (.insertWorkspaceAgent
                { id := newId
                  parentId := some h.agentId
                  createdAt := now
                  updatedAt := now
                  name := req.name
                  resourceId := parent.resourceId
                  authToken
                  authInstanceId := none
                  architecture := req.architecture
                  operatingSystem := req.operatingSystem
                  directory := req.directory
                  connectionTimeoutSeconds := parent.connectionTimeoutSeconds
                  troubleshootingUrl := parent.troubleshootingUrl
                  motdFile := ""
                  displayApps := req.displayApps.filterMap displayAppToDb
                  displayOrder := 0
                  apiKeyScope := parent.apiKeyScope })).bindOk fun row =>
              .done (.ok ⟨row.2.name, row.1.asBytes, row.2.authToken.asBytes⟩)

/-- Where no agent is found, the delete is still made. -/
def deleteSubAgent (id : List UInt8) : Outcome Unit :=
  match Uuid.fromSlice id with
  | .error e => invalid ("sub agent id from bytes: " ++ e)
  | .ok subAgentId =>
    if subAgentId = Uuid.nil then invalid "sub agent ID cannot be nil"
    else
      (ask "find sub agent" (.findWorkspaceAgentById subAgentId)).bindOk fun row =>
        if row.any fun row => row.parentId ≠ some h.agentId then
          invalid "subagent does not belong to this parent agent"
        else ask "delete sub agent" (.deleteWorkspaceSubAgent subAgentId)

def updateAppStatus [DebugText] (req : UpdateAppStatusRequest) : Outcome Unit :=
  if 160 < req.message.length then invalid "Message must be at most 160 characters."
  else
    match appStatusStateToDb req.state with
    | none => invalid ("invalid state: " ++ toString req.state)
    | some state =>
      (ask "find workspace app" (.findWorkspaceAppByAgentAndSlug h.agentId req.slug)).bindOk fun
        | none => invalid ("no app found with slug " ++ debug req.slug)
        | some app =>
          (ask "find workspace" (.findWorkspaceByAgentId h.agentId)).bindOk fun
            | none => .done (.error (.internal "workspace not found for agent"))
            | some workspace =>
              (ask "insert workspace app status" (.insertWorkspaceAppStatus
                { agentId := h.agentId
                  appId := app.1
                  workspaceId := workspace.1
                  state
                  message := req.message
                  uri := if req.uri.isEmpty then none else some req.uri })).bindOk fun _ =>
              .done (.ok ())

end LiveAgentHandler

/-! ## The session -/

/-- What an agent may ask for. -/
inductive Request where
  | updateStartup (startup : Option Startup)
  | batchUpdateAppHealth (updates : List HealthUpdate)
  | updateLifecycle (lifecycle : Option Lifecycle)
  | batchCreateLogs (req : BatchCreateLogsRequest)
  | batchUpdateMetadata (metadata : List Metadata)
  | scriptCompleted (timing : Option Timing)
  | createSubAgent (req : CreateSubAgentRequest)
  | deleteSubAgent (id : List UInt8)
  | updateAppStatus (req : UpdateAppStatusRequest)

/-- What is left of an RPC once its response is sent. -/
def finished {α : Type} (p : Outcome α) : Calls Op Op.Response Unit := p.bind fun _ => .done ()

def LiveAgentHandler.handle [DebugText] (h : LiveAgentHandler) :
    Request → Calls Op Op.Response Unit
  | .updateStartup startup => finished (h.updateStartup startup)
  | .batchUpdateAppHealth updates => finished (h.batchUpdateAppHealth updates)
  | .updateLifecycle lifecycle => finished (h.updateLifecycle lifecycle)
  | .batchCreateLogs req => finished (h.batchCreateLogs req)
  | .batchUpdateMetadata metadata => finished (h.batchUpdateMetadata metadata)
  | .scriptCompleted timing => finished (LiveAgentHandler.scriptCompleted timing)
  | .createSubAgent req => finished (h.createSubAgent req)
  | .deleteSubAgent id => finished (h.deleteSubAgent id)
  | .updateAppStatus req => finished (h.updateAppStatus req)

/-- The session of an agent over the store, its RPCs in any order and at any time. -/
def session [DebugText] (h : LiveAgentHandler) :
    Service Op Op.Response Unit AgentDb Choice Request Empty where
  exec := exec
  enter := h.handle
  outside db _ := db

end Coderd.AgentRpc
