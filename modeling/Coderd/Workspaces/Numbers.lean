import Coderd.Foundation.Alone
import Coderd.Foundation.Json
import Coderd.Workspaces.Builders
import Coderd.Workspaces.Readers

namespace Coderd.Numbers

open Coderd.Foundation Coderd.Rbac
open Coderd.Builds (Config WorkspaceBody StorageError nanosOfMillis)
open Coderd.Catalog (WorkspaceRow)
open Coderd.CryptoKeys (OffsetDateTime)
open Coderd.Readers (PortShareRow WorkspaceRecord workspaceObject)

/-! ## What is shown -/

/-- A workspace as it is shown, with its times before they are formatted. -/
structure WorkspaceJson where
  id : Uuid
  createdAt : OffsetDateTime
  updatedAt : OffsetDateTime
  ownerId : Uuid
  organizationId : Uuid
  templateId : Uuid
  name : String
  autostartSchedule : Option String
  ttlMs : Option ℤ
  lastUsedAt : OffsetDateTime
  dormantAt : Option OffsetDateTime
  deletingAt : Option OffsetDateTime
  automaticUpdates : String
  favorite : Bool
  nextStartAt : Option OffsetDateTime

/-- The object that `list_workspaces` makes of each of its items is the same. -/
def workspaceToJson (w : WorkspaceRecord) : WorkspaceJson where
  id := w.id
  createdAt := w.columns.createdAt
  updatedAt := w.columns.updatedAt
  ownerId := w.columns.ownerId
  organizationId := w.columns.organizationId
  templateId := w.columns.templateId
  name := w.columns.name
  autostartSchedule := w.columns.autostartSchedule
  ttlMs := w.columns.ttl.map (Int.tdiv · 1000000)
  lastUsedAt := w.columns.lastUsedAt
  dormantAt := w.columns.dormantAt
  deletingAt := w.columns.deletingAt
  automaticUpdates := w.columns.automaticUpdates
  favorite := w.favorite
  nextStartAt := w.columns.nextStartAt

/-! ## The store -/

/-- A workspace, an agent's name and a port. -/
abbrev ShareKey := Uuid × String × ℤ

structure Store where
  builds : Builds.World
  portShares : HashMap ShareKey PortShareRow

structure UpsertPortShareInput where
  workspaceId : Uuid
  agentName : String
  port : ℤ
  shareLevel : String
  protocol : String

def UpsertPortShareInput.key (input : UpsertPortShareInput) : ShareKey :=
  (input.workspaceId, input.agentName, input.port)

def UpsertPortShareInput.row (input : UpsertPortShareInput) : PortShareRow where
  shareLevel := input.shareLevel
  protocol := input.protocol

inductive StoreCall where
  | findWorkspaceById (workspaceId : Uuid)
  | updateWorkspaceTtl (workspaceId : Uuid) (ttlNs : Option ℤ)
  | upsertWorkspacePortShare (input : UpsertPortShareInput)
  | deleteWorkspacePortShare (workspaceId : Uuid) (agentName : String) (port : ℤ)

abbrev StoreCall.Response : StoreCall → Type
  | findWorkspaceById _ => Option WorkspaceRow
  | updateWorkspaceTtl _ _ => Bool
  | upsertWorkspacePortShare _ => ShareKey × PortShareRow
  | deleteWorkspacePortShare _ _ _ => Bool

/-- The calls of the creation of workspaces, and those for a lifetime and for shares. -/
inductive Op where
  | builds (op : Builds.Op)
  | store (query : StoreCall)

abbrev Op.Response : Op → Type
  | builds op => op.Response
  | store query => Except StorageError query.Response

namespace Store

variable (s : Store) (now : OffsetDateTime)

def findWorkspaceById (workspaceId : Uuid) : Option WorkspaceRow :=
  (s.builds.workspaces.lookup workspaceId).filter fun row => !row.deleted

def updateWorkspaceTtl (workspaceId : Uuid) (ttlNs : Option ℤ) : Bool × Store :=
  match s.findWorkspaceById workspaceId with
  | none => (false, s)
  | some row =>
    let row := { row with ttl := ttlNs, updatedAt := now }
    (true, { s with builds.workspaces := s.builds.workspaces.insert workspaceId row })

/-- The share belongs to a workspace of the table. -/
def upsertWorkspacePortShare (input : UpsertPortShareInput) :
    Except StorageError (ShareKey × PortShareRow) × Store :=
  match s.builds.workspaces.lookup input.workspaceId with
  | none => (.error .violatesConstraint, s)
  | some _ =>
    (.ok (input.key, input.row), { s with portShares := s.portShares.insert input.key input.row })

def deleteWorkspacePortShare (key : ShareKey) : Bool × Store :=
  ((s.portShares.lookup key).isSome, { s with portShares := s.portShares.erase key })

/-- A call that does not fail on its own. -/
def perform : (query : StoreCall) → Except StorageError query.Response × Store
  | .findWorkspaceById workspaceId => (.ok (s.findWorkspaceById workspaceId), s)
  | .updateWorkspaceTtl workspaceId ttlNs =>
    ((s.updateWorkspaceTtl now workspaceId ttlNs).map .ok id)
  | .upsertWorkspacePortShare input => s.upsertWorkspacePortShare input
  | .deleteWorkspacePortShare workspaceId agentName port =>
    (s.deleteWorkspacePortShare (workspaceId, agentName, port)).map .ok id

end Store

def exec [Builds.Collation] : (op : Op) → Store → Builds.Choice → Option (op.Response × Store)
  | .builds op, s, choice =>
    (Builds.exec op s.builds choice).map fun r => (r.1, { s with builds := r.2 })
  | .store query, s, choice =>
    match choice.fails with
    | some e => some (.error e, s)
    | none => some (s.perform choice.now query)

/-! ## The requests -/

abbrev Handler := Calls Op Op.Response

abbrev Outcome (α : Type) := Handler (Except StorageError α)

def ask (query : StoreCall) : Outcome query.Response := .call (.store query) .done

/-- What is found of the fields of a share. -/
structure PortShareBody where
  agentName : Option Json
  port : Option Json
  shareLevel : Option Json
  protocol : Option Json

/-- In `body` are the other fields. -/
inductive Request where
  | putWorkspaceTtl (workspaceId : Uuid) (ttlMs : Option Json)
  | postUserWorkspace (user : String) (ttlMs : Option Json) (body : WorkspaceBody)
  | postOrgMemberWorkspace (organization user : String) (ttlMs : Option Json)
      (body : WorkspaceBody)
  | postWorkspacePortShare (workspaceId : Uuid) (body : PortShareBody)
  | deleteWorkspacePortShare (workspaceId : Uuid) (body : PortShareBody)

inductive Response where
  | builds (response : Builds.Response)
  | noContent
  | share (key : ShareKey) (row : PortShareRow)

def Response.accepted : Response → Bool
  | .builds (.createdWorkspace _ _) | .builds (.createdBuild _ _) | .noContent | .share _ _ => true
  | .builds _ => false

def agentNameOf (body : PortShareBody) : String := (body.agentName.bind Json.asStr).getD ""

/-- `as i32`, of an `i64`. -/
def portOf (body : PortShareBody) : ℤ := wrap 32 ((body.port.bind Json.asI64).getD 0)

section

variable [UuidText] (actor : Actor)

/-- What follows of a workspace that is found and that the actor may update. -/
def withUpdatable (workspaceId : Uuid) (next : WorkspaceRow → Outcome Response) :
    Outcome Response :=
  (ask (.findWorkspaceById workspaceId)).bindOk fun
    | none => .done (.ok (.builds Builds.resourceNotFound))
    | some workspace =>
      match authorize actor .update
          (workspaceObject workspaceId workspace.ownerId workspace.organizationId) with
      | .error _ =>
        .done (.ok (.builds (.forbidden "You are not authorized to update this workspace.")))
      | .ok () => next workspace

def putWorkspaceTtl (workspaceId : Uuid) (ttlMs : Option Json) : Outcome Response :=
  withUpdatable actor workspaceId fun _ =>
    let ttlNs := (ttlMs.bind Json.asI64).map nanosOfMillis
    (ask (.updateWorkspaceTtl workspaceId ttlNs)).bindOk fun _ => .done (.ok .noContent)

def postWorkspacePortShare (workspaceId : Uuid) (body : PortShareBody) : Outcome Response :=
  withUpdatable actor workspaceId fun _ =>
    (ask (.upsertWorkspacePortShare
      { workspaceId
        agentName := agentNameOf body
        port := portOf body
        shareLevel := (body.shareLevel.bind Json.asStr).getD "owner"
        protocol := (body.protocol.bind Json.asStr).getD "http" })).bindOk fun share =>
      .done (.ok (.share share.1 share.2))

def deleteWorkspacePortShare (workspaceId : Uuid) (body : PortShareBody) : Outcome Response :=
  withUpdatable actor workspaceId fun _ =>
    (ask (.deleteWorkspacePortShare workspaceId (agentNameOf body) (portOf body))).bindOk fun _ =>
      .done (.ok .noContent)

/-- A creation, over the larger store. -/
def created (p : Builds.Outcome Builds.Response) : Outcome Response :=
  (p.via Op.builds fun _ r => r).bindOk fun response => .done (.ok (.builds response))

variable [Builds.QuietHours] (config : Config)

def handle : Request → Outcome Response
  | .putWorkspaceTtl workspaceId ttlMs => putWorkspaceTtl actor workspaceId ttlMs
  | .postUserWorkspace user ttlMs body =>
    created (Builds.postUserWorkspace config actor user
      { body with ttlMs := ttlMs.bind Json.asI64 })
  | .postOrgMemberWorkspace organization user ttlMs body =>
    created (Builds.postOrgMemberWorkspace config actor organization user
      { body with ttlMs := ttlMs.bind Json.asI64 })
  | .postWorkspacePortShare workspaceId body => postWorkspacePortShare actor workspaceId body
  | .deleteWorkspacePortShare workspaceId body => deleteWorkspacePortShare actor workspaceId body

end

end Coderd.Numbers
