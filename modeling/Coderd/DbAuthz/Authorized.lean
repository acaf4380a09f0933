import Coderd.Foundation.Effect
import Coderd.Rbac.Authorizer

namespace Coderd.DbAuthz

open Coderd.Foundation Coderd.Rbac

/-! ## The inner store -/

inductive StorageError where
  | unavailable (message : String)
  | notFound (message : String)
  | invalidData (message : String)
  deriving DecidableEq, Repr

inductive DbAuthzError where
  | forbidden (message : String)
  | storage (error : StorageError)
  deriving DecidableEq, Repr

/-- The data the wrapper hands through unread. -/
structure Records where
  OffsetDateTime : Type
  WorkspaceRecord : Type
  WorkspaceBuildRecord : Type
  TemplateRecord : Type
  UpdateTemplateACLInput : Type
  BuildFields : Type
  MetaFields : Type

variable (R : Records)

structure CreateWorkspaceBuildInput where
  workspaceId : Uuid
  fields : R.BuildFields

structure UpdateTemplateMetaInput where
  templateId : Uuid
  fields : R.MetaFields

/-- The methods of the store that take an id and no organization or owner. -/
structure InnerStore (σ : Type) where
  updateWorkspaceLastUsedAt (workspaceId : Uuid) (lastUsedAt : R.OffsetDateTime) :
    Effect σ StorageError Bool
  updateWorkspaceDormantDeletingAt (workspaceId : Uuid) (dormantAt : Option R.OffsetDateTime) :
    Effect σ StorageError (Option R.WorkspaceRecord)
  softDeleteWorkspace (workspaceId : Uuid) : Effect σ StorageError Bool
  insertWorkspaceBuild (input : CreateWorkspaceBuildInput R) :
    Effect σ StorageError R.WorkspaceBuildRecord
  updateWorkspaceBuildDeadline (buildId : Uuid) (deadline maxDeadline : Option R.OffsetDateTime) :
    Effect σ StorageError Bool
  updateTemplateMeta (input : UpdateTemplateMetaInput R) :
    Effect σ StorageError (Option R.TemplateRecord)
  updateTemplateActiveVersion (templateId activeVersionId : Uuid) : Effect σ StorageError Bool
  softDeleteTemplate (templateId : Uuid) : Effect σ StorageError Bool
  updateTemplateAcl (templateId : Uuid) (input : R.UpdateTemplateACLInput) :
    Effect σ StorageError Unit
  updateApiKeyLastUsed (id : String) (lastUsed expiresAt : R.OffsetDateTime) :
    Effect σ StorageError Unit
  deleteApiKey (id : String) : Effect σ StorageError Bool

/-! ## The wrapper -/

structure Authorized (σ : Type) where
  inner : InnerStore R σ
  actor : Actor

variable {R} {σ α : Type} [UuidText]

namespace Authorized

def authorizeAction (a : Authorized R σ) (action : Action) (object : Object) :
    Except DbAuthzError Unit :=
  (authorize a.actor action object).mapError fun e => .forbidden e.message

/-- Every method authorizes, then hands over to the inner store. -/
def guarded (a : Authorized R σ) (action : Action) (object : Object)
    (inner : Effect σ StorageError α) : Effect σ DbAuthzError α := do
  Effect.ofExcept (a.authorizeAction action object)
  inner.mapError .storage

def updateWorkspaceLastUsedAt (a : Authorized R σ) (workspaceId : Uuid)
    (lastUsedAt : R.OffsetDateTime) : Effect σ DbAuthzError Bool :=
  a.guarded .update ((Object.new .workspace).withId workspaceId)
    (a.inner.updateWorkspaceLastUsedAt workspaceId lastUsedAt)

def updateWorkspaceDormantDeletingAt (a : Authorized R σ) (workspaceId : Uuid)
    (dormantAt : Option R.OffsetDateTime) : Effect σ DbAuthzError (Option R.WorkspaceRecord) :=
  a.guarded .update ((Object.new .workspace).withId workspaceId)
    (a.inner.updateWorkspaceDormantDeletingAt workspaceId dormantAt)

def softDeleteWorkspace (a : Authorized R σ) (workspaceId : Uuid) : Effect σ DbAuthzError Bool :=
  a.guarded .delete ((Object.new .workspace).withId workspaceId)
    (a.inner.softDeleteWorkspace workspaceId)

def insertWorkspaceBuild (a : Authorized R σ) (input : CreateWorkspaceBuildInput R) :
    Effect σ DbAuthzError R.WorkspaceBuildRecord :=
  a.guarded .create ((Object.new .workspace).withId input.workspaceId)
    (a.inner.insertWorkspaceBuild input)

-- The id is that of the build, which says nothing about the workspace.
def updateWorkspaceBuildDeadline (a : Authorized R σ) (buildId : Uuid)
    (deadline maxDeadline : Option R.OffsetDateTime) : Effect σ DbAuthzError Bool :=
  a.guarded .update (Object.new .workspace)
    (a.inner.updateWorkspaceBuildDeadline buildId deadline maxDeadline)

def updateTemplateMeta (a : Authorized R σ) (input : UpdateTemplateMetaInput R) :
    Effect σ DbAuthzError (Option R.TemplateRecord) :=
  a.guarded .update ((Object.new .template).withId input.templateId)
    (a.inner.updateTemplateMeta input)

def updateTemplateActiveVersion (a : Authorized R σ) (templateId activeVersionId : Uuid) :
    Effect σ DbAuthzError Bool :=
  a.guarded .update ((Object.new .template).withId templateId)
    (a.inner.updateTemplateActiveVersion templateId activeVersionId)

def softDeleteTemplate (a : Authorized R σ) (templateId : Uuid) : Effect σ DbAuthzError Bool :=
  a.guarded .delete ((Object.new .template).withId templateId)
    (a.inner.softDeleteTemplate templateId)

def updateTemplateAcl (a : Authorized R σ) (templateId : Uuid) (input : R.UpdateTemplateACLInput) :
    Effect σ DbAuthzError Unit :=
  a.guarded .update ((Object.new .template).withId templateId)
    (a.inner.updateTemplateAcl templateId input)

-- The ids of API keys are no UUIDs, so that the object cannot hold them.
def updateApiKeyLastUsed (a : Authorized R σ) (id : String)
    (lastUsed expiresAt : R.OffsetDateTime) : Effect σ DbAuthzError Unit :=
  a.guarded .update (Object.new .apiKey) (a.inner.updateApiKeyLastUsed id lastUsed expiresAt)

def deleteApiKey (a : Authorized R σ) (id : String) : Effect σ DbAuthzError Bool :=
  a.guarded .delete (Object.new .apiKey) (a.inner.deleteApiKey id)

end Authorized

/-! ## Calls -/

/-- A call of one of the methods. -/
inductive Call (R : Records) where
  | updateWorkspaceLastUsedAt (workspaceId : Uuid) (lastUsedAt : R.OffsetDateTime)
  | updateWorkspaceDormantDeletingAt (workspaceId : Uuid) (dormantAt : Option R.OffsetDateTime)
  | softDeleteWorkspace (workspaceId : Uuid)
  | insertWorkspaceBuild (input : CreateWorkspaceBuildInput R)
  | updateWorkspaceBuildDeadline (buildId : Uuid) (deadline maxDeadline : Option R.OffsetDateTime)
  | updateTemplateMeta (input : UpdateTemplateMetaInput R)
  | updateTemplateActiveVersion (templateId activeVersionId : Uuid)
  | softDeleteTemplate (templateId : Uuid)
  | updateTemplateAcl (templateId : Uuid) (input : R.UpdateTemplateACLInput)
  | updateApiKeyLastUsed (id : String) (lastUsed expiresAt : R.OffsetDateTime)
  | deleteApiKey (id : String)

def Call.Response : Call R → Type
  | updateWorkspaceLastUsedAt _ _ => Bool
  | updateWorkspaceDormantDeletingAt _ _ => Option R.WorkspaceRecord
  | softDeleteWorkspace _ => Bool
  | insertWorkspaceBuild _ => R.WorkspaceBuildRecord
  | updateWorkspaceBuildDeadline _ _ _ => Bool
  | updateTemplateMeta _ => Option R.TemplateRecord
  | updateTemplateActiveVersion _ _ => Bool
  | softDeleteTemplate _ => Bool
  | updateTemplateAcl _ _ => Unit
  | updateApiKeyLastUsed _ _ _ => Unit
  | deleteApiKey _ => Bool

def Authorized.perform (a : Authorized R σ) :
    (call : Call R) → Effect σ DbAuthzError call.Response
  | .updateWorkspaceLastUsedAt workspaceId lastUsedAt =>
    a.updateWorkspaceLastUsedAt workspaceId lastUsedAt
  | .updateWorkspaceDormantDeletingAt workspaceId dormantAt =>
    a.updateWorkspaceDormantDeletingAt workspaceId dormantAt
  | .softDeleteWorkspace workspaceId => a.softDeleteWorkspace workspaceId
  | .insertWorkspaceBuild input => a.insertWorkspaceBuild input
  | .updateWorkspaceBuildDeadline buildId deadline maxDeadline =>
    a.updateWorkspaceBuildDeadline buildId deadline maxDeadline
  | .updateTemplateMeta input => a.updateTemplateMeta input
  | .updateTemplateActiveVersion templateId activeVersionId =>
    a.updateTemplateActiveVersion templateId activeVersionId
  | .softDeleteTemplate templateId => a.softDeleteTemplate templateId
  | .updateTemplateAcl templateId input => a.updateTemplateAcl templateId input
  | .updateApiKeyLastUsed id lastUsed expiresAt => a.updateApiKeyLastUsed id lastUsed expiresAt
  | .deleteApiKey id => a.deleteApiKey id

end Coderd.DbAuthz
