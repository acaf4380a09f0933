import Coderd.DbAuthz.Authorized
import Coderd.Rbac.Policy

namespace Coderd.DbAuthz

open Coderd.Foundation Coderd.Rbac

/-! ## Leaving out what places an object -/

/-- `reduced` is `full` without its organization, owner and access lists, and perhaps
without its id. -/
structure Reduces (reduced full : Object) : Prop where
  resourceType : reduced.resourceType = full.resourceType
  id : reduced.id = none ∨ reduced.id = full.id
  ownerId : reduced.ownerId = none
  orgId : reduced.orgId = none
  anyOrg : reduced.anyOrg = false
  aclUserList : reduced.aclUserList = ∅
  aclGroupList : reduced.aclGroupList = ∅

section

variable [UuidText] {actor : Actor} {action : Action} {reduced full : Object}

theorem Reduces.allowsObject {scope : Scope} (h : Reduces reduced full)
    (hallow : scope.allowsObject reduced = true) : scope.allowsObject full = true := by
  unfold Scope.allowsObject at hallow ⊢
  rw [Bool.or_eq_true, List.any_eq_true] at hallow ⊢
  refine hallow.imp_right ?_
  rintro ⟨⟨allowType, allowId⟩, hmem, hentry⟩
  refine ⟨⟨allowType, allowId⟩, hmem, ?_⟩
  rw [decide_eq_true_iff, h.resourceType] at hentry
  rw [decide_eq_true_iff]
  refine hentry.imp_right (And.imp_right (Or.imp_right fun hid => ?_))
  obtain hnone | hsame := h.id
  · -- An entry for one id does not admit an object without an id.
    rw [hnone] at hid
    cases hid
  · rw [hsame] at hid
    exact hid

/-- Only the site permissions are left to grant an action on the reduced object. -/
theorem Reduces.checkPermissionsInRole_eq {role : Role} (h : Reduces reduced full) :
    checkPermissionsInRole role actor action reduced = anyMatch false role.site full action := by
  have hsite : anyMatch false role.site reduced action = anyMatch false role.site full action := by
    unfold anyMatch
    rw [h.resourceType]
  simp [checkPermissionsInRole, matchOrgLevel, Actor.owns, h.orgId, h.anyOrg, h.ownerId, hsite]

theorem Reduces.checkPermissionsInRole {role : Role} (h : Reduces reduced full)
    (hgrant : checkPermissionsInRole role actor action reduced = true) :
    checkPermissionsInRole role actor action full = true := by
  rw [h.checkPermissionsInRole_eq] at hgrant
  simp [Rbac.checkPermissionsInRole, hgrant]

/-- What the reduced object allows is allowed, bans apart: a ban is a denial within an
organization, and none is left to look for it in. -/
theorem Reduces.authorize_iff (h : Reduces reduced full)
    (hok : authorize actor action reduced = .ok ()) :
    authorize actor action full = .ok () ↔ ¬ BanApplies actor action full := by
  obtain ⟨hallow, hscope, -, hgrant⟩ := authorize_ok_iff.mp hok
  have hacl : aclAllows actor action reduced = false := by
    refine aclAllows_eq_false ?_ fun group _ => ?_
    · rw [h.aclUserList]
      rfl
    · rw [h.aclGroupList]
      rfl
  obtain ⟨role, hrole, hgrant⟩ := hgrant.resolve_right (by simp [hacl])
  rw [authorize_ok_iff, forall_not_deny_iff]
  constructor
  · rintro ⟨-, -, hban, -⟩
    exact hban
  · intro hban
    exact ⟨h.allowsObject hallow, h.checkPermissionsInRole hscope, hban,
      .inl ⟨role, hrole, h.checkPermissionsInRole hgrant⟩⟩

end

variable {R : Records} {σ α : Type}

/-! ## Rows and what is checked of them -/

/-- A row of a workspace, a template or an API key, as far as it places the object. -/
structure StoredRow where
  resourceType : ResourceType
  id : Option Uuid
  organizationId : Option Uuid
  ownerId : Option Uuid

def StoredRow.object (row : StoredRow) : Object :=
  { Object.new row.resourceType with
    id := row.id, orgId := row.organizationId, ownerId := row.ownerId }

namespace Call

/-- The row is one the call is about. -/
def Targets (row : StoredRow) : Call R → Prop
  | updateWorkspaceLastUsedAt workspaceId _ | updateWorkspaceDormantDeletingAt workspaceId _
  | softDeleteWorkspace workspaceId =>
    row.resourceType = .workspace ∧ row.id = some workspaceId
  | insertWorkspaceBuild input => row.resourceType = .workspace ∧ row.id = some input.workspaceId
  | updateWorkspaceBuildDeadline _ _ _ => row.resourceType = .workspace
  | updateTemplateMeta input => row.resourceType = .template ∧ row.id = some input.templateId
  | updateTemplateActiveVersion templateId _ | softDeleteTemplate templateId
  | updateTemplateAcl templateId _ => row.resourceType = .template ∧ row.id = some templateId
  | updateApiKeyLastUsed _ _ _ | deleteApiKey _ => row.resourceType = .apiKey

def action : Call R → Action
  | softDeleteWorkspace _ | softDeleteTemplate _ | deleteApiKey _ => .delete
  | insertWorkspaceBuild _ => .create
  | _ => .update

/-- The object the wrapper checks. -/
def object : Call R → Object
  | updateWorkspaceLastUsedAt workspaceId _ | updateWorkspaceDormantDeletingAt workspaceId _
  | softDeleteWorkspace workspaceId => (Object.new .workspace).withId workspaceId
  | insertWorkspaceBuild input => (Object.new .workspace).withId input.workspaceId
  | updateWorkspaceBuildDeadline _ _ _ => Object.new .workspace
  | updateTemplateMeta input => (Object.new .template).withId input.templateId
  | updateTemplateActiveVersion templateId _ | softDeleteTemplate templateId
  | updateTemplateAcl templateId _ => (Object.new .template).withId templateId
  | updateApiKeyLastUsed _ _ _ | deleteApiKey _ => Object.new .apiKey

/-- The calls that a workspace creation ban is about. -/
def Bannable : Call R → Prop
  | softDeleteWorkspace _ | insertWorkspaceBuild _ => True
  | _ => False

theorem Targets.reduces {call : Call R} {row : StoredRow} (h : call.Targets row) :
    Reduces call.object row.object := by
  cases call
  case updateWorkspaceBuildDeadline => exact ⟨h.symm, .inl rfl, rfl, rfl, rfl, rfl, rfl⟩
  case updateApiKeyLastUsed => exact ⟨h.symm, .inl rfl, rfl, rfl, rfl, rfl, rfl⟩
  case deleteApiKey => exact ⟨h.symm, .inl rfl, rfl, rfl, rfl, rfl, rfl⟩
  all_goals exact ⟨h.1.symm, .inr h.2.symm, rfl, rfl, rfl, rfl, rfl⟩

end Call

variable [UuidText]

theorem Call.Targets.banApplies_iff {call : Call R} {row : StoredRow} {actor : Actor}
    (h : call.Targets row) : BanApplies actor call.action row.object ↔
      call.Bannable ∧ ∃ orgId, row.organizationId = some orgId ∧ actor.BannedIn orgId := by
  have hreaches : ∀ orgId, row.object.reaches orgId = true ↔ row.organizationId = some orgId := by
    intro orgId
    unfold Object.reaches StoredRow.object
    cases row.organizationId with
    | none => simp [Object.new]
    | some o => simp
  have hban : (row.object.resourceType = .workspace ∧ call.action ∈ banActions) ↔
      call.Bannable := by
    have htype : row.object.resourceType = row.resourceType := rfl
    rw [htype]
    cases call <;> simp_all [Call.Targets, Call.action, Call.Bannable, banActions]
  simp only [BanApplies, hreaches, ← and_assoc, hban]
  simp only [and_comm]

/-! ## Calls that reach the inner store -/

/-- The inner store with a record of the calls that reach it. -/
def InnerStore.recording (inner : InnerStore R σ) (actor : Actor) :
    InnerStore R (σ × List (Actor × Call R)) where
  updateWorkspaceLastUsedAt workspaceId lastUsedAt :=
    .recorded (actor, .updateWorkspaceLastUsedAt workspaceId lastUsedAt)
      (inner.updateWorkspaceLastUsedAt workspaceId lastUsedAt)
  updateWorkspaceDormantDeletingAt workspaceId dormantAt :=
    .recorded (actor, .updateWorkspaceDormantDeletingAt workspaceId dormantAt)
      (inner.updateWorkspaceDormantDeletingAt workspaceId dormantAt)
  softDeleteWorkspace workspaceId :=
    .recorded (actor, .softDeleteWorkspace workspaceId) (inner.softDeleteWorkspace workspaceId)
  insertWorkspaceBuild input :=
    .recorded (actor, .insertWorkspaceBuild input) (inner.insertWorkspaceBuild input)
  updateWorkspaceBuildDeadline buildId deadline maxDeadline :=
    .recorded (actor, .updateWorkspaceBuildDeadline buildId deadline maxDeadline)
      (inner.updateWorkspaceBuildDeadline buildId deadline maxDeadline)
  updateTemplateMeta input :=
    .recorded (actor, .updateTemplateMeta input) (inner.updateTemplateMeta input)
  updateTemplateActiveVersion templateId activeVersionId :=
    .recorded (actor, .updateTemplateActiveVersion templateId activeVersionId)
      (inner.updateTemplateActiveVersion templateId activeVersionId)
  softDeleteTemplate templateId :=
    .recorded (actor, .softDeleteTemplate templateId) (inner.softDeleteTemplate templateId)
  updateTemplateAcl templateId input :=
    .recorded (actor, .updateTemplateAcl templateId input)
      (inner.updateTemplateAcl templateId input)
  updateApiKeyLastUsed id lastUsed expiresAt :=
    .recorded (actor, .updateApiKeyLastUsed id lastUsed expiresAt)
      (inner.updateApiKeyLastUsed id lastUsed expiresAt)
  deleteApiKey id := .recorded (actor, .deleteApiKey id) (inner.deleteApiKey id)

/-- The wrapper of each actor around one store, call after call. -/
def runCalls (inner : InnerStore R σ) :
    List (Actor × Call R) → σ × List (Actor × Call R) → σ × List (Actor × Call R)
  | [], s => s
  | (actor, call) :: rest, s =>
    let authorized : Authorized R _ := { inner := inner.recording actor, actor }
    runCalls inner rest (authorized.perform call s).2

section

variable {authorized : Authorized R σ} {action : Action} {object : Object}
  {inner : Effect σ StorageError α} {s : σ}

theorem guarded_of_ok (h : authorize authorized.actor action object = .ok ()) :
    authorized.guarded action object inner s = inner.mapError .storage s := by
  have hcheck : Effect.ofExcept (authorized.authorizeAction action object) s = (.ok (), s) := by
    unfold Authorized.authorizeAction
    rw [h]
    rfl
  exact Effect.bind_ok hcheck

/-- A refused call leaves the store as it is. -/
theorem guarded_of_error {e : Forbidden} (h : authorize authorized.actor action object = .error e) :
    authorized.guarded action object inner s = (.error (.forbidden e.message), s) := by
  have hcheck : Effect.ofExcept (authorized.authorizeAction action object) s =
      (.error (.forbidden e.message), s) := by
    unfold Authorized.authorizeAction
    rw [h]
    rfl
  change Effect.bind _ _ s = _
  simp only [Effect.bind, hcheck]

end

theorem guarded_recorded {authorized : Authorized R (σ × List (Actor × Call R))} {action : Action}
    {object : Object} {entry : Actor × Call R} {inner : Effect σ StorageError α}
    (s : σ × List (Actor × Call R)) :
    (authorized.guarded action object (.recorded entry inner) s).2.2 = s.2 ∨
    (authorize authorized.actor action object = .ok () ∧
      (authorized.guarded action object (.recorded entry inner) s).2.2 = s.2 ++ [entry]) := by
  rcases hauthorize : authorize authorized.actor action object with e | _
  · rw [guarded_of_error hauthorize]
    exact .inl rfl
  · rw [guarded_of_ok hauthorize, Effect.mapError_state]
    exact .inr ⟨rfl, rfl⟩

/-- One call adds itself to the record, if at all, and only after its check. -/
theorem perform_recorded (inner : InnerStore R σ) (actor : Actor) (call : Call R)
    (s : σ × List (Actor × Call R)) :
    let authorized : Authorized R _ := { inner := inner.recording actor, actor }
    (authorized.perform call s).2.2 = s.2 ∨
    (authorize actor call.action call.object = .ok () ∧
      (authorized.perform call s).2.2 = s.2 ++ [(actor, call)]) := by
  cases call <;> exact guarded_recorded s

/-- Every recorded call passed its check. -/
def Checked (s : σ × List (Actor × Call R)) : Prop :=
  ∀ entry ∈ s.2, authorize entry.1 entry.2.action entry.2.object = .ok ()

theorem checked_perform {inner : InnerStore R σ} {actor : Actor} {call : Call R}
    {s : σ × List (Actor × Call R)} (hs : Checked s) :
    let authorized : Authorized R _ := { inner := inner.recording actor, actor }
    Checked (authorized.perform call s).2 := by
  intro authorized entry hentry
  obtain hsame | ⟨hok, hadded⟩ := perform_recorded inner actor call s
  · rw [hsame] at hentry
    exact hs entry hentry
  · rw [hadded, List.mem_append, List.mem_singleton] at hentry
    obtain hold | rfl := hentry
    · exact hs entry hold
    · exact hok

theorem checked_runCalls (inner : InnerStore R σ) (calls : List (Actor × Call R))
    {s : σ × List (Actor × Call R)} (hs : Checked s) : Checked (runCalls inner calls s) := by
  induction calls generalizing s with
  | nil => exact hs
  | cons request rest ih => exact ih (checked_perform hs)

/-- Complete mediation: whatever the calls of whichever actors, one that has reached the
inner store is also allowed on the row in its organization and with its owner, but for the
two calls that a workspace creation ban of that organization is about. -/
theorem runCalls_mediated (inner : InnerStore R σ) (calls : List (Actor × Call R)) (s : σ) :
    ∀ entry ∈ (runCalls inner calls (s, [])).2, ∀ row, entry.2.Targets row →
      (authorize entry.1 entry.2.action row.object = .ok () ↔
        ¬ (entry.2.Bannable ∧
          ∃ orgId, row.organizationId = some orgId ∧ entry.1.BannedIn orgId)) := by
  intro entry hentry row htargets
  have hstart : Checked (s, ([] : List (Actor × Call R))) := by
    intro entry hentry
    cases hentry
  -- The check made was of the object without organization and owner.
  have hok := checked_runCalls inner calls hstart entry hentry
  rw [htargets.reduces.authorize_iff hok, htargets.banApplies_iff]

/-! A store of workspaces only, and owners of the deployment that delete one of them. -/

def workspaceRecords : Records := ⟨Unit, Unit, Unit, Unit, Unit, Unit, Unit⟩

def workspaceStore : InnerStore workspaceRecords (List Uuid) where
  updateWorkspaceLastUsedAt workspaceId _ := fun live => (.ok (live.contains workspaceId), live)
  updateWorkspaceDormantDeletingAt workspaceId _ := fun live =>
    (.ok (if live.contains workspaceId then some () else none), live)
  softDeleteWorkspace workspaceId := fun live =>
    (.ok (live.contains workspaceId), live.erase workspaceId)
  insertWorkspaceBuild _ := pure ()
  updateWorkspaceBuildDeadline _ _ _ := pure false
  updateTemplateMeta _ := pure none
  updateTemplateActiveVersion _ _ := pure false
  softDeleteTemplate _ := pure false
  updateTemplateAcl _ _ := .fail (.notFound "template")
  updateApiKeyLastUsed _ _ _ := pure ()
  deleteApiKey _ := pure false

def siteOwner (orgRoles : List String) : Actor where
  userId := ⟨1⟩
  username := "alice"
  organizationIds := [⟨10⟩]
  siteRoles := ["owner"]
  orgRoles := orgRoles
  groups := []
  scope := none
  scopeOverride := none

def deleteWorkspace : Call workspaceRecords := .softDeleteWorkspace ⟨7⟩

def workspaceRow : StoredRow := ⟨.workspace, some ⟨7⟩, some ⟨10⟩, some ⟨2⟩⟩

theorem runCalls_deleteWorkspace {actor : Actor}
    (hok : authorize actor .delete ((Object.new .workspace).withId ⟨7⟩) = .ok ()) :
    (actor, deleteWorkspace) ∈
      (runCalls workspaceStore [(actor, deleteWorkspace)] ([⟨7⟩], [])).2 := by
  simp only [runCalls, deleteWorkspace, Authorized.perform, Authorized.softDeleteWorkspace]
  rw [guarded_of_ok hok, Effect.mapError_state]
  exact List.mem_singleton_self _

omit [UuidText] in
theorem runCalls_mediated_siteOwner :
    @authorize Uuid.hyphenated (siteOwner []) .delete workspaceRow.object = .ok () := by
  have hreached := @runCalls_deleteWorkspace Uuid.hyphenated (siteOwner []) (by decide +kernel)
  refine (@runCalls_mediated _ _ Uuid.hyphenated workspaceStore _ _ _ hreached workspaceRow
    ⟨rfl, rfl⟩).mpr ?_
  rintro ⟨-, orgId, -, name, hname, orgIdStr, hsplit, -⟩
  have hsite : splitOnce "owner" ':' = none := by decide +kernel
  rw [List.mem_singleton.mp hname, hsite] at hsplit
  cases hsplit

def bannedOwner : Actor :=
  siteOwner ["organization-workspace-creation-ban:00000000-0000-0000-0000-00000000000a"]

omit [UuidText] in
theorem runCalls_not_mediated_bannedOwner :
    ¬ ∀ entry ∈ (@runCalls _ _ Uuid.hyphenated workspaceStore
        [(bannedOwner, deleteWorkspace)] ([⟨7⟩], [])).2,
      ∀ row, entry.2.Targets row →
        @authorize Uuid.hyphenated entry.1 entry.2.action row.object = .ok () := by
  intro hmediated
  have hreached := @runCalls_deleteWorkspace Uuid.hyphenated bannedOwner (by decide +kernel)
  have hok := hmediated _ hreached workspaceRow ⟨rfl, rfl⟩
  revert hok
  decide +kernel

end Coderd.DbAuthz
