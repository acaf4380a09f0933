import Coderd.Rbac.Policy

namespace Coderd.Rbac

open Coderd.Foundation

variable {actor : Actor} {action : Action} {object : Object}

/-! ## The allow list of a workspace agent -/

/-- The objects that the scope of an agent names. -/
def agentObjects (workspaceId templateId ownerId : Uuid) : List (ResourceType × Uuid) :=
  [(.workspace, workspaceId), (.template, templateId), (.user, ownerId)]

theorem eq_of_asStr_eq {rt rt' : ResourceType} (hmem : rt ∈ [.workspace, .template, .user])
    (h : rt.asStr = rt'.asStr) : rt' = rt := by
  simp only [List.mem_cons, List.not_mem_nil, or_false] at hmem
  obtain rfl | rfl | rfl := hmem <;> revert h <;> cases rt' <;> decide

theorem fst_mem_of_mem_agentObjects {w t o : Uuid} {target : ResourceType × Uuid}
    (h : target ∈ agentObjects w t o) : target.1 ∈ [.workspace, .template, .user] :=
  List.mem_map_of_mem (f := Prod.fst) h

theorem allowList_scopeWorkspaceAgent [UuidText] (w t o : Uuid) (block : Bool) :
    (Scope.scopeWorkspaceAgent w t o block).allowList =
      (agentObjects w t o).map fun target => (target.1.asStr, UuidText.display target.2) :=
  rfl

/-- No text of an id is the wildcard, so an object needs an id, and that of the entry of its
type. -/
theorem mem_agentObjects_of_allowsObject [UuidText]
    (hwild : ∀ id, UuidText.display id ≠ wildcard) {w t o : Uuid} {block : Bool}
    (h : (Scope.scopeWorkspaceAgent w t o block).allowsObject object = true) :
    ∃ id, object.id = some id ∧ (object.resourceType, id) ∈ agentObjects w t o := by
  rw [Scope.allowsObject, allowList_scopeWorkspaceAgent, List.any_map, Bool.or_eq_true] at h
  obtain hempty | hany := h
  · cases hempty
  obtain ⟨⟨rt, entryId⟩, hentry, hallows⟩ := List.any_eq_true.mp hany
  simp only [Function.comp_apply, decide_eq_true_eq, hwild, and_false, false_or] at hallows
  obtain ⟨htype, hid⟩ := hallows
  obtain ⟨id, hsome, hdisplay⟩ := Option.map_eq_some_iff.mp hid.symm
  have hrt : object.resourceType = rt := eq_of_asStr_eq (fst_mem_of_mem_agentObjects hentry) htype
  have hsame : id = entryId := UuidText.display_injective hdisplay
  rw [← hrt, ← hsame] at hentry
  exact ⟨id, hsome, hentry⟩

/-! ## The role of a workspace agent without user data -/

theorem wildcard_notMem_allResourceTypes : ResourceType.wildcard ∉ allResourceTypes := by decide

/-- The permissions of the full scope without users grant nothing on users. -/
theorem resourceType_ne_user_of_noUserData [UuidText] {w t o : Uuid}
    (h : checkPermissionsInRole (Scope.scopeWorkspaceAgent w t o true).role actor action object =
      true) :
    object.resourceType ≠ .user := by
  have horg : matchOrgLevel false (Scope.scopeWorkspaceAgent w t o true).role actor action object =
      false :=
    matchOrgLevel_of_empty rfl
  have huser : (Scope.scopeWorkspaceAgent w t o true).role.user = [] := rfl
  have hsite : (Scope.scopeWorkspaceAgent w t o true).role.site =
      (allResourceTypes.filter fun rt => rt ≠ .user).map .allowAll := rfl
  rw [checkPermissionsInRole, horg, huser, hsite, anyMatch, anyMatch, List.any_nil, Bool.and_false,
    Bool.or_false, Bool.or_false] at h
  obtain ⟨perm, hperm, hmatch⟩ := List.any_eq_true.mp h
  obtain ⟨rt, hrt, rfl⟩ := List.mem_map.mp hperm
  obtain ⟨hall, hne⟩ := List.mem_filter.mp hrt
  have hwild : rt ≠ .wildcard := fun heq => wildcard_notMem_allResourceTypes (heq ▸ hall)
  have hsame : rt = object.resourceType := by
    simpa [Permission.allowAll, Permission.matchesOn, hwild] using hmatch
  rw [← hsame]
  exact of_decide_eq_true hne

/-! ## Confinement -/

theorem confined_of_authorize [UuidText] (hwild : ∀ id, UuidText.display id ≠ wildcard)
    {w t o : Uuid} {block : Bool}
    (hscope : actor.scopeOverride = some (Scope.scopeWorkspaceAgent w t o block))
    (hok : authorize actor action object = .ok ()) :
    (∃ id, object.id = some id ∧ (object.resourceType, id) ∈ agentObjects w t o) ∧
      (block = true → object.resourceType ≠ .user) := by
  obtain ⟨hallows, hpermits, -, -⟩ := authorize_ok_iff.mp hok
  have heffective : actor.effectiveScope = Scope.scopeWorkspaceAgent w t o block := by
    rw [Actor.effectiveScope, hscope]
  rw [heffective] at hallows hpermits
  refine ⟨mem_agentObjects_of_allowsObject hwild hallows, ?_⟩
  rintro rfl
  exact resourceType_ne_user_of_noUserData hpermits

/-- With the scope of an agent, an actor of whatever roles, groups and named scope is allowed
nothing but what the scope names, whatever access lists the object carries. -/
theorem authorize_agent_confined (workspaceId templateId ownerId : Uuid) (blockUserData : Bool)
    (actor : Actor) (action : Action) (object : Object)
    (hscope : actor.scopeOverride =
      some (@Scope.scopeWorkspaceAgent Uuid.hyphenated workspaceId templateId ownerId
        blockUserData))
    (hok : @authorize Uuid.hyphenated actor action object = .ok ()) :
    (∃ id, object.id = some id ∧
      (object.resourceType, id) ∈ agentObjects workspaceId templateId ownerId) ∧
      (blockUserData = true → object.resourceType ≠ .user) :=
  @confined_of_authorize actor action object Uuid.hyphenated (Uuid.toHyphenated_ne rfl) _ _ _ _
    hscope hok

/-- An owner of the deployment who acts as the agent of the workspace 7. -/
def agentSeven : Actor where
  userId := ⟨1⟩
  username := "alice"
  organizationIds := [⟨10⟩]
  siteRoles := ["owner"]
  orgRoles := ["organization-admin:00000000-0000-0000-0000-00000000000a"]
  groups := ["staff"]
  scope := some "no_user_data"
  scopeOverride := some (@Scope.scopeWorkspaceAgent Uuid.hyphenated ⟨7⟩ ⟨8⟩ ⟨1⟩ true)

theorem authorize_agent_confined_agentSeven :
    @authorize Uuid.hyphenated agentSeven .update ((Object.new .workspace).withId ⟨7⟩) = .ok () ∧
      ((∃ id, ((Object.new .workspace).withId ⟨7⟩).id = some id ∧
        (ResourceType.workspace, id) ∈ agentObjects ⟨7⟩ ⟨8⟩ ⟨1⟩) ∧
        (true = true → ResourceType.workspace ≠ .user)) := by
  have hok : @authorize Uuid.hyphenated agentSeven .update
      ((Object.new .workspace).withId ⟨7⟩) = .ok () := by
    decide +kernel
  exact ⟨hok, authorize_agent_confined ⟨7⟩ ⟨8⟩ ⟨1⟩ true agentSeven .update _ rfl hok⟩

end Coderd.Rbac
