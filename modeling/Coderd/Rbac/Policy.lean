import Coderd.Rbac.Authorizer

namespace Coderd.Rbac

open Coderd.Foundation

variable [UuidText] {actor : Actor} {action : Action} {object : Object} {role : Role}

/-! ## When a request is allowed -/

theorem authorize_ok_iff : authorize actor action object = .ok () ↔
    actor.effectiveScope.allowsObject object = true ∧
    checkPermissionsInRole actor.effectiveScope.role actor action object = true ∧
    (∀ role ∈ actor.roles, hasDenyPermission role actor action object = false) ∧
    ((∃ role ∈ actor.roles, checkPermissionsInRole role actor action object = true) ∨
      aclAllows actor action object = true) := by
  unfold authorize
  by_cases hallow : actor.effectiveScope.allowsObject object = true
  case neg => simp [hallow]
  by_cases hscope : checkPermissionsInRole actor.effectiveScope.role actor action object = true
  case neg => simp [hallow, hscope]
  simp only [hallow, hscope, Bool.not_true, Bool.false_eq_true, if_false, true_and]
  rcases hdeny : actor.roles.find? (fun role => hasDenyPermission role actor action object)
    with _ | denier
  · have hnone : ∀ role ∈ actor.roles, hasDenyPermission role actor action object = false :=
      fun role hrole => Bool.eq_false_iff.mpr (List.find?_eq_none.mp hdeny role hrole)
    rw [← List.any_eq_true]
    cases actor.roles.any fun role => checkPermissionsInRole role actor action object with
    | true => simpa using hnone
    | false =>
      cases aclAllows actor action object with
      | true => simpa using hnone
      | false => simp
  · have hdenies := List.find?_some hdeny
    simp only [reduceCtorEq, false_iff]
    rintro ⟨hnone, -⟩
    rw [hnone denier (List.mem_of_find?_eq_some hdeny)] at hdenies
    cases hdenies

theorem authorize_error_iff : authorize actor action object ≠ .ok () ↔
    ∃ e, authorize actor action object = .error e := by
  rcases authorize actor action object with e | u
  · simp
  · simp

theorem aclAllows_eq_false (huser : object.aclUserList.lookup (UuidText.display actor.userId) = none)
    (hgroups : ∀ group ∈ actor.groups, object.aclGroupList.lookup group = none) :
    aclAllows actor action object = false := by
  rw [aclAllows, huser, Bool.or_eq_false_iff]
  refine ⟨rfl, List.any_eq_false.mpr fun group hgroup => ?_⟩
  rw [hgroups group hgroup]
  simp

theorem mem_roles : role ∈ actor.roles ↔
    ∃ name ∈ actor.siteRoles ++ actor.orgRoles, expandRole name = some role := by
  simp only [Actor.roles, List.mem_append, List.mem_filterMap]
  constructor
  · rintro (⟨name, hname, h⟩ | ⟨name, hname, h⟩)
    · exact ⟨name, .inl hname, h⟩
    · exact ⟨name, .inr hname, h⟩
  · rintro ⟨name, hname | hname, h⟩
    · exact .inl ⟨name, hname, h⟩
    · exact .inr ⟨name, hname, h⟩

/-! ## Scopes -/

theorem Scope.allowsObject_of_wildcard {scope : Scope}
    (h : (wildcard, wildcard) ∈ scope.allowList) : scope.allowsObject object = true := by
  unfold Scope.allowsObject
  rw [Bool.or_eq_true, List.any_eq_true]
  exact .inr ⟨_, h, by simp⟩

omit [UuidText] in
/-- A named scope limits the actions, never the objects, and has site permissions only. -/
theorem Scope.named_siteOnly (name : Option String) :
    (Scope.named name).allowList = Scope.wildcardAllowList ∧
      (Scope.named name).role.user = [] ∧ (Scope.named name).role.byOrgId = ∅ := by
  unfold Scope.named
  split <;> exact ⟨rfl, rfl, rfl⟩

omit [UuidText] in
theorem Scope.named_allowList (name : Option String) :
    (Scope.named name).allowList = Scope.wildcardAllowList :=
  (Scope.named_siteOnly name).1

/-! ## What the built-in roles hold -/

def Positive (perms : List Permission) : Prop := ∀ perm ∈ perms, perm.negate = false

instance (perms : List Permission) : Decidable (Positive perms) :=
  inferInstanceAs (Decidable (∀ perm ∈ perms, perm.negate = false))

omit [UuidText] in
theorem anyMatch_true_of_positive {perms : List Permission} (h : Positive perms) :
    anyMatch true perms object action = false := by
  rw [anyMatch, List.any_eq_false]
  intro perm hperm
  simp [h perm hperm]

/-- A site role only ever grants, and says nothing about organizations. -/
structure IsSiteRole (role : Role) : Prop where
  site : Positive role.site
  user : Positive role.user
  byOrgId : role.byOrgId = ∅

omit [UuidText] in
theorem isSiteRole_siteRole {name displayName : String} {site user : List Permission}
    (hsite : Positive site) (huser : Positive user) :
    IsSiteRole (siteRole name displayName site user) :=
  ⟨hsite, huser, rfl⟩

omit [UuidText] in
theorem isSiteRole_of_expandSiteRole {name : String} (h : expandSiteRole name = some role) :
    IsSiteRole role := by
  unfold expandSiteRole at h
  split at h
  all_goals
    cases h
    try exact isSiteRole_siteRole (by decide) (by decide)

def banName : String := "organization-workspace-creation-ban"

/-- What the workspace creation ban denies. -/
def banPermissions : List Permission :=
  [.deny .workspace .create, .deny .workspace .delete, .deny .workspace .createAgent,
    .deny .workspace .deleteAgent]

/-- An organization role reads users everywhere at most, holds for its own organization
otherwise, and only grants there unless it is the ban. -/
structure IsOrgRole (roleName : String) (orgId : Uuid) (role : Role) : Prop where
  site : ∀ perm ∈ role.site, perm = .allow .user .read
  user : role.user = []
  byOrgId : ∃ org member, role.byOrgId = AList.insert (UuidText.display orgId) ⟨org, member⟩ ∅ ∧
    Positive member ∧ (roleName ≠ banName ∧ Positive org ∨ roleName = banName ∧ org = banPermissions)

theorem isOrgRole_orgRole {roleName name displayName : String} {orgId : Uuid}
    {org member site : List Permission} (hsite : ∀ perm ∈ site, perm = .allow .user .read)
    (hmember : Positive member)
    (horg : roleName ≠ banName ∧ Positive org ∨ roleName = banName ∧ org = banPermissions) :
    IsOrgRole roleName orgId (orgRole name displayName orgId org member site) :=
  ⟨hsite, rfl, org, member, rfl, hmember, horg⟩

theorem isOrgRole_of_expandOrgRole {roleName : String} {orgId : Uuid}
    (h : expandOrgRole roleName orgId = some role) : IsOrgRole roleName orgId role := by
  unfold expandOrgRole at h
  split at h
  case h_6 =>
    cases h
    exact isOrgRole_orgRole (by decide) (by decide) (.inr ⟨rfl, rfl⟩)
  case h_7 => cases h
  all_goals
    cases h
    exact isOrgRole_orgRole (by decide) (by decide) (.inl (by decide))

theorem expandRole_cases {name : String} (h : expandRole name = some role) :
    (splitOnce name ':' = none ∧ IsSiteRole role) ∨
    ∃ roleName orgIdStr orgId, splitOnce name ':' = some (roleName, orgIdStr) ∧
      UuidText.parseStr orgIdStr = some orgId ∧ IsOrgRole roleName orgId role := by
  unfold expandRole at h
  rcases hsplit : splitOnce name ':' with _ | ⟨roleName, orgIdStr⟩
  · rw [hsplit] at h
    exact .inl ⟨rfl, isSiteRole_of_expandSiteRole h⟩
  · rw [hsplit] at h
    obtain ⟨orgId, hparse, hrole⟩ := Option.bind_eq_some_iff.mp h
    exact .inr ⟨roleName, orgIdStr, orgId, rfl, hparse, isOrgRole_of_expandOrgRole hrole⟩

/-! ## The organization level -/

omit [UuidText] in
theorem lookup_single {ν : Type} (k k' : String) (v : ν) :
    (AList.insert k v (∅ : HashMap String ν)).lookup k' = if k' = k then some v else none := by
  rw [HashMap.lookup_insert_ite]
  rfl

theorem matchOrgLevel_of_empty {negate : Bool} (h : role.byOrgId = ∅) :
    matchOrgLevel negate role actor action object = false := by
  unfold matchOrgLevel
  rw [h]
  cases object.orgId with
  | none => exact Bool.and_false _
  | some orgId => rfl

/-- The organization is the object's, or the object names none and may be of any. -/
def Object.reaches (object : Object) (orgId : Uuid) : Bool :=
  match object.orgId with
  | some o => o = orgId
  | none => object.anyOrg

theorem matchOrgLevel_of_single {negate : Bool} {orgId : Uuid} {orgPerms : OrgPermissions}
    (h : role.byOrgId = AList.insert (UuidText.display orgId) orgPerms ∅) :
    matchOrgLevel negate role actor action object =
      (object.reaches orgId && matchInOrg negate orgPerms actor action object) := by
  unfold matchOrgLevel Object.reaches
  rw [h]
  rcases hobject : object.orgId with _ | o
  · simp [HashMap.values, AList.insert, List.kinsert, List.kerase]
  · dsimp only
    rw [lookup_single]
    by_cases ho : o = orgId
    · simp [ho]
    · have hne : UuidText.display o ≠ UuidText.display orgId :=
        fun heq => ho (UuidText.display_injective heq)
      simp [ho, hne]

/-! ## Denials -/

def banActions : List Action := [.create, .delete, .createAgent, .deleteAgent]

/-- One of the actor's role names is the workspace creation ban of the organization. -/
def Actor.BannedIn (actor : Actor) (orgId : Uuid) : Prop :=
  ∃ name ∈ actor.siteRoles ++ actor.orgRoles, ∃ orgIdStr,
    splitOnce name ':' = some (banName, orgIdStr) ∧ UuidText.parseStr orgIdStr = some orgId

/-- The request is one that the bans are about, and the actor is banned in an organization
the object is in. -/
def BanApplies (actor : Actor) (action : Action) (object : Object) : Prop :=
  object.resourceType = .workspace ∧ action ∈ banActions ∧
    ∃ orgId, actor.BannedIn orgId ∧ object.reaches orgId = true

omit [UuidText] in
theorem anyMatch_banPermissions : anyMatch true banPermissions object action = true ↔
    object.resourceType = .workspace ∧ action ∈ banActions := by
  by_cases hworkspace : object.resourceType = .workspace
  · simp only [anyMatch, hworkspace, true_and]
    cases action <;> decide
  · have hother : ResourceType.workspace ≠ object.resourceType := Ne.symm hworkspace
    simp [anyMatch, banPermissions, Permission.deny, Permission.matchesOn, hworkspace, hother]

theorem IsSiteRole.hasDenyPermission (h : IsSiteRole role) :
    hasDenyPermission role actor action object = false := by
  rw [Rbac.hasDenyPermission, anyMatch_true_of_positive h.site, matchOrgLevel_of_empty h.byOrgId]
  rfl

theorem IsOrgRole.hasDenyPermission_iff {roleName : String} {orgId : Uuid}
    (h : IsOrgRole roleName orgId role) : hasDenyPermission role actor action object = true ↔
      roleName = banName ∧ object.reaches orgId = true ∧
        object.resourceType = .workspace ∧ action ∈ banActions := by
  obtain ⟨org, member, hby, hmember, horg⟩ := h.byOrgId
  have hsite : Positive role.site := by
    intro perm hperm
    rw [h.site perm hperm]
    rfl
  rw [hasDenyPermission, anyMatch_true_of_positive hsite, Bool.false_or,
    matchOrgLevel_of_single hby, matchInOrg, anyMatch_true_of_positive hmember, Bool.and_false,
    Bool.or_false, Bool.and_eq_true]
  obtain ⟨hname, hpositive⟩ | ⟨rfl, rfl⟩ := horg
  · rw [anyMatch_true_of_positive hpositive]
    simp [hname]
  · rw [anyMatch_banPermissions]
    simp

theorem isOrgRole_ban (orgId : Uuid) :
    IsOrgRole banName orgId (roleOrgWorkspaceCreationBan orgId) :=
  isOrgRole_of_expandOrgRole rfl

theorem Actor.BannedIn.mem_roles {orgId : Uuid} (h : actor.BannedIn orgId) :
    roleOrgWorkspaceCreationBan orgId ∈ actor.roles := by
  obtain ⟨name, hname, orgIdStr, hsplit, hparse⟩ := h
  refine Rbac.mem_roles.mpr ⟨name, hname, ?_⟩
  simp only [expandRole, hsplit, hparse, Option.bind_eq_bind, Option.bind_some]
  rfl

theorem exists_deny_iff :
    (∃ role ∈ actor.roles, hasDenyPermission role actor action object = true) ↔
      BanApplies actor action object := by
  constructor
  · rintro ⟨role, hrole, hdeny⟩
    obtain ⟨name, hname, hexpand⟩ := mem_roles.mp hrole
    obtain ⟨-, hsite⟩ | ⟨roleName, orgIdStr, orgId, hsplit, hparse, horg⟩ :=
      expandRole_cases hexpand
    · rw [hsite.hasDenyPermission] at hdeny
      cases hdeny
    · obtain ⟨rfl, hreaches, htype, haction⟩ := horg.hasDenyPermission_iff.mp hdeny
      exact ⟨htype, haction, orgId, ⟨name, hname, orgIdStr, hsplit, hparse⟩, hreaches⟩
  · rintro ⟨htype, haction, orgId, hbanned, hreaches⟩
    exact ⟨_, hbanned.mem_roles,
      (isOrgRole_ban orgId).hasDenyPermission_iff.mpr ⟨rfl, hreaches, htype, haction⟩⟩

theorem forall_not_deny_iff :
    (∀ role ∈ actor.roles, hasDenyPermission role actor action object = false) ↔
      ¬ BanApplies actor action object := by
  rw [← exists_deny_iff]
  simp

/-! ## Requests that leave the organization out -/

theorem matchOrgLevel_of_none {negate : Bool} (horg : object.orgId = none)
    (hany : object.anyOrg = false) : matchOrgLevel negate role actor action object = false := by
  unfold matchOrgLevel
  rw [horg, hany]
  rfl

/-- What a role grants without an organization it grants in each. -/
theorem checkPermissionsInRole_inOrg (horg : object.orgId = none) (hany : object.anyOrg = false)
    (h : checkPermissionsInRole role actor action object = true) (orgId : Uuid) :
    checkPermissionsInRole role actor action (object.inOrg orgId) = true := by
  unfold checkPermissionsInRole at h ⊢
  rw [matchOrgLevel_of_none horg hany, Bool.or_false, Bool.or_eq_true] at h
  rw [Bool.or_eq_true, Bool.or_eq_true]
  obtain hsite | huser := h
  · exact .inl (.inl hsite)
  · exact .inr huser

/-- A request that is allowed without an organization is allowed in each where no ban applies. -/
theorem authorize_inOrg_iff (horg : object.orgId = none) (hany : object.anyOrg = false)
    (h : authorize actor action object = .ok ()) {orgId : Uuid} :
    authorize actor action (object.inOrg orgId) = .ok () ↔
      ¬ BanApplies actor action (object.inOrg orgId) := by
  obtain ⟨hallows, hscope, -, hgrants⟩ := authorize_ok_iff.mp h
  rw [authorize_ok_iff, forall_not_deny_iff]
  refine ⟨fun hok => hok.2.2.1, fun hban => ⟨hallows, ?_, hban, hgrants.imp ?_ fun hacl => hacl⟩⟩
  · exact checkPermissionsInRole_inOrg horg hany hscope orgId
  · rintro ⟨role, hrole, hgrant⟩
    exact ⟨role, hrole, checkPermissionsInRole_inOrg horg hany hgrant orgId⟩

end Coderd.Rbac
