import Coderd.Rbac.Policy

namespace Coderd.Rbac

open Coderd.Foundation

variable {actor : Actor} {action : Action} {object : Object} {role : Role}

/-! ## What it is for a role to deny a request -/

/-- One of the permissions is a denial of the request. -/
def DeniedBy (perms : List Permission) (action : Action) (object : Object) : Prop :=
  ∃ perm ∈ perms, perm.negate = true ∧ perm.matchesOn object.resourceType action = true

/-- The organization of that text is the object's, or the object is of any. -/
def Object.InOrgOf [UuidText] (object : Object) (orgKey : String) : Prop :=
  (∃ orgId, object.orgId = some orgId ∧ UuidText.display orgId = orgKey) ∨ object.anyOrg = true

/-- The four levels at which a role can deny a request. -/
inductive Role.Denies [UuidText] (role : Role) (actor : Actor) (action : Action) (object : Object) :
    Prop where
  | site (h : DeniedBy role.site action object)
  | org {orgKey : String} {orgPerms : OrgPermissions} (horg : object.InOrgOf orgKey)
      (hlookup : role.byOrgId.lookup orgKey = some orgPerms)
      (h : DeniedBy orgPerms.org action object)
  | member {orgKey : String} {orgPerms : OrgPermissions} (horg : object.InOrgOf orgKey)
      (hlookup : role.byOrgId.lookup orgKey = some orgPerms) (hown : actor.owns object = true)
      (h : DeniedBy orgPerms.member action object)
  | user (hown : actor.owns object = true) (h : DeniedBy role.user action object)

/-- The roles the request depends on: those of the actor's names, and that of the scope put
in the place of the named one. -/
inductive Actor.Holds [UuidText] (actor : Actor) (role : Role) : Prop where
  | expanded (h : role ∈ actor.roles)
  | scope {scope : Scope} (hscope : actor.scopeOverride = some scope) (h : scope.role = role)

/-! ## Denials of the built-in roles -/

theorem anyMatch_true_iff {perms : List Permission} :
    anyMatch true perms object action = true ↔ DeniedBy perms action object := by
  simp [anyMatch, DeniedBy]

theorem not_deniedBy_of_positive {perms : List Permission} (h : Positive perms) :
    ¬ DeniedBy perms action object := by
  rw [← anyMatch_true_iff, anyMatch_true_of_positive h]
  exact Bool.false_ne_true

variable [UuidText]

theorem IsSiteRole.not_denies (h : IsSiteRole role) : ¬ role.Denies actor action object := by
  rintro (hsite | ⟨-, hlookup, -⟩ | ⟨-, hlookup, -, -⟩ | ⟨-, huser⟩)
  · exact not_deniedBy_of_positive h.site hsite
  · rw [h.byOrgId] at hlookup
    cases hlookup
  · rw [h.byOrgId] at hlookup
    cases hlookup
  · exact not_deniedBy_of_positive h.user huser

theorem Object.inOrgOf_display {orgId : Uuid} : object.InOrgOf (UuidText.display orgId) ↔
    object.orgId = some orgId ∨ object.anyOrg = true := by
  refine or_congr_left ⟨?_, fun heq => ⟨orgId, heq, rfl⟩⟩
  rintro ⟨o, ho, heq⟩
  rw [ho, UuidText.display_injective heq]

omit [UuidText] in
theorem eq_of_lookup_single {key orgKey : String} {perms orgPerms : OrgPermissions}
    (hby : role.byOrgId = AList.insert key perms ∅)
    (hlookup : role.byOrgId.lookup orgKey = some orgPerms) : orgKey = key ∧ orgPerms = perms := by
  rw [hby, lookup_single] at hlookup
  by_cases heq : orgKey = key
  · rw [if_pos heq] at hlookup
    exact ⟨heq, (Option.some.inj hlookup).symm⟩
  · rw [if_neg heq] at hlookup
    cases hlookup

/-- An organization role denies only as the ban, in its organization. -/
theorem IsOrgRole.denies_iff {roleName : String} {orgId : Uuid} (h : IsOrgRole roleName orgId role) :
    role.Denies actor action object ↔ roleName = banName ∧
      (object.orgId = some orgId ∨ object.anyOrg = true) ∧
      object.resourceType = .workspace ∧ action ∈ banActions := by
  obtain ⟨org, member, hby, hmember, horg⟩ := h.byOrgId
  rw [← Object.inOrgOf_display]
  -- Of the four levels only the organization's own permissions can hold a denial.
  constructor
  · rintro (⟨perm, hperm, hneg, -⟩ | ⟨hinOrg, hlookup, hdeny⟩ | ⟨-, hlookup, -, hdeny⟩ | ⟨-, hdeny⟩)
    · rw [h.site perm hperm] at hneg
      cases hneg
    · obtain ⟨rfl, rfl⟩ := eq_of_lookup_single hby hlookup
      obtain ⟨-, hpositive⟩ | ⟨rfl, rfl⟩ := horg
      · exact absurd hdeny (not_deniedBy_of_positive hpositive)
      · exact ⟨rfl, hinOrg, anyMatch_banPermissions.mp (anyMatch_true_iff.mpr hdeny)⟩
    · obtain ⟨-, rfl⟩ := eq_of_lookup_single hby hlookup
      exact absurd hdeny (not_deniedBy_of_positive hmember)
    · rw [h.user] at hdeny
      obtain ⟨perm, hperm, -⟩ := hdeny
      cases hperm
  · rintro ⟨rfl, hinOrg, hban⟩
    obtain ⟨hname, -⟩ | ⟨-, rfl⟩ := horg
    · exact absurd rfl hname
    · have hlookup : role.byOrgId.lookup (UuidText.display orgId) =
          some ⟨banPermissions, member⟩ := by
        rw [hby, lookup_single, if_pos rfl]
      exact .org hinOrg hlookup (anyMatch_true_iff.mp (anyMatch_banPermissions.mpr hban))

/-! ## Denials that are overlooked -/

/-- A denial that stands beside those the evaluation looks for: in the role of the scope, or,
for an object marked as of any organization, in a role of an organization other than the one
the object names. -/
inductive OverlookedDenial (actor : Actor) (action : Action) (object : Object) : Prop where
  | scope {scope : Scope} (hscope : actor.scopeOverride = some scope)
      (h : scope.role.Denies actor action object)
  | anyOrg (hany : object.anyOrg = true) (htype : object.resourceType = .workspace)
      (haction : action ∈ banActions) {orgId : Uuid} (hbanned : actor.BannedIn orgId)

theorem OverlookedDenial.holds_denies (h : OverlookedDenial actor action object) :
    ∃ role, actor.Holds role ∧ role.Denies actor action object := by
  obtain ⟨hscope, h⟩ | ⟨hany, htype, haction, hbanned⟩ := h
  · exact ⟨_, .scope hscope rfl, h⟩
  · exact ⟨_, .expanded hbanned.mem_roles,
      (isOrgRole_ban _).denies_iff.mpr ⟨rfl, .inr hany, htype, haction⟩⟩

/-- Every denial is one the evaluation sees or one it overlooks. -/
theorem banApplies_or_overlooked (hholds : actor.Holds role)
    (hdenies : role.Denies actor action object) :
    BanApplies actor action object ∨ OverlookedDenial actor action object := by
  obtain hrole | ⟨hscope, rfl⟩ := hholds
  · obtain ⟨name, hname, hexpand⟩ := mem_roles.mp hrole
    obtain ⟨-, hsite⟩ | ⟨roleName, orgIdStr, orgId, hsplit, hparse, horg⟩ :=
      expandRole_cases hexpand
    · exact absurd hdenies hsite.not_denies
    · obtain ⟨rfl, hinOrg, htype, haction⟩ := horg.denies_iff.mp hdenies
      have hbanned : actor.BannedIn orgId := ⟨name, hname, orgIdStr, hsplit, hparse⟩
      obtain hin | hany := hinOrg
      · refine .inl ⟨htype, haction, orgId, hbanned, ?_⟩
        simp [Object.reaches, hin]
      · exact .inr (.anyOrg hany htype haction hbanned)
  · exact .inr (.scope hscope hdenies)

/-- A denial wins over every grant, unless it is an overlooked one of a request that the
scope and a role or an access list allow and that no ban of the object's organization stops. -/
theorem authorize_denied_iff :
    ((∃ role, actor.Holds role ∧ role.Denies actor action object) →
      ∃ e, authorize actor action object = .error e) ↔
    ¬ (OverlookedDenial actor action object ∧ ¬ BanApplies actor action object ∧
      actor.effectiveScope.allowsObject object = true ∧
      checkPermissionsInRole actor.effectiveScope.role actor action object = true ∧
      ((∃ role ∈ actor.roles, checkPermissionsInRole role actor action object = true) ∨
        aclAllows actor action object = true)) := by
  rw [← authorize_error_iff]
  constructor
  · rintro hwins ⟨hoverlooked, hban, hallow, hscope, hgrant⟩
    apply hwins hoverlooked.holds_denies
    exact authorize_ok_iff.mpr ⟨hallow, hscope, forall_not_deny_iff.mpr hban, hgrant⟩
  · rintro hnot ⟨role, hholds, hdenies⟩ hok
    obtain ⟨hallow, hscope, hdeny, hgrant⟩ := authorize_ok_iff.mp hok
    have hban := forall_not_deny_iff.mp hdeny
    -- A denial that did not stop the request is none the evaluation looks for.
    have hoverlooked := (banApplies_or_overlooked hholds hdenies).resolve_left hban
    exact hnot ⟨hoverlooked, hban, hallow, hscope, hgrant⟩

/-- An owner whose scope allows everything on workspaces but denies to delete them. -/
def noDeleteOwner : Actor where
  userId := ⟨1⟩
  username := "alice"
  organizationIds := []
  siteRoles := ["owner"]
  orgRoles := []
  groups := []
  scope := none
  scopeOverride := some
    { role := siteRole "Scope_no_delete" "No deletion"
        [.allowAll .workspace, .deny .workspace .delete]
      allowList := Scope.wildcardAllowList }

omit [UuidText] in
theorem authorize_denied_noDeleteOwner :
    ¬ ((∃ role, @Actor.Holds Uuid.hyphenated noDeleteOwner role ∧
        @Role.Denies Uuid.hyphenated role noDeleteOwner .delete (Object.new .workspace)) →
      ∃ e, @authorize Uuid.hyphenated noDeleteOwner .delete (Object.new .workspace) = .error e) := by
  intro hwins
  have hok : @authorize Uuid.hyphenated noDeleteOwner .delete (Object.new .workspace) = .ok () := by
    decide +kernel
  obtain ⟨e, herror⟩ := hwins ⟨_, @Actor.Holds.scope Uuid.hyphenated _ _ _ rfl rfl,
    @Role.Denies.site Uuid.hyphenated _ _ _ _
      ⟨.deny .workspace .delete, by simp [siteRole], rfl, by decide⟩⟩
  rw [hok] at herror
  cases herror

end Coderd.Rbac
