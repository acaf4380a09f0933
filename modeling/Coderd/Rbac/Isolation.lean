import Coderd.Rbac.Policy
import Mathlib.Data.Set.Insert

namespace Coderd.Rbac

open Coderd.Foundation

variable [UuidText] {actor : Actor} {action : Action} {object : Object} {role : Role}

/-- Outside its organization, an organization role grants the reading of users at most. -/
theorem IsOrgRole.grants_elsewhere {roleName : String} {orgId : Uuid}
    (h : IsOrgRole roleName orgId role) (helsewhere : object.reaches orgId = false)
    (hgrant : checkPermissionsInRole role actor action object = true) :
    object.resourceType = .user ∧ action = .read := by
  obtain ⟨org, member, hby, -, -⟩ := h.byOrgId
  have huser : anyMatch false role.user object action = false := by
    rw [h.user]
    rfl
  rw [checkPermissionsInRole, matchOrgLevel_of_single hby, helsewhere, huser, Bool.false_and,
    Bool.and_false, Bool.or_false, Bool.or_false] at hgrant
  obtain ⟨perm, hperm, hmatch⟩ := List.any_eq_true.mp hgrant
  rw [h.site perm hperm] at hmatch
  have hmatches : ResourceType.user = object.resourceType ∧ Action.read = action := by
    simpa [Permission.allow, Permission.matchesOn] using hmatch
  exact ⟨hmatches.1.symm, hmatches.2.symm⟩

/-- Organization isolation: roles that are all of organizations in `orgs` allow nothing in
another organization but reading users, however they are spelled and combined and whatever
the scope. -/
theorem authorize_outside_orgs (orgs : Set Uuid) (hsite : actor.siteRoles = [])
    (horg : ∀ entry ∈ actor.orgRoles, ∃ name orgIdStr orgId,
      splitOnce entry ':' = some (name, orgIdStr) ∧ UuidText.parseStr orgIdStr = some orgId ∧
      orgId ∈ orgs)
    (o : Uuid) (hobject : object.orgId = some o) (houtside : o ∉ orgs)
    (huser : object.aclUserList.lookup (UuidText.display actor.userId) = none)
    (hgroups : ∀ group ∈ actor.groups, object.aclGroupList.lookup group = none)
    (hok : authorize actor action object = .ok ()) :
    object.resourceType = .user ∧ action = .read := by
  obtain ⟨-, -, -, ⟨role, hrole, hgrant⟩ | hacl⟩ := authorize_ok_iff.mp hok
  · obtain ⟨entry, hentry, hexpand⟩ := mem_roles.mp hrole
    rw [hsite, List.nil_append] at hentry
    obtain ⟨name, orgIdStr, orgId, hsplit, hparse, hmem⟩ := horg entry hentry
    obtain ⟨hnone, -⟩ | ⟨name', orgIdStr', orgId', hsplit', hparse', hisOrg⟩ :=
      expandRole_cases hexpand
    · rw [hsplit] at hnone
      cases hnone
    · rw [hsplit] at hsplit'
      cases hsplit'
      rw [hparse] at hparse'
      cases hparse'
      have helsewhere : object.reaches orgId = false := by
        have hne : o ≠ orgId := fun heq => houtside (heq ▸ hmem)
        simp [Object.reaches, hobject, hne]
      exact hisOrg.grants_elsewhere helsewhere hgrant
  · rw [aclAllows_eq_false huser hgroups] at hacl
    cases hacl

/-- An administrator of the organization 10 under two spellings of its id. -/
def orgTenAdmin : Actor where
  userId := ⟨1⟩
  username := "alice"
  organizationIds := [⟨10⟩]
  siteRoles := []
  orgRoles := ["organization-admin:00000000-0000-0000-0000-00000000000A",
    "organization-auditor:urn:uuid:00000000-0000-0000-0000-00000000000a"]
  groups := ["staff"]
  scope := none
  scopeOverride := none

omit [UuidText] in
theorem authorize_outside_orgs_orgTenAdmin :
    @authorize Uuid.hyphenated orgTenAdmin .read ((Object.new .user).inOrg ⟨11⟩) = .ok () ∧
      ((Object.new .user).inOrg ⟨11⟩).resourceType = .user ∧ Action.read = .read := by
  have hok : @authorize Uuid.hyphenated orgTenAdmin .read ((Object.new .user).inOrg ⟨11⟩) =
      .ok () := by
    decide +kernel
  have hnotMem : (⟨11⟩ : Uuid) ∉ ({⟨10⟩} : Set Uuid) := by
    rw [Set.mem_singleton_iff]
    decide
  refine ⟨hok, @authorize_outside_orgs Uuid.hyphenated orgTenAdmin .read _ {⟨10⟩} rfl ?_
    ⟨11⟩ rfl hnotMem rfl (fun _ _ => rfl) hok⟩
  intro entry hentry
  simp only [orgTenAdmin, List.mem_cons, List.not_mem_nil, or_false] at hentry
  obtain rfl | rfl := hentry
  · exact ⟨"organization-admin", "00000000-0000-0000-0000-00000000000A", ⟨10⟩,
      by decide +kernel, by decide +kernel, rfl⟩
  · exact ⟨"organization-auditor", "urn:uuid:00000000-0000-0000-0000-00000000000a", ⟨10⟩,
      by decide +kernel, by decide +kernel, rfl⟩

end Coderd.Rbac
