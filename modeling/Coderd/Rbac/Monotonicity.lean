import Mathlib.Data.List.Perm.Basic
import Coderd.Rbac.Pushdown

namespace Coderd.Rbac

open Coderd.Foundation

/-! ## What is claimed -/

inductive Grant where
  | siteRole (role : String)
  | orgRole (entry : String)
  | membership (orgId : Uuid)
  deriving DecidableEq, Repr

/-- The second actor has one grant more than the first, somewhere in its list. -/
inductive Extra (actor : Actor) : Grant → Actor → Prop where
  | siteRole {role : String} {roles : List String} (h : roles.Perm (role :: actor.siteRoles)) :
    Extra actor (.siteRole role) { actor with siteRoles := roles }
  | orgRole {entry : String} {entries : List String} (h : entries.Perm (entry :: actor.orgRoles)) :
    Extra actor (.orgRole entry) { actor with orgRoles := entries }
  | membership {orgId : Uuid} {ids : List Uuid} (h : ids.Perm (orgId :: actor.organizationIds)) :
    Extra actor (.membership orgId) { actor with organizationIds := ids }

variable [UuidText]

/-- The entry names an administrator of the organization. -/
def AdminEntry (entry : String) (orgId : Uuid) : Prop :=
  ∃ orgIdStr, splitOnce entry ':' = some ("organization-admin", orgIdStr) ∧
    UuidText.parseStr orgIdStr = some orgId

/-- A template is read that the actor sees as a member of its organization only, and the grant is
the first to make him an administrator, of another organization. -/
structure Hidden (b : SqlFilterBuilder) (row : Row Uuid) (grant : Grant) : Prop where
  resourceType : b.resourceType = .template
  action : b.action = .read
  siteRole : ∀ role ∈ ["owner", "auditor", "template-admin"], b.actor.hasSiteRole role = false
  member : row b.orgColumn ∈ b.actor.organizationIds
  noAdmin : ∀ entry ∈ b.actor.orgRoles, ∀ orgId, ¬ AdminEntry entry orgId
  grant : ∃ entry orgId, grant = .orgRole entry ∧ AdminEntry entry orgId ∧
    orgId ≠ row b.orgColumn

/-! ## More roles -/

/-- What more roles and memberships never take away. -/
structure Wider (actor actor' : Actor) : Prop where
  userId : actor'.userId = actor.userId
  scopeOverride : actor'.scopeOverride = actor.scopeOverride
  siteRoles : actor.siteRoles ⊆ actor'.siteRoles
  orgRoles : actor.orgRoles ⊆ actor'.orgRoles
  organizationIds : actor.organizationIds ⊆ actor'.organizationIds

omit [UuidText] in
theorem Extra.wider {actor actor' : Actor} {grant : Grant} (h : Extra actor grant actor') :
    Wider actor actor' := by
  cases h with
  | siteRole h =>
    exact ⟨rfl, rfl, fun _ hr => h.mem_iff.mpr (List.mem_cons_of_mem _ hr), fun _ => id,
      fun _ => id⟩
  | orgRole h =>
    exact ⟨rfl, rfl, fun _ => id, fun _ hr => h.mem_iff.mpr (List.mem_cons_of_mem _ hr),
      fun _ => id⟩
  | membership h =>
    exact ⟨rfl, rfl, fun _ => id, fun _ => id,
      fun _ hr => h.mem_iff.mpr (List.mem_cons_of_mem _ hr)⟩

namespace SqlFilterBuilder

variable {b : SqlFilterBuilder} {row : Row Uuid} {actor actor' : Actor} {grant : Grant}

theorem mem_collectAdminOrgs {orgId : Uuid} :
    orgId ∈ collectAdminOrgs actor ↔ ∃ entry ∈ actor.orgRoles, AdminEntry entry orgId := by
  rw [collectAdminOrgs, List.mem_filterMap]
  refine exists_congr fun entry => and_congr_right fun _ => ?_
  unfold AdminEntry
  cases hsplit : splitOnce entry ':' with
  | none => simp
  | some parts =>
    obtain ⟨role, orgIdStr⟩ := parts
    by_cases hrole : role = "organization-admin"
    · simp [hrole]
    · simp [hrole]

theorem collectAdminOrgs_eq_nil :
    collectAdminOrgs actor = [] ↔ ∀ entry ∈ actor.orgRoles, ∀ orgId, ¬ AdminEntry entry orgId := by
  rw [List.eq_nil_iff_forall_not_mem]
  constructor
  · intro h entry hentry orgId hadmin
    exact h orgId (mem_collectAdminOrgs.mpr ⟨entry, hentry, hadmin⟩)
  · intro h orgId hmem
    obtain ⟨entry, hentry, hadmin⟩ := mem_collectAdminOrgs.mp hmem
    exact h entry hentry orgId hadmin

omit [UuidText] in
theorem hasSiteRole_of_subset (h : actor.siteRoles ⊆ actor'.siteRoles) {role : String}
    (hrole : actor.hasSiteRole role = true) : actor'.hasSiteRole role = true := by
  obtain ⟨held, hheld, heq⟩ := List.any_eq_true.mp hrole
  exact List.any_eq_true.mpr ⟨held, h hheld, heq⟩

omit [UuidText] in
theorem auditorSiteAllowed_of_wider (h : Wider b.actor actor')
    (hallowed : b.auditorSiteAllowed = true) :
    { b with actor := actor' }.auditorSiteAllowed = true := by
  simp only [auditorSiteAllowed, Bool.and_eq_true, Bool.or_eq_true] at hallowed ⊢
  exact ⟨hallowed.1, hallowed.2.imp (hasSiteRole_of_subset h.siteRoles)
    (hasSiteRole_of_subset h.siteRoles)⟩

theorem unpinned_of_none (hscope : b.actor.scopeOverride = none) : b.Unpinned := by
  intro scope h
  rw [hscope] at h
  cases h

/-- All ways but one stay open to an actor with more roles. -/
theorem selects_of_wider (hscope : b.actor.scopeOverride = none) (h : Wider b.actor actor')
    {s : Shortcut} (hs : s.Selects b row) (htemplate : s ≠ .orgTemplate) :
    s.Selects { b with actor := actor' } row := by
  have hunpinned : Unpinned { b with actor := actor' } :=
    unpinned_of_none (h.scopeOverride.trans hscope)
  cases s with
  | owner => exact hasSiteRole_of_subset h.siteRoles hs
  | pinnedId => exact absurd hs (unpinned_of_none hscope).not_pinnedId
  | auditor => exact ⟨hunpinned, auditorSiteAllowed_of_wider h hs.2⟩
  | adminOrg =>
    obtain ⟨entry, hentry, hadmin⟩ := mem_collectAdminOrgs.mp hs.2
    exact ⟨hunpinned, mem_collectAdminOrgs.mpr ⟨entry, h.orgRoles hentry, hadmin⟩⟩
  | ownRow => exact ⟨hunpinned, hs.2.1, hs.2.2.trans (congrArg some h.userId.symm)⟩
  | orgTemplate => exact absurd rfl htemplate

omit [UuidText] in
theorem auditorSiteAllowed_template (htype : b.resourceType = .template)
    (hread : b.action = .read) : b.auditorSiteAllowed =
      (b.actor.hasSiteRole "auditor" || b.actor.hasSiteRole "template-admin") := by
  simp [auditorSiteAllowed, htype, hread]

/-- A member of the organization goes on seeing its templates, unless they are hidden. -/
theorem selects_template (hscope : b.actor.scopeOverride = none)
    (hextra : Extra b.actor grant actor') (hs : Shortcut.orgTemplate.Selects b row) (hhidden : ¬ Hidden b row grant) :
    ∃ s : Shortcut, s.Selects { b with actor := actor' } row := by
  obtain ⟨hunpinned, htype, hread, hnoAdmin, hmember⟩ := hs
  have hwider := hextra.wider
  have hunpinned' : Unpinned { b with actor := actor' } :=
    unpinned_of_none (hwider.scopeOverride.trans hscope)
  by_cases hsite : ∀ role ∈ ["owner", "auditor", "template-admin"], b.actor.hasSiteRole role = false
  · by_cases hadmin : collectAdminOrgs actor' = []
    · exact ⟨.orgTemplate, hunpinned', htype, hread, hadmin, hwider.organizationIds hmember⟩
    · -- the grant is an administrator's role, and of the organization of the row
      obtain ⟨orgId, horg⟩ := List.exists_mem_of_ne_nil _ hadmin
      obtain ⟨entry, hentry, hentryAdmin⟩ := mem_collectAdminOrgs.mp horg
      have hnone := collectAdminOrgs_eq_nil.mp hnoAdmin
      cases hextra with
      | siteRole h => exact absurd hentryAdmin (hnone entry hentry orgId)
      | membership h => exact absurd hentryAdmin (hnone entry hentry orgId)
      | orgRole h =>
        obtain rfl | hold := List.mem_cons.mp (h.mem_iff.mp hentry)
        · by_cases hrow : orgId = row b.orgColumn
          · exact ⟨.adminOrg, hunpinned', hrow ▸ horg⟩
          · exact absurd ⟨htype, hread, hsite, hmember, hnone, _, orgId, rfl, hentryAdmin, hrow⟩
              hhidden
        · exact absurd hentryAdmin (hnone entry hold orgId)
  · push Not at hsite
    obtain ⟨role, hrole, hheld⟩ := hsite
    rw [ne_eq, Bool.not_eq_false] at hheld
    have hheld' := hasSiteRole_of_subset hwider.siteRoles hheld
    simp only [List.mem_cons, List.not_mem_nil, or_false] at hrole
    have hallowed : SqlFilterBuilder.auditorSiteAllowed { b with actor := actor' }
        = (actor'.hasSiteRole "auditor" || actor'.hasSiteRole "template-admin") :=
      auditorSiteAllowed_template (b := { b with actor := actor' }) htype hread
    have hauditor : (actor'.hasSiteRole "auditor" || actor'.hasSiteRole "template-admin") = true →
        ∃ s : Shortcut, s.Selects { b with actor := actor' } row := fun h =>
      ⟨.auditor, hunpinned', hallowed.trans h⟩
    obtain rfl | rfl | rfl := hrole
    · exact ⟨.owner, hheld'⟩
    · exact hauditor (by rw [hheld', Bool.true_or])
    · exact hauditor (by rw [hheld', Bool.or_true])

theorem not_selects_of_hidden (hscope : b.actor.scopeOverride = none)
    (hextra : Extra b.actor grant actor') (h : Hidden b row grant) (s : Shortcut) :
    ¬ s.Selects { b with actor := actor' } row := by
  obtain ⟨entry, orgId, rfl, hadmin, hother⟩ := h.grant
  cases hextra with
  | @orgRole entry entries hperm =>
    have hadmins : ∀ orgId', orgId' ∈ collectAdminOrgs { b.actor with orgRoles := entries } →
        orgId' = orgId := by
      intro orgId' hmem
      obtain ⟨entry', hentry', hadmin'⟩ := mem_collectAdminOrgs.mp hmem
      obtain rfl | hold := List.mem_cons.mp (hperm.mem_iff.mp hentry')
      · obtain ⟨_, hsplit, hparse⟩ := hadmin
        obtain ⟨_, hsplit', hparse'⟩ := hadmin'
        rw [hsplit] at hsplit'
        cases hsplit'
        rw [hparse] at hparse'
        exact (Option.some.inj hparse').symm
      · exact absurd hadmin' (h.noAdmin entry' hold orgId')
    intro hs
    cases s with
    | owner => exact Bool.eq_false_iff.mp (h.siteRole "owner" (by simp)) hs
    | pinnedId => exact (unpinned_of_none hscope).not_pinnedId hs
    | auditor =>
      have hallowed := (auditorSiteAllowed_template h.resourceType h.action).symm.trans hs.2
      rw [h.siteRole "auditor" (by simp), h.siteRole "template-admin" (by simp)] at hallowed
      cases hallowed
    | adminOrg => exact hother (hadmins _ hs.2).symm
    | ownRow =>
      have hself := hs.2.1
      simp [memberSelfAllowed, h.resourceType] at hself
    | orgTemplate =>
      have hmem : orgId ∈ collectAdminOrgs { b.actor with orgRoles := entries } :=
        mem_collectAdminOrgs.mpr ⟨entry, hperm.mem_iff.mpr List.mem_cons_self, hadmin⟩
      rw [hs.2.2.2.1] at hmem
      cases hmem

theorem selects_of_hidden (hscope : b.actor.scopeOverride = none) (h : Hidden b row grant) :
    Shortcut.orgTemplate.Selects b row :=
  ⟨unpinned_of_none hscope, h.resourceType, h.action, collectAdminOrgs_eq_nil.mpr h.noAdmin,
    h.member⟩

/-- One more grant takes a row out of the filter exactly if it is a hidden one. -/
theorem build_monotone_iff (b : SqlFilterBuilder) (hscope : b.actor.scopeOverride = none)
    (grant : Grant) (actor' : Actor) (hextra : Extra b.actor grant actor') (row : Row Uuid) :
    (b.build.selects row = true → { b with actor := actor' }.build.selects row = true) ↔
      ¬ Hidden b row grant := by
  rw [build_selects_iff, build_selects_iff]
  constructor
  · intro hmonotone hhidden
    obtain ⟨s, hs⟩ := hmonotone ⟨.orgTemplate, selects_of_hidden hscope hhidden⟩
    exact not_selects_of_hidden hscope hextra hhidden s hs
  · rintro hhidden ⟨s, hs⟩
    by_cases htemplate : s = .orgTemplate
    · subst htemplate
      exact selects_template hscope hextra hs hhidden
    · exact ⟨s, selects_of_wider hscope hextra.wider hs htemplate⟩

end SqlFilterBuilder

/-! ## A new administrator -/

def templateReader (orgRoles : List String) : SqlFilterBuilder :=
  SqlFilterBuilder.new
    { userId := ⟨1⟩
      username := "alice"
      organizationIds := [⟨10⟩, ⟨11⟩]
      siteRoles := ["member"]
      orgRoles := orgRoles
      groups := []
      scope := none
      scopeOverride := none } .template .read

def adminOfEleven : String := "organization-admin:00000000-0000-0000-0000-00000000000b"

omit [UuidText] in
/-- The templates of the one organization are seen until the member is made an administrator of the
other. -/
theorem admin_hides_templates :
    ¬ ∀ (row : Row Uuid) (actor' : Actor),
      Extra (templateReader []).actor (.orgRole adminOfEleven) actor' →
      (@SqlFilterBuilder.build Uuid.hyphenated (templateReader [])).selects row = true →
      (@SqlFilterBuilder.build Uuid.hyphenated
        { templateReader [] with actor := actor' }).selects row = true := by
  intro h
  have hafter := h (fun _ => ⟨10⟩) (templateReader [adminOfEleven]).actor
    (.orgRole (List.Perm.refl [adminOfEleven])) (by decide +kernel)
  exact absurd hafter (by decide +kernel)

omit [UuidText] in
/-- Nothing is hidden from a member who joins another organization. -/
theorem build_monotone_iff_membership :
    ((@SqlFilterBuilder.build Uuid.hyphenated (templateReader [])).selects (fun _ => ⟨10⟩) = true →
      (@SqlFilterBuilder.build Uuid.hyphenated
        { templateReader [] with
          actor := { (templateReader []).actor with
            organizationIds := [⟨12⟩, ⟨10⟩, ⟨11⟩] } }).selects (fun _ => ⟨10⟩) = true) ↔
      ¬ @Hidden Uuid.hyphenated (templateReader []) (fun _ => ⟨10⟩) (.membership ⟨12⟩) :=
  @SqlFilterBuilder.build_monotone_iff Uuid.hyphenated (templateReader []) rfl (.membership ⟨12⟩) _
    (.membership (List.Perm.refl _)) (fun _ => ⟨10⟩)

end Coderd.Rbac
