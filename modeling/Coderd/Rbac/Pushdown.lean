import Coderd.Rbac.Policy
import Coderd.Rbac.SqlFilter

namespace Coderd.Rbac

open Coderd.Foundation

variable [UuidText]

namespace SqlFilterBuilder

variable {b : SqlFilterBuilder} {row : Row Uuid}

/-- The object a row of the table is to the evaluator. -/
def object (b : SqlFilterBuilder) (row : Row Uuid) : Object :=
  let object := ((Object.new b.resourceType).withId (row b.idColumn)).inOrg (row b.orgColumn)
  match b.ownerColumn with
  | some ownerCol => object.withOwner (row ownerCol)
  | none => object

omit [UuidText] in
@[simp] theorem object_resourceType : (b.object row).resourceType = b.resourceType := by
  unfold object
  cases b.ownerColumn <;> rfl

/-! ## What the filter selects -/

/-- The scope leaves the rows to the roles. -/
def Unpinned (b : SqlFilterBuilder) : Prop :=
  ∀ scope, b.actor.scopeOverride = some scope →
    b.pinnedId scope = none ∧ (wildcard, wildcard) ∈ scope.allowList

/-- The ways in which the builder lets a row through. -/
inductive Shortcut where
  | owner | pinnedId | auditor | adminOrg | ownRow | orgTemplate
  deriving DecidableEq, Repr

def Shortcut.Selects (b : SqlFilterBuilder) (row : Row Uuid) : Shortcut → Prop
  | owner => b.actor.hasSiteRole "owner" = true
  | pinnedId => ∃ scope, b.actor.scopeOverride = some scope ∧
      b.pinnedId scope = some (row b.idColumn)
  | auditor => b.Unpinned ∧ b.auditorSiteAllowed = true
  | adminOrg => b.Unpinned ∧ row b.orgColumn ∈ collectAdminOrgs b.actor
  | ownRow => b.Unpinned ∧ b.memberSelfAllowed = true ∧
      b.ownerColumn.map row = some b.actor.userId
  | orgTemplate => b.Unpinned ∧ b.resourceType = .template ∧ b.action = .read ∧
      collectAdminOrgs b.actor = [] ∧ row b.orgColumn ∈ b.actor.organizationIds

theorem holds_disjuncts : b.disjuncts.holds row = true ↔
    row b.orgColumn ∈ collectAdminOrgs b.actor ∨
    (b.memberSelfAllowed = true ∧ b.ownerColumn.map row = some b.actor.userId) ∨
    (b.resourceType = .template ∧ b.action = .read ∧ collectAdminOrgs b.actor = [] ∧
      row b.orgColumn ∈ b.actor.organizationIds) := by
  unfold disjuncts
  -- Being an administrator anywhere decides on the first and on the last disjunct.
  by_cases hadmin : collectAdminOrgs b.actor = []
  · simp only [hadmin, List.isEmpty_nil, Bool.not_true, Bool.not_false, Bool.false_eq_true, if_false]
    rcases hmember : b.memberSelfAllowed <;> rcases hown : b.ownerColumn with _ | c <;>
      split <;> simp_all
  · rcases hmember : b.memberSelfAllowed <;> rcases hown : b.ownerColumn with _ | c <;>
      simp_all

theorem scopeFilter_eq_none : b.scopeFilter = none ↔ b.Unpinned := by
  unfold scopeFilter Unpinned
  rcases b.actor.scopeOverride with _ | scope
  · simp
  · rcases hpin : b.pinnedId scope with _ | id
    · simp [hpin]
    · simp [hpin]

theorem scopeFilter_selects {filter : SqlFilter} (h : b.scopeFilter = some filter) :
    filter.selects row = true ↔ Shortcut.pinnedId.Selects b row := by
  unfold scopeFilter at h
  unfold Shortcut.Selects
  rcases hover : b.actor.scopeOverride with _ | scope
  · rw [hover] at h
    cases h
  · rw [hover] at h
    rcases hpin : b.pinnedId scope with _ | id
    · simp only [hpin] at h
      split at h
      · cases h
        simp [hpin, SqlFilter.selects, SqlFilter.denyAll, WhereClause.eval]
      · cases h
    · simp only [hpin] at h
      cases h
      simp [hpin, SqlFilter.selects, WhereClause.eval, ColumnTest.eval]

omit [UuidText] in
theorem selects_disjuncts {ors : Disjuncts Uuid} :
    (if ors.tests.isEmpty then SqlFilter.denyAll
      else { clause := ors.clause, uuidParams := ors.params,
             uuidArrayParams := ors.arrayParams }).selects row = ors.holds row := by
  by_cases hempty : ors.tests.isEmpty = true
  · rw [if_pos hempty, Disjuncts.holds, List.isEmpty_iff.mp hempty]
    rfl
  · rw [if_neg hempty]
    exact Disjuncts.eval_clause

theorem Unpinned.not_pinnedId (h : b.Unpinned) : ¬ Shortcut.pinnedId.Selects b row := by
  rintro ⟨scope, hscope, hpin⟩
  rw [(h scope hscope).1] at hpin
  cases hpin

/-- Left to the roles, a row is let through by an auditor's role or one of the disjuncts. -/
theorem Unpinned.exists_selects_iff (h : b.Unpinned) (howner : ¬ Shortcut.owner.Selects b row) :
    (∃ s : Shortcut, s.Selects b row) ↔
      b.auditorSiteAllowed = true ∨ b.disjuncts.holds row = true := by
  rw [holds_disjuncts]
  constructor
  · rintro ⟨_ | _ | _ | _ | _ | _, hs⟩
    · exact absurd hs howner
    · exact absurd hs h.not_pinnedId
    · exact .inl hs.2
    · exact .inr (.inl hs.2)
    · exact .inr (.inr (.inl hs.2))
    · exact .inr (.inr (.inr hs.2))
  · rintro (hauditor | hadmin | hown | htemplate)
    · exact ⟨.auditor, h, hauditor⟩
    · exact ⟨.adminOrg, h, hadmin⟩
    · exact ⟨.ownRow, h, hown⟩
    · exact ⟨.orgTemplate, h, htemplate⟩

theorem build_selects_iff : b.build.selects row = true ↔ ∃ s : Shortcut, s.Selects b row := by
  unfold build
  by_cases howner : b.actor.hasSiteRole "owner" = true
  · rw [if_pos howner]
    exact iff_of_true rfl ⟨.owner, howner⟩
  rw [if_neg howner]
  rcases hfilter : b.scopeFilter with _ | filter
  · rw [(scopeFilter_eq_none.mp hfilter).exists_selects_iff howner]
    by_cases hauditor : b.auditorSiteAllowed = true
    · simp only [hauditor, if_true, true_or, iff_true]
      rfl
    · simp only [hauditor, Bool.false_eq_true, if_false, false_or]
      rw [selects_disjuncts]
  · -- The scope decides alone: every other way needs it to leave the rows to the roles.
    have hpinned : ¬ b.Unpinned := by
      rw [← scopeFilter_eq_none, hfilter]
      simp
    dsimp only
    rw [scopeFilter_selects hfilter]
    constructor
    · intro hpin
      exact ⟨.pinnedId, hpin⟩
    · rintro ⟨_ | _ | _ | _ | _ | _, hs⟩
      · exact absurd hs howner
      · exact hs
      all_goals exact absurd hs.1 hpinned

/-! ## What the evaluator asks for -/

/-- The scope and a role of the actor grant the action on the row. -/
def Granted (b : SqlFilterBuilder) (row : Row Uuid) : Prop :=
  checkPermissionsInRole b.actor.effectiveScope.role b.actor b.action (b.object row) = true ∧
  ∃ role ∈ b.actor.roles, checkPermissionsInRole role b.actor b.action (b.object row) = true

/-- What letting a row through in that way takes for granted. -/
def Shortcut.Presumes (b : SqlFilterBuilder) (row : Row Uuid) : Shortcut → Prop
  | owner | pinnedId => b.actor.effectiveScope.allowsObject (b.object row) = true ∧
      b.Granted row ∧ ¬ BanApplies b.actor b.action (b.object row)
  | adminOrg => b.Granted row ∧ ¬ BanApplies b.actor b.action (b.object row)
  | auditor | ownRow | orgTemplate => b.Granted row

theorem authorize_object_iff : authorize b.actor b.action (b.object row) = .ok () ↔
    b.actor.effectiveScope.allowsObject (b.object row) = true ∧ b.Granted row ∧
      ¬ BanApplies b.actor b.action (b.object row) := by
  have hacl : aclAllows b.actor b.action (b.object row) = false := by
    unfold object
    cases b.ownerColumn with
    | none => exact aclAllows_eq_false rfl fun _ _ => rfl
    | some ownerCol => exact aclAllows_eq_false rfl fun _ _ => rfl
  rw [authorize_ok_iff, forall_not_deny_iff, hacl, Granted]
  simp only [Bool.false_eq_true, or_false]
  tauto

theorem Unpinned.allowsObject (h : b.Unpinned) :
    b.actor.effectiveScope.allowsObject (b.object row) = true := by
  apply Scope.allowsObject_of_wildcard
  unfold Actor.effectiveScope
  rcases hover : b.actor.scopeOverride with _ | scope
  · rw [Scope.named_allowList]
    exact List.mem_singleton_self _
  · exact (h scope hover).2

theorem not_banApplies_of_auditor (h : b.auditorSiteAllowed = true) :
    ¬ BanApplies b.actor b.action (b.object row) := by
  rintro ⟨htype, -, -⟩
  rw [object_resourceType] at htype
  simp [auditorSiteAllowed, htype] at h

theorem not_banApplies_of_ownRow (h : b.memberSelfAllowed = true) :
    ¬ BanApplies b.actor b.action (b.object row) := by
  rintro ⟨-, haction, -⟩
  unfold memberSelfAllowed at h
  split at h
  all_goals simp_all [banActions]

theorem Shortcut.Selects.authorize_iff {s : Shortcut} (h : s.Selects b row) :
    authorize b.actor b.action (b.object row) = .ok () ↔ s.Presumes b row := by
  rw [authorize_object_iff]
  cases s with
  | owner => exact Iff.rfl
  | pinnedId => exact Iff.rfl
  | adminOrg => exact and_iff_right h.1.allowsObject
  | auditor =>
    rw [and_iff_right h.1.allowsObject]
    exact and_iff_left (not_banApplies_of_auditor h.2)
  | ownRow =>
    rw [and_iff_right h.1.allowsObject]
    exact and_iff_left (not_banApplies_of_ownRow h.2.1)
  | orgTemplate =>
    rw [and_iff_right h.1.allowsObject]
    refine and_iff_left ?_
    rintro ⟨htype, -, -⟩
    rw [object_resourceType, h.2.1] at htype
    cases htype

end SqlFilterBuilder

/-- An actor whose only role says nothing about audit logs. -/
def templateAdmin : Actor where
  userId := ⟨1⟩
  username := "alice"
  organizationIds := []
  siteRoles := ["template-admin"]
  orgRoles := []
  groups := []
  scope := none
  scopeOverride := none

def auditLogFilter : SqlFilterBuilder :=
  (SqlFilterBuilder.new templateAdmin .auditLog .read).withOwnerColumn "user_id"

end Coderd.Rbac
