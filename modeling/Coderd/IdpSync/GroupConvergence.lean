import Coderd.IdpSync.GroupOutcome

namespace Coderd.IdpSync

open Coderd.Foundation Coderd.DbAuthz

variable {lower : String → String}

/-! ## What is claimed -/

/-- A group that a claim is mapped to, or whose name is that of an unmapped claim. -/
def WantedGroup (filter : Option (String → Bool)) (rawClaims : List String)
    (settings : GroupSyncSettings) (id : Uuid) (row : GroupRow) : Prop :=
  Mapped filter settings.mapping rawClaims id ∨ Asked filter settings.mapping rawClaims row.name

/-- A membership, with the group by its name: the id of a group that a pass creates is drawn at
random. -/
def MemberOf (db : Db lower) (userId organizationId : Uuid) (name : String) : Prop :=
  ∃ id row, db.groups.lookup id = some row ∧ row.organizationId = organizationId ∧
    row.name = name ∧ (id, userId) ∈ db.groupMembers

/-- The passes over the claims from `db`. -/
structure GroupsConverge (regexNew : RegexNew) (userId organizationId : Uuid)
    (rawClaims : List String) (settings : GroupSyncSettings) (filter : Option (String → Bool))
    (db : Db lower) : Prop where
  returns : ∀ run : GroupRun, run.Sound db (Asked filter settings.mapping rawClaims) →
    ∃ result, (syncGroups regexNew run userId organizationId rawClaims settings db).1 = .ok result
  members : ∀ run : GroupRun, run.Sound db (Asked filter settings.mapping rawClaims) →
    ∀ id row,
      (syncGroups regexNew run userId organizationId rawClaims settings db).2.groups.lookup id =
        some row →
      row.Own organizationId →
      ((id, userId) ∈
          (syncGroups regexNew run userId organizationId rawClaims settings db).2.groupMembers ↔
        WantedGroup filter rawClaims settings id row)
  again : ∀ run run' : GroupRun, run.Sound db (Asked filter settings.mapping rawClaims) →
    run'.Sound (syncGroups regexNew run userId organizationId rawClaims settings db).2
      (Asked filter settings.mapping rawClaims) →
    (syncGroups regexNew run' userId organizationId rawClaims settings
      (syncGroups regexNew run userId organizationId rawClaims settings db).2).2 =
        (syncGroups regexNew run userId organizationId rawClaims settings db).2
  permuted : ∀ rawClaims', (∀ raw, raw ∈ rawClaims' ↔ raw ∈ rawClaims) →
    ∀ run run' : GroupRun, run.Sound db (Asked filter settings.mapping rawClaims) →
      run'.Sound db (Asked filter settings.mapping rawClaims') →
    ∀ user organization name,
      MemberOf (syncGroups regexNew run' userId organizationId rawClaims' settings db).2
        user organization name ↔
      MemberOf (syncGroups regexNew run userId organizationId rawClaims settings db).2
        user organization name
  others : ∀ run : GroupRun, run.Sound db (Asked filter settings.mapping rawClaims) →
    ∀ id user, user ≠ userId →
      ((id, user) ∈
          (syncGroups regexNew run userId organizationId rawClaims settings db).2.groupMembers ↔
        (id, user) ∈ db.groupMembers)

/-- With groups created for missing names, no name comes in two cases: not as a controlled group
and as a claim, unless the group is wanted anyway, and not as two claims, unless some group has
it. A deleted user, who is listed nowhere, is in no controlled group that is not wanted. -/
structure NoClash (userId organizationId : Uuid) (rawClaims : List String)
    (settings : GroupSyncSettings) (filter : Option (String → Bool)) (db : Db lower) : Prop where
  groups : settings.autoCreateMissingGroups = true →
    ∀ id row, db.groups.lookup id = some row → row.Own organizationId →
      ∀ name, Asked filter settings.mapping rawClaims name → lower row.name = lower name →
        WantedGroup filter rawClaims settings id row
  names : settings.autoCreateMissingGroups = true →
    ∀ name name', Asked filter settings.mapping rawClaims name →
      Asked filter settings.mapping rawClaims name' → lower name = lower name' →
      db.selectGroupByName organizationId name = none → name = name'
  deleted : db.live userId = false →
    ∀ id row, db.groups.lookup id = some row → row.Own organizationId →
      (id, userId) ∈ db.groupMembers → WantedGroup filter rawClaims settings id row

/-! ## One pass -/

variable {regexNew : RegexNew} {userId organizationId : Uuid} {rawClaims rawClaims' : List String}
  {settings : GroupSyncSettings} {filter : Option (String → Bool)} {db after after' : Db lower}
  {run run' : GroupRun}

theorem syncGroups_eq (hfield : settings.field.isEmpty = false)
    (hfilter : compileFilter regexNew settings.regexFilter = .ok filter) (run : GroupRun)
    (userId organizationId : Uuid) (rawClaims : List String) (db : Db lower) :
    syncGroups regexNew run userId organizationId rawClaims settings db =
      (reconcileGroups run userId organizationId filter rawClaims settings).mapError .storage
        db := by
  rw [syncGroups, if_neg (by rw [hfield]; decide), hfilter]
  exact Effect.bind_ok rfl

theorem syncGroups_ok (hfield : settings.field.isEmpty = false)
    (hfilter : compileFilter regexNew settings.regexFilter = .ok filter)
    (horganization : (db.organizations.lookup organizationId).isSome = true)
    (huser : (db.users.lookup userId).isSome = true)
    (hsound : run.Sound db (Asked filter settings.mapping rawClaims)) :
    ∃ result after, syncGroups regexNew run userId organizationId rawClaims settings db =
        (.ok result, after) ∧
      GroupsReconciled userId organizationId filter rawClaims settings db after := by
  obtain ⟨result, after, hrun, hreconciled⟩ := reconcileGroups_ok horganization huser hsound
  refine ⟨result, after, ?_, hreconciled⟩
  rw [syncGroups_eq hfield hfilter, Effect.mapError, hrun]

/-- A wanted group of the organization is sought. -/
theorem WantedGroup.sought {id : Uuid} {row : GroupRow}
    (h : WantedGroup filter rawClaims settings id row)
    (horganization : row.organizationId = organizationId) :
    Sought lower organizationId filter rawClaims settings id row := by
  obtain hmapped | hasked := h
  · exact .inl hmapped
  · exact .inr ⟨row.name, hasked, horganization, .inl rfl⟩

section

variable (hclaims : ∀ raw, raw ∈ rawClaims' ↔ raw ∈ rawClaims)

include hclaims

theorem asked_of_mem_iff {mapping : HashMap String (List Uuid)} :
    Asked filter mapping rawClaims' = Asked filter mapping rawClaims := by
  funext name
  simp only [Asked, hclaims]

theorem wantedGroup_of_mem_iff :
    WantedGroup filter rawClaims' settings = WantedGroup filter rawClaims settings := by
  funext id row
  simp only [WantedGroup, asked_of_mem_iff hclaims, Mapped, hclaims]

theorem sought_of_mem_iff :
    Sought lower organizationId filter rawClaims' settings =
      Sought lower organizationId filter rawClaims settings := by
  funext id row
  simp only [Sought, asked_of_mem_iff hclaims, Mapped, hclaims]

end

namespace GroupsReconciled

/-- The controlled groups of the user are those that are sought, and for a deleted one those that
he was in. -/
theorem member_iff (h : GroupsReconciled userId organizationId filter rawClaims settings db after)
    {id : Uuid} {row : GroupRow} (hrow : after.groups.lookup id = some row)
    (hown : row.Own organizationId) :
    (id, userId) ∈ after.groupMembers ↔
      Sought lower organizationId filter rawClaims settings id row ∨
        ((id, userId) ∈ db.groupMembers ∧ db.live userId = false) := by
  by_cases hsought : Sought lower organizationId filter rawClaims settings id row
  · exact iff_of_true (h.sought id row hrow hsought) (.inl hsought)
  · rw [h.unsought id row hrow hsought]
    simp [hsought, hown]

/-- Of the groups that are sought, those in another case were there before. -/
theorem wantedGroup_of_sought
    (h : GroupsReconciled userId organizationId filter rawClaims settings db after)
    (hcase : NoClash userId organizationId rawClaims settings filter db)
    {id : Uuid} {row : GroupRow}
    (hrow : after.groups.lookup id = some row) (hown : row.Own organizationId)
    (hsought : Sought lower organizationId filter rawClaims settings id row) :
    WantedGroup filter rawClaims settings id row := by
  obtain hmapped | ⟨name, hasked, -, heq | ⟨hauto, hlower⟩⟩ := hsought
  · exact .inl hmapped
  · exact .inr (heq ▸ hasked)
  · obtain hold | ⟨-, name', hasked', rfl, -⟩ := h.new id row hrow
    · exact hcase.groups hauto id row hold hown name hasked hlower
    · exact .inr hasked'

/-- The controlled groups of the user are wanted. -/
theorem wantedGroup_of_member
    (h : GroupsReconciled userId organizationId filter rawClaims settings db after)
    (hcase : NoClash userId organizationId rawClaims settings filter db)
    {id : Uuid} {row : GroupRow} (hrow : after.groups.lookup id = some row)
    (hown : row.Own organizationId) (hmember : (id, userId) ∈ after.groupMembers) :
    WantedGroup filter rawClaims settings id row := by
  obtain hsought | ⟨hbefore, hdeleted⟩ := (h.member_iff hrow hown).mp hmember
  · exact h.wantedGroup_of_sought hcase hrow hown hsought
  · obtain ⟨row', hrow'⟩ := db.memberOfGroup _ hbefore
    have hafter := h.old _ row' hrow'
    rw [hrow] at hafter
    cases hafter
    exact hcase.deleted hdeleted id row hrow' hown hbefore

/-- A user who is not deleted is in no controlled group beside those that are sought. -/
theorem sought_of_member
    (h : GroupsReconciled userId organizationId filter rawClaims settings db after)
    (hlive : db.live userId = true) {id : Uuid} {row : GroupRow}
    (hrow : after.groups.lookup id = some row) (hown : row.Own organizationId)
    (hmember : (id, userId) ∈ after.groupMembers) :
    Sought lower organizationId filter rawClaims settings id row := by
  refine ((h.member_iff hrow hown).mp hmember).resolve_right fun hdeleted => ?_
  rw [hlive] at hdeleted
  cases hdeleted.2

/-- A group that was there has the same members after any two passes over the same claims. -/
theorem members_of_old
    (h : GroupsReconciled userId organizationId filter rawClaims settings db after)
    (h' : GroupsReconciled userId organizationId filter rawClaims' settings db after')
    (hclaims : ∀ raw, raw ∈ rawClaims' ↔ raw ∈ rawClaims) {user id : Uuid} {row : GroupRow}
    (hold : db.groups.lookup id = some row) (hmember : (id, user) ∈ after.groupMembers) :
    (id, user) ∈ after'.groupMembers := by
  have hrow := h.old id row hold
  have hrow' := h'.old id row hold
  by_cases huser : user = userId
  · subst huser
    by_cases hwanted : Sought lower organizationId filter rawClaims settings id row
    · exact h'.sought id row hrow' (by rw [sought_of_mem_iff hclaims]; exact hwanted)
    · rw [h.unsought id row hrow hwanted] at hmember
      rw [h'.unsought id row hrow' (by rw [sought_of_mem_iff hclaims]; exact hwanted)]
      exact hmember
  · rw [h'.others id user huser, ← h.others id user huser]
    exact hmember

/-- Only the user himself is in a group that the pass has created. -/
theorem eq_of_member_created
    (h : GroupsReconciled userId organizationId filter rawClaims settings db after)
    {user id : Uuid} {name : String}
    (hrow : after.groups.lookup id = some (newGroup organizationId name).row)
    (hnone : db.selectGroupByName organizationId name = none)
    (hmember : (id, user) ∈ after.groupMembers) : user = userId := by
  by_contra hne
  rw [h.others id user hne] at hmember
  obtain ⟨row, hbefore⟩ := db.memberOfGroup _ hmember
  have hafter := h.old _ row hbefore
  rw [hrow] at hafter
  cases hafter
  exact selectGroupByName_eq_none.mp hnone id _ hbefore rfl rfl

/-- Another pass over the same claims has put the user in a group of that name as well. -/
theorem memberOf_of_created
    (h' : GroupsReconciled userId organizationId filter rawClaims' settings db after')
    (hclaims : ∀ raw, raw ∈ rawClaims' ↔ raw ∈ rawClaims)
    (hcase : NoClash userId organizationId rawClaims settings filter db)
    (hauto : settings.autoCreateMissingGroups = true) {name : String}
    (hasked : Asked filter settings.mapping rawClaims name)
    (hnone : db.selectGroupByName organizationId name = none) :
    MemberOf after' userId organizationId name := by
  have hasked' : Asked filter settings.mapping rawClaims' =
      Asked filter settings.mapping rawClaims := asked_of_mem_iff hclaims
  obtain ⟨e, he⟩ := Option.ne_none_iff_exists'.mp
    (h'.present hauto name (by rw [hasked']; exact hasked))
  obtain ⟨hrow, horganization, hlower⟩ := of_selectGroupByName he
  obtain hbefore | ⟨-, other, hother, heq, -⟩ := h'.new e.1 e.2 hrow
  · exact absurd hlower (selectGroupByName_eq_none.mp hnone e.1 e.2 hbefore horganization)
  · have hsame : name = other := by
      refine hcase.names hauto name other hasked (by rw [← hasked']; exact hother) ?_ hnone
      rw [← hlower, heq]
      rfl
    subst hsame
    have hmember := h'.sought e.1 e.2 hrow
      (.inr ⟨name, hother, horganization, .inr ⟨hauto, hlower⟩⟩)
    exact ⟨e.1, e.2, hrow, horganization, by rw [heq]; rfl, hmember⟩

/-- The memberships after one pass are those after another one over the same claims. -/
theorem memberOf_of_memberOf
    (h : GroupsReconciled userId organizationId filter rawClaims settings db after)
    (h' : GroupsReconciled userId organizationId filter rawClaims' settings db after')
    (hclaims : ∀ raw, raw ∈ rawClaims' ↔ raw ∈ rawClaims)
    (hcase : NoClash userId organizationId rawClaims settings filter db)
    {user organization : Uuid} {name : String} (hmember : MemberOf after user organization name) :
    MemberOf after' user organization name := by
  obtain ⟨id, row, hrow, rfl, rfl, hin⟩ := hmember
  obtain hold | ⟨hauto, created, hasked, rfl, hnone⟩ := h.new id row hrow
  · exact ⟨id, row, h'.old id row hold, rfl, rfl, h.members_of_old h' hclaims hold hin⟩
  · rw [h.eq_of_member_created hrow hnone hin]
    exact h'.memberOf_of_created hclaims hcase hauto hasked hnone

end GroupsReconciled

/-! ## Both directions -/

theorem noClash_of_mem_iff (hclaims : ∀ raw, raw ∈ rawClaims' ↔ raw ∈ rawClaims)
    (h : NoClash userId organizationId rawClaims settings filter db) :
    NoClash userId organizationId rawClaims' settings filter db := by
  refine ⟨?_, ?_, ?_⟩
  · rw [asked_of_mem_iff hclaims, wantedGroup_of_mem_iff hclaims]
    exact h.groups
  · rw [asked_of_mem_iff hclaims]
    exact h.names
  · rw [wantedGroup_of_mem_iff hclaims]
    exact h.deleted

theorem groupsConverge_of_noClash (hfield : settings.field.isEmpty = false)
    (hfilter : compileFilter regexNew settings.regexFilter = .ok filter)
    (horganization : (db.organizations.lookup organizationId).isSome = true)
    (huser : (db.users.lookup userId).isSome = true)
    (hcase : NoClash userId organizationId rawClaims settings filter db) :
    GroupsConverge regexNew userId organizationId rawClaims settings filter db := by
  have hpass : ∀ run : GroupRun, run.Sound db (Asked filter settings.mapping rawClaims) →
      ∃ result after, syncGroups regexNew run userId organizationId rawClaims settings db =
          (.ok result, after) ∧
        GroupsReconciled userId organizationId filter rawClaims settings db after :=
    fun run hsound => syncGroups_ok hfield hfilter horganization huser hsound
  refine ⟨fun run hsound => ?_, fun run hsound => ?_, fun run run' hsound hsound' => ?_, ?_,
    fun run hsound => ?_⟩
  · obtain ⟨result, after, hrun, -⟩ := hpass run hsound
    exact ⟨result, by rw [hrun]⟩
  · obtain ⟨result, after, hrun, hreconciled⟩ := hpass run hsound
    rw [hrun]
    intro id row hrow hown
    exact ⟨hreconciled.wantedGroup_of_member hcase hrow hown,
      fun h => hreconciled.sought id row hrow (h.sought hown.2)⟩
  · obtain ⟨result, after, hrun, hreconciled⟩ := hpass run hsound
    rw [hrun] at hsound' ⊢
    rw [syncGroups_eq hfield hfilter, Effect.mapError_state]
    refine reconcileGroups_settled (by rw [hreconciled.organizations]; exact horganization)
      (by rw [hreconciled.users]; exact huser) hsound' hreconciled.present hreconciled.sought ?_
    intro id row hrow hown hmember hlive
    rw [live_congr hreconciled.users] at hlive
    exact hreconciled.sought_of_member hlive hrow hown hmember
  · intro rawClaims' hclaims run run' hsound hsound' user organization name
    obtain ⟨result, after, hrun, hreconciled⟩ := hpass run hsound
    obtain ⟨result', after', hrun', hreconciled'⟩ :=
      syncGroups_ok hfield hfilter horganization huser hsound'
    rw [hrun, hrun']
    exact ⟨hreconciled'.memberOf_of_memberOf hreconciled (fun raw => (hclaims raw).symm)
      (noClash_of_mem_iff hclaims hcase), hreconciled.memberOf_of_memberOf hreconciled' hclaims
      hcase⟩
  · obtain ⟨result, after, hrun, hreconciled⟩ := hpass run hsound
    rw [hrun]
    exact hreconciled.others

/-- The same run, with `name` looked at first. -/
def GroupRun.startingWith (run : GroupRun) (name : String) : GroupRun :=
  { run with
    nameOrder := fun l => if name ∈ l then name :: l.erase name else l
    nameOrder_perm := by
      intro l
      split
      · exact (List.perm_cons_erase ‹_›).symm
      · exact .refl l }

theorem GroupRun.Sound.startingWith {names : String → Prop} (h : run.Sound db names)
    (name : String) : (run.startingWith name).Sound db names :=
  ⟨h.fault, h.fresh, h.distinct⟩

section

variable (hfield : settings.field.isEmpty = false)
  (hfilter : compileFilter regexNew settings.regexFilter = .ok filter)
  (horganization : (db.organizations.lookup organizationId).isSome = true)
  (huser : (db.users.lookup userId).isSome = true)
  (hsound : run.Sound db (Asked filter settings.mapping rawClaims))

include hfield hfilter horganization huser hsound

/-- A controlled group that the user is in after a pass was to be wanted. -/
theorem wantedGroup_of_converge
    (h : GroupsConverge regexNew userId organizationId rawClaims settings filter db)
    {id : Uuid} {row : GroupRow} (hrow : db.groups.lookup id = some row)
    (hown : row.Own organizationId)
    (hmember : Sought lower organizationId filter rawClaims settings id row ∨
      ((id, userId) ∈ db.groupMembers ∧ db.live userId = false)) :
    WantedGroup filter rawClaims settings id row := by
  obtain ⟨result, after, hrun, hreconciled⟩ :=
    syncGroups_ok hfield hfilter horganization huser hsound
  have hmembers := h.members run hsound id row
  rw [hrun] at hmembers
  have hafter := hreconciled.old id row hrow
  exact (hmembers hafter hown).mp ((hreconciled.member_iff hafter hown).mpr hmember)

/-- A pass over the claims puts the user in the controlled group that a name clashes with. -/
theorem groups_of_converge
    (h : GroupsConverge regexNew userId organizationId rawClaims settings filter db)
    (hauto : settings.autoCreateMissingGroups = true) {id : Uuid} {row : GroupRow}
    (hrow : db.groups.lookup id = some row) (hown : row.Own organizationId) {name : String}
    (hasked : Asked filter settings.mapping rawClaims name)
    (hlower : lower row.name = lower name) : WantedGroup filter rawClaims settings id row :=
  wantedGroup_of_converge hfield hfilter horganization huser hsound h hrow hown
    (.inl (.inr ⟨name, hasked, hown.2, .inr ⟨hauto, hlower⟩⟩))

/-- Of two names that clash, the one that is looked at first becomes the name of the group. -/
theorem memberOf_startingWith (hauto : settings.autoCreateMissingGroups = true) {name : String}
    (hasked : Asked filter settings.mapping rawClaims name)
    (hnone : db.selectGroupByName organizationId name = none) :
    MemberOf (syncGroups regexNew (run.startingWith name) userId organizationId rawClaims settings
      db).2 userId organizationId name ∧
    ∀ name', lower name' = lower name →
      MemberOf (syncGroups regexNew (run.startingWith name) userId organizationId rawClaims
        settings db).2 userId organizationId name' → name' = name := by
  have hfirst : name ∈ ((run.startingWith name).nameOrder
      (expandClaims filter settings.mapping rawClaims).names.toList).head? := by
    show name ∈ (if name ∈ _ then _ else _ : List String).head?
    rw [if_pos (HashSet.mem_toList.mpr (mem_names_expandClaims.mpr hasked))]
    rfl
  have hcreated := reconcileGroups_first horganization huser (hsound.startingWith name) hauto
    hfirst hnone
  obtain ⟨result, after, hrun, hreconciled⟩ :=
    reconcileGroups_ok horganization huser (hsound.startingWith name)
  rw [syncGroups_eq hfield hfilter, Effect.mapError_state]
  rw [hrun] at hcreated ⊢
  refine ⟨⟨_, _, hcreated, rfl, rfl, hreconciled.sought _ _ hcreated ?_⟩, ?_⟩
  · exact .inr ⟨name, hasked, rfl, .inl rfl⟩
  · rintro name' hlower ⟨id, row, hrow, hrowOrganization, rfl, -⟩
    have hid := after.oneName id _ row _ hrow hcreated hrowOrganization hlower
    rw [hid, hcreated] at hrow
    cases hrow
    rfl

theorem names_of_converge
    (h : GroupsConverge regexNew userId organizationId rawClaims settings filter db)
    (hauto : settings.autoCreateMissingGroups = true) {name name' : String}
    (hasked : Asked filter settings.mapping rawClaims name)
    (hasked' : Asked filter settings.mapping rawClaims name') (hlower : lower name = lower name')
    (hnone : db.selectGroupByName organizationId name = none) : name = name' := by
  have hnone' : db.selectGroupByName organizationId name' = none := by
    rw [selectGroupByName_eq_none] at hnone ⊢
    rw [← hlower]
    exact hnone
  obtain ⟨hmember, -⟩ := memberOf_startingWith hfield hfilter horganization huser hsound hauto
    hasked hnone
  obtain ⟨-, honly⟩ := memberOf_startingWith hfield hfilter horganization huser hsound hauto
    hasked' hnone'
  refine honly name hlower ?_
  exact (h.permuted rawClaims (fun _ => Iff.rfl) (run.startingWith name) (run.startingWith name')
    (hsound.startingWith name) (hsound.startingWith name') userId organizationId name).mpr hmember

end

/-- The passes converge exactly when no name comes in two cases, and no deleted user would have to
be removed. -/
theorem groupsConverge_iff (regexNew : RegexNew) (userId organizationId : Uuid)
    (rawClaims : List String) (settings : GroupSyncSettings) (filter : Option (String → Bool))
    (db : Db lower) (hfield : settings.field.isEmpty = false)
    (hfilter : compileFilter regexNew settings.regexFilter = .ok filter)
    (horganization : (db.organizations.lookup organizationId).isSome = true)
    (huser : (db.users.lookup userId).isSome = true)
    (hids : ∃ run : GroupRun, run.Sound db (Asked filter settings.mapping rawClaims)) :
    GroupsConverge regexNew userId organizationId rawClaims settings filter db ↔
      NoClash userId organizationId rawClaims settings filter db := by
  refine ⟨fun h => ?_, groupsConverge_of_noClash hfield hfilter horganization huser⟩
  obtain ⟨run, hsound⟩ := hids
  refine ⟨fun hauto id row hrow hown name hasked hlower => ?_, ?_, ?_⟩
  · exact groups_of_converge hfield hfilter horganization huser hsound h hauto hrow hown hasked
      hlower
  · intro hauto name name' hasked hasked' hlower hnone
    exact names_of_converge hfield hfilter horganization huser hsound h hauto hasked hasked'
      hlower hnone
  · intro hdeleted id row hrow hown hmember
    exact wantedGroup_of_converge hfield hfilter horganization huser hsound h hrow hown
      (.inr ⟨hmember, hdeleted⟩)

/-! ## A group in another case -/

def asciiLower (s : String) : String := String.ofList (s.toList.map Char.toLower)

def teamRow : GroupRow where
  name := "Team"
  displayName := ""
  organizationId := ⟨10⟩
  avatarUrl := ""
  quotaAllowance := 0
  source := "oidc"

/-- A user, and a group that he is not in. -/
def oneGroup (row : GroupRow) : Db asciiLower where
  users := AList.insert ⟨1⟩ { deleted := false } ∅
  organizations := AList.insert ⟨10⟩ { isDefault := true, deleted := false } ∅
  organizationMembers := ∅
  groups := AList.insert ⟨20⟩ row ∅
  groupMembers := ∅
  oneDefault := by
    intro id id' row row' hrow hrow' hdefault hdefault'
    simp only [HashMap.lookup_insert_ite, AList.lookup_empty] at hrow hrow'
    grind
  oneName := by
    intro id id' row row' hrow hrow'
    simp only [HashMap.lookup_insert_ite, AList.lookup_empty] at hrow hrow'
    grind
  memberOfGroup := by
    intro m hm
    cases hm

def createMissing : GroupSyncSettings where
  field := "groups"
  mapping := ∅
  regexFilter := none
  autoCreateMissingGroups := true

def calmRun : GroupRun where
  fault _ := none
  newId _ := ⟨30⟩
  nameOrder l := l
  wantedOrder l := l
  currentOrder l := l
  nameOrder_perm _ := .refl _
  wantedOrder_perm _ := .refl _
  currentOrder_perm _ := .refl _

theorem sound_calmRun (row : GroupRow) (raw : String) (filter : Option (String → Bool)) :
    calmRun.Sound (oneGroup row) (Asked filter createMissing.mapping [raw]) := by
  refine ⟨fun _ => rfl, fun _ _ => rfl, fun name name' hname hname' _ => ?_⟩
  rw [List.mem_singleton.mp hname.1, List.mem_singleton.mp hname'.1]

theorem groupsConverge_oneGroup :
    GroupsConverge literalRegex ⟨1⟩ ⟨10⟩ ["Team"] createMissing none (oneGroup teamRow) := by
  refine (groupsConverge_iff literalRegex ⟨1⟩ ⟨10⟩ ["Team"] createMissing none (oneGroup teamRow)
    (by decide) rfl rfl rfl ⟨calmRun, sound_calmRun teamRow "Team" none⟩).mpr ⟨?_, ?_, ?_⟩
  · intro _ id row hrow _ _ _ _
    simp only [oneGroup, HashMap.lookup_insert_ite, AList.lookup_empty] at hrow
    split at hrow
    · cases hrow
      exact .inr ⟨List.mem_singleton.mpr rfl, rfl, rfl⟩
    · cases hrow
  · intro _ name name' hname hname' _ _
    rw [List.mem_singleton.mp hname.1, List.mem_singleton.mp hname'.1]
  · intro hdeleted
    cases hdeleted

/-- The claim differs from the name of the group in case: no group has its name, it cannot be
created, and the user ends up in the other group. -/
theorem not_groupsConverge_oneGroup :
    ¬ GroupsConverge literalRegex ⟨1⟩ ⟨10⟩ ["team"] createMissing none (oneGroup teamRow) := by
  intro h
  have hwanted : WantedGroup none ["team"] createMissing ⟨20⟩ teamRow :=
    groups_of_converge (by decide) rfl rfl rfl (sound_calmRun teamRow "team" none) h rfl rfl
      ⟨rfl, rfl⟩ ⟨List.mem_singleton.mpr rfl, rfl, rfl⟩ (by decide)
  obtain ⟨raw, -, -, ids, hlookup, -⟩ | ⟨hmem, -⟩ := hwanted
  · cases hlookup
  · exact absurd (List.mem_singleton.mp hmem) (by decide)

end Coderd.IdpSync
