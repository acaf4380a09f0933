import Coderd.IdpSync.GroupConvergence

namespace Coderd.IdpSync

open Coderd.Foundation Coderd.DbAuthz

variable {lower : String → String}

/-! ## What is claimed -/

/-- Whatever fails, and whatever the orders, a pass changes memberships of controlled groups of
the organization only. -/
def TouchesOwnOnly (regexNew : RegexNew) (userId organizationId : Uuid) (rawClaims : List String)
    (settings : GroupSyncSettings) (db : Db lower) : Prop :=
  ∀ (run : GroupRun) (id user : Uuid),
    ((id, user) ∈
        (syncGroups regexNew run userId organizationId rawClaims settings db).2.groupMembers ↔
      (id, user) ∈ db.groupMembers) ∨
    ∃ row,
      (syncGroups regexNew run userId organizationId rawClaims settings db).2.groups.lookup id =
        some row ∧
      row.Own organizationId

/-- If there is a pass at all, every other group that the claims lead to has the user as a member
already. -/
def LeadsToOwnOnly (regexNew : RegexNew) (userId organizationId : Uuid) (rawClaims : List String)
    (settings : GroupSyncSettings) (db : Db lower) : Prop :=
  settings.field.isEmpty = false → ∀ filter,
    compileFilter regexNew settings.regexFilter = .ok filter →
    ∀ id row, db.groups.lookup id = some row →
      Sought lower organizationId filter rawClaims settings id row →
        row.Own organizationId ∨ (id, userId) ∈ db.groupMembers

/-! ## The frame -/

/-- Nothing but controlled groups of the organization is new, or has other members. -/
structure Intact (organizationId : Uuid) (db after : Db lower) : Prop where
  old : ∀ id row, db.groups.lookup id = some row → after.groups.lookup id = some row
  new : ∀ id row, after.groups.lookup id = some row →
    db.groups.lookup id = some row ∨ row.Own organizationId
  members : ∀ id user, ((id, user) ∈ after.groupMembers ↔ (id, user) ∈ db.groupMembers) ∨
    ∃ row, after.groups.lookup id = some row ∧ row.Own organizationId

variable {userId organizationId : Uuid} {db mid : Db lower} {run : GroupRun}

theorem Intact.refl (db : Db lower) : Intact organizationId db db :=
  ⟨fun _ _ h => h, fun _ _ h => .inl h, fun _ _ => .inl Iff.rfl⟩

theorem Intact.addGroup (h : Intact organizationId db mid) {id : Uuid} {row : GroupRow}
    (hid : mid.groups.lookup id = none)
    (hname : mid.selectGroupByName row.organizationId row.name = none)
    (hown : row.Own organizationId) :
    Intact organizationId db (mid.addGroup id row hid hname) := by
  refine ⟨fun id' row' hrow' =>
    lookup_addGroup_of_lookup hid hname (h.old id' row' hrow'), ?_, ?_⟩
  · intro id' row' hrow'
    rw [lookup_addGroup] at hrow'
    split at hrow'
    · cases hrow'
      exact .inr hown
    · exact h.new id' row' hrow'
  · intro id' user
    obtain hsame | ⟨row', hrow', hown'⟩ := h.members id' user
    · exact .inl hsame
    · exact .inr ⟨row', lookup_addGroup_of_lookup hid hname hrow', hown'⟩

/-- A change of the members of one controlled group. -/
theorem Intact.own (h : Intact organizationId db mid) {after : Db lower} {groupId : Uuid}
    {row : GroupRow} (hgroups : after.groups = mid.groups)
    (hmembers : ∀ id user, id ≠ groupId →
      ((id, user) ∈ after.groupMembers ↔ (id, user) ∈ mid.groupMembers))
    (hrow : mid.groups.lookup groupId = some row) (hown : row.Own organizationId) :
    Intact organizationId db after := by
  refine ⟨?_, ?_, fun id user => ?_⟩
  · rw [hgroups]
    exact h.old
  · rw [hgroups]
    exact h.new
  · rw [hgroups]
    by_cases hid : id = groupId
    · subst hid
      exact .inr ⟨row, hrow, hown⟩
    · rw [hmembers id user hid]
      exact h.members id user

/-! ## Every step, whatever fails -/

/-- The id stands for no group, for a controlled group of the organization, or for a group that the
user is in. -/
def Harmless (userId organizationId : Uuid) (db : Db lower) (id : Uuid) : Prop :=
  ∀ row, db.groups.lookup id = some row → row.Own organizationId ∨ (id, userId) ∈ db.groupMembers

theorem createGroup_intact (newId : Uuid) (name : String) :
    Effect.Triple (Intact organizationId db)
      (createGroup newId (newGroup organizationId name))
      (fun id s => Intact organizationId db s ∧ Harmless userId organizationId db id)
      (Intact organizationId db) := by
  intro s hs
  unfold createGroup
  split
  · split
    · rename_i hname hid
      split
      · exact ⟨fun _ _ heq => (by cases (Prod.mk.inj heq).1), fun _ _ heq => by cases heq; exact hs⟩
      · refine ⟨fun _ _ heq => ?_, fun _ _ heq => by cases (Prod.mk.inj heq).1⟩
        cases heq
        refine ⟨hs.addGroup hid hname ⟨rfl, rfl⟩, fun row hrow => ?_⟩
        rw [hs.old newId row hrow] at hid
        cases hid
    · exact ⟨fun _ _ heq => (by cases (Prod.mk.inj heq).1), fun _ _ heq => by cases heq; exact hs⟩
  · exact ⟨fun _ _ heq => (by cases (Prod.mk.inj heq).1), fun _ _ heq => by cases heq; exact hs⟩

/-- The two calls of a name that no group has: a failure of either is handed on. -/
theorem attemptCreate_intact (run : GroupRun) (userId : Uuid) (name : String) :
    Effect.Triple (Intact organizationId db)
      (Effect.result (Effect.through (run.fault (.createGroup name))
        (createGroup (run.newId name) (newGroup organizationId name))) :
          Effect (Db lower) StorageError (Except StorageError Uuid))
      (fun created s => Intact organizationId db s ∧
        ∀ id, created = .ok id → Harmless userId organizationId db id)
      (Intact organizationId db) := by
  have hcreate : Effect.Triple (Intact organizationId db)
      (Effect.through (run.fault (.createGroup name))
        (createGroup (run.newId name) (newGroup organizationId name)))
      (fun id s => Intact organizationId db s ∧ Harmless userId organizationId db id)
      (Intact organizationId db) :=
    (createGroup_intact _ _).through (fun _ h => h) (fun _ _ h => h.1)
  refine hcreate.result ?_ fun e s hs => ⟨hs, fun id heq => by cases heq⟩
  intro id s ⟨hs, hid⟩
  refine ⟨hs, fun id' heq => ?_⟩
  cases heq
  exact hid

section

variable {filter : Option (String → Bool)} {rawClaims : List String} {settings : GroupSyncSettings}
  (hleads : ∀ id row, db.groups.lookup id = some row →
    Sought lower organizationId filter rawClaims settings id row →
      row.Own organizationId ∨ (id, userId) ∈ db.groupMembers)

include hleads

theorem findGroupByName_intact (hauto : settings.autoCreateMissingGroups = true) {name : String}
    (hasked : Asked filter settings.mapping rawClaims name) :
    Effect.Triple (Intact organizationId db) (findGroupByName organizationId name)
      (fun found s => Intact organizationId db s ∧
        ∀ e ∈ found, Harmless userId organizationId db e.1) (Intact organizationId db) := by
  refine Effect.Triple.of_ok fun s hs => ⟨s.selectGroupByName organizationId name, s, rfl, hs, ?_⟩
  intro e he row hrow
  obtain ⟨hfound, horganization, hlower⟩ := of_selectGroupByName he
  rw [hs.old e.1 row hrow] at hfound
  cases hfound
  exact hleads e.1 _ hrow (.inr ⟨name, hasked, horganization, .inr ⟨hauto, hlower⟩⟩)

theorem attemptFind_intact (run : GroupRun) (hauto : settings.autoCreateMissingGroups = true)
    {name : String} (hasked : Asked filter settings.mapping rawClaims name) :
    Effect.Triple (Intact organizationId db)
      (Effect.result (Effect.through (run.fault (.findGroupByName name))
        (findGroupByName organizationId name)) :
          Effect (Db lower) StorageError (Except StorageError (Option ((_ : Uuid) × GroupRow))))
      (fun found s => Intact organizationId db s ∧
        ∀ e, found = .ok (some e) → Harmless userId organizationId db e.1)
      (Intact organizationId db) := by
  have hfound : Effect.Triple (Intact organizationId db)
      (Effect.through (run.fault (.findGroupByName name)) (findGroupByName organizationId name))
      (fun found s => Intact organizationId db s ∧
        ∀ e ∈ found, Harmless userId organizationId db e.1) (Intact organizationId db) :=
    (findGroupByName_intact hleads hauto hasked).through (fun _ h => h) (fun _ _ h => h.1)
  refine hfound.result ?_ fun e s hs => ⟨hs, fun e heq => by cases heq⟩
  intro found s ⟨hs, hharmless⟩
  refine ⟨hs, fun e heq => hharmless e ?_⟩
  cases heq
  exact Option.mem_def.mpr rfl

theorem resolveName_intact {name : String}
    (hasked : Asked filter settings.mapping rawClaims name) (resolved : Resolved) :
    Effect.Triple (fun s => Intact organizationId db s ∧
        ∀ id ∈ resolved.ids, Harmless userId organizationId db id)
      (resolveName run organizationId settings.autoCreateMissingGroups
        (db.selectGroups organizationId) resolved name)
      (fun resolved s => Intact organizationId db s ∧
        ∀ id ∈ resolved.ids, Harmless userId organizationId db id)
      (Intact organizationId db) := by
  refine Effect.Triple.assume fun hids => ?_
  have hinsert : ∀ {id : Uuid}, Harmless userId organizationId db id →
      ∀ id' ∈ resolved.ids.insert id, Harmless userId organizationId db id' := by
    intro id hid id' hid'
    obtain rfl | hold := HashSet.mem_insert.mp hid'
    · exact hid
    · exact hids id' hold
  unfold resolveName
  cases hfind : (db.selectGroups organizationId).find? fun g => decide (g.2.name = name) with
  | some group =>
    refine Effect.Triple.pure fun s hs => ⟨hs, hinsert ?_⟩
    obtain ⟨hrow, horganization⟩ := mem_selectGroups.mp (List.mem_of_find?_eq_some hfind)
    have heq : group.2.name = name := by simpa using List.find?_some hfind
    intro row hrow'
    rw [hrow] at hrow'
    cases hrow'
    exact hleads group.1 _ hrow (.inr ⟨name, hasked, horganization, .inl heq⟩)
  | none =>
    dsimp only
    split
    · rename_i hauto
      refine Effect.Triple.bind (attemptCreate_intact run userId name) fun created => ?_
      cases created with
      | ok id => exact Effect.Triple.pure fun s hs => ⟨hs.1, hinsert (hs.2 id rfl)⟩
      | error err =>
        refine Effect.Triple.bind ((attemptFind_intact hleads run hauto hasked).mono
          (fun _ h => h.1) (fun _ _ h => h) (fun _ h => h)) fun found => ?_
        split
        · rename_i group
          exact Effect.Triple.pure fun s hs => ⟨hs.1, hinsert (hs.2 group rfl)⟩
        · exact Effect.Triple.fail fun s hs => hs.1
    · exact Effect.Triple.pure fun s hs => ⟨hs, hids⟩

theorem resolveNames_intact :
    Effect.Triple (fun s => s = db)
      (resolveNames run organizationId settings.autoCreateMissingGroups
        (expandClaims filter settings.mapping rawClaims))
      (fun resolved s => Intact organizationId db s ∧
        ∀ id ∈ resolved.ids, Harmless userId organizationId db id)
      (Intact organizationId db) := by
  have hlist : Effect.Triple (fun s => s = db)
      (Effect.through (run.fault .listGroups) (listGroups organizationId))
      (fun existing s => s = db ∧ existing = db.selectGroups organizationId)
      (Intact organizationId db) := by
    refine Effect.Triple.through (Effect.Triple.of_ok ?_) ?_ ?_
    · rintro s rfl
      exact ⟨_, s, rfl, rfl, rfl⟩
    · rintro s rfl
      exact .refl s
    · rintro _ s ⟨rfl, -⟩
      exact .refl s
  refine Effect.Triple.bind hlist fun existing => Effect.Triple.assume ?_
  rintro rfl
  refine (Effect.Triple.foldlM (I := fun _ (resolved : Resolved) s => Intact organizationId db s ∧
    ∀ id ∈ resolved.ids, Harmless userId organizationId db id) ?_ _).mono ?_ (fun _ _ h => h)
    (fun _ h => h)
  · intro done name rest resolved hsplit
    refine resolveName_intact hleads ?_ resolved
    rw [← mem_nameOrder run, hsplit]
    exact List.mem_append_right _ List.mem_cons_self
  · rintro s rfl
    refine ⟨.refl s, fun id hid row hrow => hleads id row hrow (.inl ?_)⟩
    exact mem_ids_expandClaims.mp hid

end

theorem inspectGroup_intact {controlled : Controlled} {group : (_ : Uuid) × GroupRow}
    (hgroup : group ∈ db.selectGroups organizationId)
    (hcontrolled : ∀ id ∈ controlled.groups, ∃ row, db.groups.lookup id = some row ∧
      row.Own organizationId) :
    Effect.Triple (fun s => s = db) (inspectGroup run userId controlled group)
      (fun controlled s => s = db ∧ ∀ id ∈ controlled.groups,
        ∃ row, db.groups.lookup id = some row ∧ row.Own organizationId) (fun s => s = db) := by
  unfold inspectGroup
  split
  · rename_i hsource
    have hlist : Effect.Triple (fun s => s = db)
        (Effect.through (run.fault (.listGroupMembers group.1)) (listGroupMembers group.1))
        (fun _ s => s = db) (fun s => s = db) := by
      refine Effect.Triple.through (Effect.Triple.of_ok ?_) (fun _ h => h) (fun _ _ h => h)
      exact fun s hs => ⟨_, s, rfl, hs⟩
    refine Effect.Triple.bind hlist fun members => Effect.Triple.pure fun s hs => ⟨hs, ?_⟩
    intro id hid
    obtain rfl | hold := HashSet.mem_insert.mp hid
    · obtain ⟨hrow, horganization⟩ := mem_selectGroups.mp hgroup
      exact ⟨group.2, hrow, hsource, horganization⟩
    · exact hcontrolled id hold
  · exact Effect.Triple.pure fun s hs => ⟨hs, hcontrolled⟩

theorem inspectGroups_intact (db : Db lower) :
    Effect.Triple (fun s => s = db) (inspectGroups run userId organizationId)
      (fun controlled s => s = db ∧ ∀ id ∈ controlled.groups,
        ∃ row, db.groups.lookup id = some row ∧ row.Own organizationId) (fun s => s = db) := by
  have hlist : Effect.Triple (fun s => s = db)
      (Effect.through (run.fault .listGroupsAgain) (listGroups organizationId))
      (fun refreshed s => s = db ∧ refreshed = db.selectGroups organizationId)
      (fun s => s = db) := by
    refine Effect.Triple.through (Effect.Triple.of_ok ?_) (fun _ h => h) (fun _ _ h => h.1)
    rintro s rfl
    exact ⟨_, s, rfl, rfl, rfl⟩
  refine Effect.Triple.bind hlist fun refreshed => Effect.Triple.assume ?_
  rintro rfl
  refine (Effect.Triple.foldlM (I := fun _ (controlled : Controlled) s => s = db ∧
    ∀ id ∈ controlled.groups, ∃ row, db.groups.lookup id = some row ∧
      row.Own organizationId) ?_ _).mono ?_ (fun _ _ h => h) (fun _ h => h)
  · intro done group rest controlled hsplit
    refine Effect.Triple.assume fun hcontrolled => inspectGroup_intact ?_ hcontrolled
    rw [hsplit]
    exact List.mem_append_right _ List.mem_cons_self
  · rintro s rfl
    exact ⟨rfl, fun id hid => absurd hid (HashSet.mem_empty id)⟩

theorem insertGroupMember_groups (wanted userId : Uuid) (s : Db lower) :
    (insertGroupMember wanted userId s).2.groups = s.groups := by
  unfold insertGroupMember
  split
  · rfl
  · split
    · split <;> rfl
    · rfl

/-- An insert for a harmless id changes a controlled group, or nothing. -/
theorem insertGroupMember_intact {wanted : Uuid}
    (hwanted : Harmless userId organizationId db wanted) {s : Db lower}
    (hs : Intact organizationId db s) :
    Intact organizationId db (insertGroupMember wanted userId s).2 := by
  cases hrow : s.groups.lookup wanted with
  | none =>
    rw [insertGroupMember_settled (.inr hrow)]
    exact hs
  | some row =>
    by_cases hown : row.Own organizationId
    · refine hs.own (insertGroupMember_groups wanted userId s) ?_ hrow hown
      intro id user hne
      unfold insertGroupMember
      split
      · exact Iff.rfl
      · split
        · split
          · exact Iff.rfl
          · show (id, user) ∈ s.groupMembers.insert (wanted, userId) ↔ _
            rw [HashSet.mem_insert, Prod.mk.injEq]
            simp [hne]
        · exact Iff.rfl
    · -- not a controlled group, so the user was in it before and the insert is refused
      have hbefore := (hs.new wanted row hrow).resolve_right hown
      have hmember : (wanted, userId) ∈ s.groupMembers := by
        obtain hsame | ⟨row', hrow', hown'⟩ := hs.members wanted userId
        · exact hsame.mpr ((hwanted row hbefore).resolve_left hown)
        · rw [hrow] at hrow'
          cases hrow'
          exact absurd hown' hown
      rw [insertGroupMember_settled (.inl hmember)]
      exact hs

/-- While memberships are changed, the groups stay those of `mid`. -/
def IntactOver (organizationId : Uuid) (db mid s : Db lower) : Prop :=
  Intact organizationId db s ∧ s.groups = mid.groups

theorem addGroupMember_intact {wanted : Uuid}
    (hwanted : Harmless userId organizationId db wanted) (current : HashSet Uuid) (added : Nat) :
    Effect.Triple (IntactOver organizationId db mid)
      (addGroupMember run userId current added wanted)
      (fun _ => IntactOver organizationId db mid) (IntactOver organizationId db mid) := by
  unfold addGroupMember
  split
  · exact Effect.Triple.pure fun s hs => hs
  · have hinsert : Effect.Triple (IntactOver organizationId db mid)
        (Effect.through (run.fault (.insertGroupMember wanted)) (insertGroupMember wanted userId))
        (fun _ => IntactOver organizationId db mid) (IntactOver organizationId db mid) := by
      refine Effect.Triple.through (Effect.Triple.of_final ?_) (fun _ h => h) (fun _ _ h => h)
      rintro s ⟨hs, hgroups⟩
      exact ⟨insertGroupMember_intact hwanted hs,
        (insertGroupMember_groups wanted userId s).trans hgroups⟩
    refine Effect.Triple.bind (hinsert.result (R := fun _ => IntactOver organizationId db mid)
      (fun _ _ h => h) fun _ _ h => h) fun inserted => ?_
    cases inserted with
    | ok _ => exact Effect.Triple.pure fun s hs => hs
    | error _ => exact Effect.Triple.pure fun s hs => hs

/-- Nobody is removed from a group that is not controlled. -/
theorem removeGroupMember_intact {idpGroupIds : HashSet Uuid}
    (hown : ∀ id ∈ idpGroupIds, ∃ row, mid.groups.lookup id = some row ∧ row.Own organizationId)
    (wantedIds : HashSet Uuid) (removed : Nat) (existing : Uuid) :
    Effect.Triple (IntactOver organizationId db mid)
      (removeGroupMember run userId wantedIds idpGroupIds removed existing)
      (fun _ => IntactOver organizationId db mid)
      (IntactOver organizationId db mid) := by
  unfold removeGroupMember
  split
  · exact Effect.Triple.pure fun s hs => hs
  · rename_i hskip
    have hgroup : existing ∈ idpGroupIds := not_not.mp fun hnot => hskip (.inr hnot)
    obtain ⟨row, hrow, hrowOwn⟩ := hown existing hgroup
    have hdelete : Effect.Triple (IntactOver organizationId db mid)
        (Effect.through (run.fault (.deleteGroupMember existing))
          (deleteGroupMember existing userId))
        (fun _ => IntactOver organizationId db mid)
        (IntactOver organizationId db mid) := by
      refine Effect.Triple.through (Effect.Triple.of_final ?_) (fun _ h => h) (fun _ _ h => h)
      rintro s ⟨hs, hgroups⟩
      refine ⟨hs.own rfl (fun id user hne => ?_) (by rw [hgroups]; exact hrow) hrowOwn, hgroups⟩
      show (id, user) ∈ s.groupMembers.remove (existing, userId) ↔ _
      rw [HashSet.mem_remove, ne_eq, Prod.mk.injEq]
      simp [hne]
    refine Effect.Triple.bind (hdelete.result (R := fun _ => IntactOver organizationId db mid)
      (fun _ _ h => h) fun _ _ h => h) fun deleted => ?_
    split <;> exact Effect.Triple.pure fun s hs => hs

theorem reconcileGroups_intact {filter : Option (String → Bool)} {rawClaims : List String}
    {settings : GroupSyncSettings}
    (hleads : ∀ id row, db.groups.lookup id = some row →
      Sought lower organizationId filter rawClaims settings id row →
        row.Own organizationId ∨ (id, userId) ∈ db.groupMembers) :
    Effect.Triple (fun s => s = db)
      (reconcileGroups run userId organizationId filter rawClaims settings)
      (fun _ => Intact organizationId db) (Intact organizationId db) := by
  refine Effect.Triple.bind (resolveNames_intact hleads) fun resolved =>
    Effect.Triple.assume fun hids => Effect.Triple.of_each fun mid hmid => ?_
  refine Effect.Triple.bind ((inspectGroups_intact mid).mono (fun _ h => h) (fun _ _ h => h)
    (fun s hs => by rw [hs]; exact hmid)) fun controlled => Effect.Triple.assume fun hown => ?_
  have hadd : Effect.Triple (IntactOver organizationId db mid)
      ((run.wantedOrder resolved.ids.toList).foldlM
        (addGroupMember run userId controlled.current) 0)
      (fun _ => IntactOver organizationId db mid) (IntactOver organizationId db mid) := by
    refine Effect.Triple.foldlM (I := fun _ _ => IntactOver organizationId db mid) ?_ 0
    intro done id rest added hsplit
    refine addGroupMember_intact (hids id ?_) controlled.current added
    rw [← HashSet.mem_toList, ← (run.wantedOrder_perm _).mem_iff, hsplit]
    exact List.mem_append_right _ List.mem_cons_self
  have hremove : Effect.Triple (IntactOver organizationId db mid)
      ((run.currentOrder controlled.current.toList).foldlM
        (removeGroupMember run userId resolved.ids controlled.groups) 0)
      (fun _ => IntactOver organizationId db mid) (IntactOver organizationId db mid) :=
    Effect.Triple.foldlM (I := fun _ _ => IntactOver organizationId db mid)
      (fun done id rest removed _ => removeGroupMember_intact hown resolved.ids removed id) 0
  refine Effect.Triple.bind (hadd.mono ?_ (fun _ _ h => h) (fun _ h => h.1)) fun added =>
    Effect.Triple.bind (hremove.mono (fun _ h => h) (fun _ _ h => h) (fun _ h => h.1))
      fun removed => Effect.Triple.pure fun s hs => hs.1
  rintro s rfl
  exact ⟨hmid, rfl⟩

/-! ## Both directions -/

theorem leadsToOwnOnly_of_touches {regexNew : RegexNew} {rawClaims : List String}
    {settings : GroupSyncSettings}
    (horganization : (db.organizations.lookup organizationId).isSome = true)
    (huser : (db.users.lookup userId).isSome = true)
    (hids : ∀ filter, ∃ run : GroupRun, run.Sound db (Asked filter settings.mapping rawClaims))
    (h : TouchesOwnOnly regexNew userId organizationId rawClaims settings db) :
    LeadsToOwnOnly regexNew userId organizationId rawClaims settings db := by
  intro hfield filter hfilter id row hrow hsought
  obtain ⟨run, hsound⟩ := hids filter
  obtain ⟨result, after, hrun, hreconciled⟩ :=
    syncGroups_ok hfield hfilter horganization huser hsound
  have hafter := hreconciled.old id row hrow
  have htouched := h run id userId
  rw [hrun] at htouched
  obtain hsame | ⟨row', hrow', hown⟩ := htouched
  · exact .inr (hsame.mp (hreconciled.sought id row hafter hsought))
  · rw [hafter] at hrow'
    cases hrow'
    exact .inl hown

theorem touchesOwnOnly_of_leads {regexNew : RegexNew} {rawClaims : List String}
    {settings : GroupSyncSettings}
    (h : LeadsToOwnOnly regexNew userId organizationId rawClaims settings db) :
    TouchesOwnOnly regexNew userId organizationId rawClaims settings db := by
  intro run id user
  cases hfield : settings.field.isEmpty with
  | true =>
    rw [syncGroups, if_pos hfield]
    exact .inl Iff.rfl
  | false =>
    cases hfilter : compileFilter regexNew settings.regexFilter with
    | error e =>
      have hsync : syncGroups regexNew run userId organizationId rawClaims settings db =
          (.error e, db) := by
        rw [syncGroups, if_neg (by rw [hfield]; decide), hfilter]
        exact Effect.bind_error rfl
      rw [hsync]
      exact .inl Iff.rfl
    | ok filter =>
      have hpass : Effect.Triple (fun s => s = db)
          (reconcileGroups run userId organizationId filter rawClaims settings)
          (fun _ => Intact organizationId db) (Intact organizationId db) :=
        reconcileGroups_intact (h hfield filter hfilter)
      rw [syncGroups_eq hfield hfilter, Effect.mapError_state]
      exact (hpass.final rfl).members id user

/-- A pass touches its own groups only exactly when the claims lead to no other group that the
user is not in. -/
theorem touchesOwnOnly_iff (regexNew : RegexNew) (userId organizationId : Uuid)
    (rawClaims : List String) (settings : GroupSyncSettings) (db : Db lower)
    (horganization : (db.organizations.lookup organizationId).isSome = true)
    (huser : (db.users.lookup userId).isSome = true)
    (hids : ∀ filter, ∃ run : GroupRun, run.Sound db (Asked filter settings.mapping rawClaims)) :
    TouchesOwnOnly regexNew userId organizationId rawClaims settings db ↔
      LeadsToOwnOnly regexNew userId organizationId rawClaims settings db :=
  ⟨leadsToOwnOnly_of_touches horganization huser hids, touchesOwnOnly_of_leads⟩

theorem touchesOwnOnly_controlled :
    TouchesOwnOnly literalRegex ⟨1⟩ ⟨10⟩ ["Team"] createMissing (oneGroup teamRow) := by
  refine (touchesOwnOnly_iff literalRegex ⟨1⟩ ⟨10⟩ ["Team"] createMissing (oneGroup teamRow) rfl rfl
    fun filter => ⟨calmRun, sound_calmRun teamRow "Team" filter⟩).mpr ?_
  intro _ _ _ id row hrow _
  simp only [oneGroup, HashMap.lookup_insert_ite, AList.lookup_empty] at hrow
  split at hrow
  · cases hrow
    exact .inl ⟨rfl, rfl⟩
  · cases hrow

/-- A group that a user has created, with the name of a claim. -/
def createdByUser : GroupRow := { teamRow with source := "user" }

theorem not_touchesOwnOnly_createdByUser :
    ¬ TouchesOwnOnly literalRegex ⟨1⟩ ⟨10⟩ ["Team"] createMissing (oneGroup createdByUser) := by
  intro h
  have hleads := leadsToOwnOnly_of_touches rfl rfl
    (fun filter => ⟨calmRun, sound_calmRun createdByUser "Team" filter⟩) h
  obtain ⟨hsource, -⟩ | hmember := hleads (by decide) none rfl ⟨20⟩ createdByUser rfl
    (.inr ⟨"Team", ⟨List.mem_singleton.mpr rfl, rfl, rfl⟩, rfl, .inl rfl⟩)
  · exact absurd hsource (by decide)
  · cases hmember

end Coderd.IdpSync
