import Mathlib.Tactic.Tauto
import Coderd.IdpSync.Groups

namespace Coderd.IdpSync

open Coderd.Foundation Coderd.DbAuthz

variable {lower : String → String}

/-! ## Claims -/

/-- A claim that passes the filter and is not mapped stands for a name. -/
def Asked (filter : Option (String → Bool)) (mapping : HashMap String (List Uuid))
    (rawClaims : List String) (name : String) : Prop :=
  name ∈ rawClaims ∧ passes filter name = true ∧ mapping.lookup name = none

section

variable {filter : Option (String → Bool)} {mapping : HashMap String (List Uuid)}
  {rawClaims : List String}

theorem asked_cons {raw name : String} :
    Asked filter mapping (raw :: rawClaims) name ↔
      (name = raw ∧ passes filter raw = true ∧ mapping.lookup raw = none) ∨
        Asked filter mapping rawClaims name := by
  simp only [Asked, List.mem_cons, or_and_right]
  refine or_congr_left (and_congr_right ?_)
  rintro rfl
  exact Iff.rfl

theorem mem_ids_expandClaim {wanted : Wanted} {raw : String} {id : Uuid} :
    id ∈ (expandClaim filter mapping wanted raw).ids ↔
      id ∈ wanted.ids ∨ (passes filter raw = true ∧
        ∃ ids, mapping.lookup raw = some ids ∧ id ∈ ids) := by
  unfold expandClaim
  split
  · rename_i hpasses
    split
    · rename_i ids hlookup
      simp [hpasses, hlookup, HashSet.mem_foldl_insert]
    · rename_i hlookup
      simp [hlookup]
  · rename_i hpasses
    simp [hpasses]

theorem mem_names_expandClaim {wanted : Wanted} {raw name : String} :
    name ∈ (expandClaim filter mapping wanted raw).names ↔
      name ∈ wanted.names ∨ (name = raw ∧ passes filter raw = true ∧
        mapping.lookup raw = none) := by
  unfold expandClaim
  split
  · rename_i hpasses
    split
    · rename_i ids hlookup
      simp [hlookup]
    · rename_i hlookup
      simp [hpasses, hlookup, or_comm]
  · rename_i hpasses
    simp [hpasses]

theorem mem_ids_expandClaims {id : Uuid} :
    id ∈ (expandClaims filter mapping rawClaims).ids ↔ Mapped filter mapping rawClaims id := by
  have hfold : ∀ wanted : Wanted,
      id ∈ (rawClaims.foldl (expandClaim filter mapping) wanted).ids ↔
        id ∈ wanted.ids ∨ Mapped filter mapping rawClaims id := by
    induction rawClaims with
    | nil => simp [Mapped]
    | cons raw rawClaims ih =>
      intro wanted
      rw [List.foldl_cons, ih, mem_ids_expandClaim, mapped_cons, or_assoc]
  rw [expandClaims, hfold]
  simp

theorem mem_names_expandClaims {name : String} :
    name ∈ (expandClaims filter mapping rawClaims).names ↔
      Asked filter mapping rawClaims name := by
  have hfold : ∀ wanted : Wanted,
      name ∈ (rawClaims.foldl (expandClaim filter mapping) wanted).names ↔
        name ∈ wanted.names ∨ Asked filter mapping rawClaims name := by
    induction rawClaims with
    | nil => simp [Asked]
    | cons raw rawClaims ih =>
      intro wanted
      rw [List.foldl_cons, ih, mem_names_expandClaim, asked_cons, or_assoc]
  rw [expandClaims, hfold]
  simp

end

/-! ## Runs without a failure -/

/-- No call fails, and each name would get an id of its own that is free. -/
structure GroupRun.Sound (run : GroupRun) (db : Db lower) (names : String → Prop) : Prop where
  fault : ∀ call, run.fault call = none
  fresh : ∀ name, names name → db.groups.lookup (run.newId name) = none
  distinct : ∀ name name', names name → names name' → run.newId name = run.newId name' →
    name = name'

/-- The row stands for the name, in the way that names are looked up. -/
def Matches (lower : String → String) (organizationId : Uuid) (autoCreate : Bool) (name : String)
    (row : GroupRow) : Prop :=
  row.organizationId = organizationId ∧
    (row.name = name ∨ (autoCreate = true ∧ lower row.name = lower name))

/-- What the names in `done` were resolved to. -/
structure Resolution (db : Db lower) (run : GroupRun) (organizationId : Uuid) (autoCreate : Bool)
    (ids : HashSet Uuid) (done : List String) (resolved : Resolved) (mid : Db lower) : Prop where
  users : mid.users = db.users
  organizations : mid.organizations = db.organizations
  organizationMembers : mid.organizationMembers = db.organizationMembers
  members : mid.groupMembers = db.groupMembers
  old : ∀ id row, db.groups.lookup id = some row → mid.groups.lookup id = some row
  new : ∀ id row, mid.groups.lookup id = some row → db.groups.lookup id = some row ∨
    (autoCreate = true ∧ ∃ name ∈ done, id = run.newId name ∧
      row = (newGroup organizationId name).row ∧ db.selectGroupByName organizationId name = none)
  present : autoCreate = true → ∀ name ∈ done,
    mid.selectGroupByName organizationId name ≠ none
  ids : ∀ id, id ∈ resolved.ids ↔ id ∈ ids ∨
    ∃ name ∈ done, ∃ row, mid.groups.lookup id = some row ∧
      Matches lower organizationId autoCreate name row
  unchanged : (autoCreate = true → ∀ name ∈ done,
    db.selectGroupByName organizationId name ≠ none) → mid = db
  first : autoCreate = true → ∀ name ∈ done.head?,
    db.selectGroupByName organizationId name = none →
      mid.groups.lookup (run.newId name) = some (newGroup organizationId name).row

variable {db mid : Db lower} {run : GroupRun} {organizationId userId : Uuid} {autoCreate : Bool}

theorem mem_selectGroups {e : (_ : Uuid) × GroupRow} :
    e ∈ db.selectGroups organizationId ↔
      db.groups.lookup e.1 = some e.2 ∧ e.2.organizationId = organizationId := by
  rw [Db.selectGroups, List.mem_filter, ← Option.mem_def, AList.mem_lookup_iff]
  simp

theorem of_selectGroupByName {name : String} {e : (_ : Uuid) × GroupRow}
    (h : db.selectGroupByName organizationId name = some e) :
    db.groups.lookup e.1 = some e.2 ∧ e.2.organizationId = organizationId ∧
      lower e.2.name = lower name := by
  have hmem := List.mem_of_find?_eq_some h
  have hwhere := List.find?_some h
  simp only [Bool.and_eq_true, decide_eq_true_eq] at hwhere
  exact ⟨AList.mem_lookup_iff.mpr hmem, hwhere⟩

theorem Matches.lower_eq {name : String} {row : GroupRow}
    (h : Matches lower organizationId autoCreate name row) : lower row.name = lower name := by
  obtain heq | ⟨-, heq⟩ := h.2
  · rw [heq]
  · exact heq

/-- No two groups stand for the same name. -/
theorem Matches.unique {name : String} {id id' : Uuid} {row row' : GroupRow}
    (h : Matches lower organizationId autoCreate name row)
    (hrow : db.groups.lookup id = some row) (hrow' : db.groups.lookup id' = some row')
    (horganization : row'.organizationId = organizationId)
    (hname : lower row'.name = lower name) : id = id' :=
  db.oneName id id' row row' hrow hrow' (h.1.trans horganization.symm)
    (h.lower_eq.trans hname.symm)

theorem Resolution.start (ids : HashSet Uuid) :
    Resolution db run organizationId autoCreate ids [] { ids } db where
  users := rfl
  organizations := rfl
  organizationMembers := rfl
  members := rfl
  old _ _ h := h
  new _ _ h := .inl h
  present _ name h := by cases h
  ids id := by simp
  unchanged _ := rfl
  first _ name h := by cases h

section

variable {ids : HashSet Uuid} {done : List String} {resolved : Resolved} {name : String}

/-- The name stands for a group that is there already. -/
theorem Resolution.found (h : Resolution db run organizationId autoCreate ids done resolved mid)
    {id : Uuid} {row : GroupRow} (hrow : mid.groups.lookup id = some row)
    (hmatches : Matches lower organizationId autoCreate name row)
    (hlower : lower row.name = lower name) :
    Resolution db run organizationId autoCreate ids (done ++ [name])
      { resolved with ids := resolved.ids.insert id } mid where
  users := h.users
  organizations := h.organizations
  organizationMembers := h.organizationMembers
  members := h.members
  old := h.old
  new id' row' hrow' := by
    obtain hold | ⟨hauto, name', hname', hrest⟩ := h.new id' row' hrow'
    · exact .inl hold
    · exact .inr ⟨hauto, name', List.mem_append_left _ hname', hrest⟩
  present hauto name' hname' := by
    obtain hold | hnew := List.mem_append.mp hname'
    · exact h.present hauto name' hold
    · rw [List.mem_singleton.mp hnew]
      intro hnone
      exact selectGroupByName_eq_none.mp hnone id row hrow hmatches.1 hlower
  ids id' := by
    simp only [HashSet.mem_insert, h.ids, List.mem_append, List.mem_singleton, or_and_right,
      exists_or, exists_eq_left]
    have hiff : id' = id ↔ ∃ row', mid.groups.lookup id' = some row' ∧
        Matches lower organizationId autoCreate name row' := by
      constructor
      · rintro rfl
        exact ⟨row, hrow, hmatches⟩
      · rintro ⟨row', hrow', hmatches'⟩
        exact hmatches'.unique hrow' hrow hmatches.1 hlower
    rw [hiff, or_comm, or_assoc]
  unchanged hpresent := by
    refine h.unchanged fun hauto name' hname' => ?_
    exact hpresent hauto name' (List.mem_append_left _ hname')
  first hauto name' hname' hnone := by
    cases done with
    | nil =>
      cases hname'
      obtain hold | ⟨-, name', hname', -⟩ := h.new id row hrow
      · exact absurd hlower (selectGroupByName_eq_none.mp hnone id row hold hmatches.1)
      · cases hname'
    | cons first done => exact h.first hauto name' hname' hnone

/-- Without the setting, a name that no group has is skipped. -/
theorem Resolution.skipped (h : Resolution db run organizationId false ids done resolved mid)
    (hnone : ∀ id row, db.groups.lookup id = some row → row.organizationId = organizationId →
      row.name ≠ name) :
    Resolution db run organizationId false ids (done ++ [name]) resolved mid where
  users := h.users
  organizations := h.organizations
  organizationMembers := h.organizationMembers
  members := h.members
  old := h.old
  new id' row' hrow' := by
    obtain hold | ⟨hauto, -⟩ := h.new id' row' hrow'
    · exact .inl hold
    · cases hauto
  present hauto := by cases hauto
  ids id' := by
    rw [h.ids]
    refine or_congr_right ⟨?_, ?_⟩
    · rintro ⟨name', hname', hrest⟩
      exact ⟨name', List.mem_append_left _ hname', hrest⟩
    · rintro ⟨name', hname', row, hrow, hmatches⟩
      obtain hold | hnew := List.mem_append.mp hname'
      · exact ⟨name', hold, row, hrow, hmatches⟩
      · cases List.mem_singleton.mp hnew
        obtain hrow | ⟨hauto, -⟩ := h.new id' row hrow
        · obtain ⟨horganization, hname | ⟨hauto, -⟩⟩ := hmatches
          · exact absurd hname (hnone id' row hrow horganization)
          · cases hauto
        · cases hauto
  unchanged _ := h.unchanged fun hauto => by cases hauto
  first hauto := by cases hauto

theorem selectGroupByName_of_old {name : String}
    (hold : ∀ id row, db.groups.lookup id = some row → mid.groups.lookup id = some row)
    (hnone : mid.selectGroupByName organizationId name = none) :
    db.selectGroupByName organizationId name = none := by
  rw [selectGroupByName_eq_none] at hnone ⊢
  exact fun id row hrow => hnone id row (hold id row hrow)

/-- A group is created for a name that no group has, not even in another case. -/
theorem Resolution.created (h : Resolution db run organizationId true ids done resolved mid)
    (hid : mid.groups.lookup (run.newId name) = none)
    (hname : mid.selectGroupByName organizationId name = none) (created : Nat) :
    Resolution db run organizationId true ids (done ++ [name])
      { ids := resolved.ids.insert (run.newId name), created }
      (mid.addGroup (run.newId name) (newGroup organizationId name).row hid hname) := by
  have hlookup : ∀ id, (mid.addGroup (run.newId name) (newGroup organizationId name).row hid
      hname).groups.lookup id =
        if id = run.newId name then some (newGroup organizationId name).row
        else mid.groups.lookup id := lookup_addGroup hid hname
  have hself : (mid.addGroup (run.newId name) (newGroup organizationId name).row hid
      hname).groups.lookup (run.newId name) = some (newGroup organizationId name).row :=
    lookup_addGroup_self hid hname
  have hold : ∀ id row, mid.groups.lookup id = some row →
      (mid.addGroup (run.newId name) (newGroup organizationId name).row hid
        hname).groups.lookup id = some row :=
    fun _ _ hrow => lookup_addGroup_of_lookup hid hname hrow
  have hnone := selectGroupByName_eq_none.mp hname
  exact
    { users := h.users
      organizations := h.organizations
      organizationMembers := h.organizationMembers
      members := h.members
      old := fun id row hrow => hold id row (h.old id row hrow)
      new := by
        intro id row hrow
        rw [hlookup] at hrow
        split at hrow
        · rename_i heq
          cases hrow
          exact .inr ⟨rfl, name, by simp, heq, rfl, selectGroupByName_of_old h.old hname⟩
        · obtain hbefore | ⟨hauto, name', hname', hrest⟩ := h.new id row hrow
          · exact .inl hbefore
          · exact .inr ⟨hauto, name', List.mem_append_left _ hname', hrest⟩
      present := by
        intro hauto name' hname' hfree
        have hmid := selectGroupByName_of_old hold hfree
        obtain hbefore | hnew := List.mem_append.mp hname'
        · exact h.present hauto name' hbefore hmid
        · cases List.mem_singleton.mp hnew
          exact selectGroupByName_eq_none.mp hfree (run.newId name)
            (newGroup organizationId name).row hself rfl rfl
      ids := by
        intro id
        rw [HashSet.mem_insert, h.ids]
        constructor
        · rintro (rfl | hmapped | ⟨name', hname', row, hrow, hrest⟩)
          · exact .inr ⟨name, by simp, (newGroup organizationId name).row, hself, rfl, .inl rfl⟩
          · exact .inl hmapped
          · exact .inr ⟨name', List.mem_append_left _ hname', row, hold id row hrow, hrest⟩
        · rintro (hmapped | ⟨name', hname', row, hrow, hrest⟩)
          · exact .inr (.inl hmapped)
          · rw [hlookup] at hrow
            split at hrow
            · exact .inl ‹_›
            · obtain hbefore | hnew := List.mem_append.mp hname'
              · exact .inr (.inr ⟨name', hbefore, row, hrow, hrest⟩)
              · cases List.mem_singleton.mp hnew
                exact absurd (Matches.lower_eq hrest) (hnone id row hrow hrest.1)
      unchanged := by
        intro hpresent
        exact absurd (selectGroupByName_of_old h.old hname) (hpresent rfl name (by simp))
      first := by
        intro hauto name' hname' hfree
        cases done with
        | nil =>
          cases hname'
          exact hself
        | cons first done => exact hold _ _ (h.first hauto name' hname' hfree) }

theorem createGroup_conflict {input : CreateGroupInput}
    (h : mid.selectGroupByName input.row.organizationId input.row.name ≠ none) (newId : Uuid) :
    createGroup newId input mid =
      (.error (.invalidData "group with this name already exists in the organization"), mid) := by
  rw [createGroup, dif_neg h]

theorem createGroup_ok {newId : Uuid} {input : CreateGroupInput}
    (hname : mid.selectGroupByName input.row.organizationId input.row.name = none)
    (hid : mid.groups.lookup newId = none)
    (horganization : (mid.organizations.lookup input.organizationId).isSome = true) :
    createGroup newId input mid = (.ok newId, mid.addGroup newId input.row hid hname) := by
  rw [createGroup, dif_pos hname, dif_pos hid, if_neg]
  intro hmissing
  rw [Option.isNone_iff_eq_none.mp hmissing] at horganization
  cases horganization

variable {names : String → Prop}

theorem resolveName_ok (hsound : run.Sound db names)
    (horganization : (db.organizations.lookup organizationId).isSome = true)
    (h : Resolution db run organizationId autoCreate ids done resolved mid) (hname : names name)
    (hdone : ∀ name' ∈ done, names name') (hnew : name ∉ done) :
    ∃ resolved' mid',
      resolveName run organizationId autoCreate (db.selectGroups organizationId) resolved name
        mid = (.ok resolved', mid') ∧
      Resolution db run organizationId autoCreate ids (done ++ [name]) resolved' mid' := by
  unfold resolveName
  cases hfind : (db.selectGroups organizationId).find? fun g => decide (g.2.name = name) with
  | some group =>
    obtain ⟨hrow, hgroup⟩ := mem_selectGroups.mp (List.mem_of_find?_eq_some hfind)
    have heq : group.2.name = name := by simpa using List.find?_some hfind
    refine ⟨_, mid, rfl, h.found (h.old _ _ hrow) ⟨hgroup, .inl heq⟩ (congrArg lower heq)⟩
  | none =>
    cases autoCreate with
    | false =>
      refine ⟨resolved, mid, rfl, h.skipped fun id row hrow hgroup heq => ?_⟩
      have hmem : ⟨id, row⟩ ∈ db.selectGroups organizationId :=
        mem_selectGroups.mpr ⟨hrow, hgroup⟩
      exact List.find?_eq_none.mp hfind _ hmem (decide_eq_true heq)
    | true =>
      simp only [if_true, hsound.fault, Effect.through_none]
      cases hselect : mid.selectGroupByName organizationId name with
      | none =>
        have hid : mid.groups.lookup (run.newId name) = none := by
          refine Option.eq_none_iff_forall_ne_some.mpr fun row hrow => ?_
          obtain hold | ⟨-, name', hname', heq, -⟩ := h.new _ row hrow
          · rw [hsound.fresh name hname] at hold
            cases hold
          · rw [hsound.distinct name name' hname (hdone name' hname') heq] at hnew
            exact hnew hname'
        have hcreated : createGroup (run.newId name) (newGroup organizationId name) mid =
            (.ok (run.newId name),
              mid.addGroup (run.newId name) (newGroup organizationId name).row hid hselect) :=
          createGroup_ok hselect hid (by rw [h.organizations]; exact horganization)
        exact ⟨_, _, Effect.bind_ok (Effect.result_ok hcreated), h.created hid hselect _⟩
      | some group =>
        obtain ⟨hrow, hgroup, hlower⟩ := of_selectGroupByName hselect
        have hconflict : createGroup (run.newId name) (newGroup organizationId name) mid =
            (.error (.invalidData "group with this name already exists in the organization"),
              mid) :=
          createGroup_conflict (Option.ne_none_iff_exists'.mpr ⟨group, hselect⟩) _
        have hfound : findGroupByName organizationId name mid = (.ok (some group), mid) := by
          rw [findGroupByName, hselect]
        refine ⟨_, mid, (Effect.bind_ok (Effect.result_error hconflict)).trans
          (Effect.bind_ok (Effect.result_ok hfound)), ?_⟩
        exact h.found hrow ⟨hgroup, .inr ⟨rfl, hlower⟩⟩ hlower

theorem resolveNames_ok (autoCreate : Bool)
    (horganization : (db.organizations.lookup organizationId).isSome = true) {wanted : Wanted}
    (hsound : run.Sound db fun name => name ∈ wanted.names) :
    ∃ resolved mid,
      resolveNames run organizationId autoCreate wanted db = (.ok resolved, mid) ∧
      Resolution db run organizationId autoCreate wanted.ids
        (run.nameOrder wanted.names.toList) resolved mid := by
  have hperm := run.nameOrder_perm wanted.names.toList
  have hnodup : (run.nameOrder wanted.names.toList).Nodup :=
    hperm.nodup_iff.mpr wanted.names.nodup
  have hloop : Effect.Triple
      (Resolution db run organizationId autoCreate wanted.ids [] { ids := wanted.ids })
      ((run.nameOrder wanted.names.toList).foldlM
        (resolveName run organizationId autoCreate (db.selectGroups organizationId))
        { ids := wanted.ids })
      (Resolution db run organizationId autoCreate wanted.ids
        (run.nameOrder wanted.names.toList)) (fun _ => False) := by
    refine Effect.Triple.foldlM (I := Resolution db run organizationId autoCreate wanted.ids) ?_ _
    refine fun done name rest resolved hsplit => Effect.Triple.of_ok fun mid hresolution => ?_
    have hmem : ∀ name' ∈ done ++ name :: rest, name' ∈ wanted.names := fun name' hname' =>
      hperm.mem_iff.mp (hsplit ▸ hname')
    rw [hsplit] at hnodup
    exact resolveName_ok hsound horganization hresolution (hmem name (by simp))
      (fun name' hname' => hmem name' (by simp [hname']))
      (fun hdone => (List.nodup_append.mp hnodup).2.2 name hdone name (by simp) rfl)
  obtain ⟨resolved, mid, hrun, hresolution⟩ := hloop.exists_ok (Resolution.start wanted.ids)
  refine ⟨resolved, mid, ?_, hresolution⟩
  rw [resolveNames, hsound.fault, Effect.through_none]
  exact (Effect.bind_ok rfl).trans hrun

end

/-- A group of the organization that the provider controls. -/
def GroupRow.Own (row : GroupRow) (organizationId : Uuid) : Prop :=
  row.source = idpGroupSource ∧ row.organizationId = organizationId

theorem mem_selectGroupMembers {groupId : Uuid} :
    userId ∈ db.selectGroupMembers groupId ↔
      (groupId, userId) ∈ db.groupMembers ∧ db.live userId = true := by
  simp only [Db.selectGroupMembers, List.mem_map, List.mem_filter, Bool.and_eq_true,
    decide_eq_true_eq]
  constructor
  · rintro ⟨⟨groupId, userId⟩, ⟨hmem, rfl, hlive⟩, rfl⟩
    exact ⟨hmem, hlive⟩
  · rintro ⟨hmem, hlive⟩
    exact ⟨(groupId, userId), ⟨hmem, rfl, hlive⟩, rfl⟩

/-- What is known of the groups in `done`. -/
structure Inspected (db : Db lower) (userId : Uuid) (done : List ((_ : Uuid) × GroupRow))
    (controlled : Controlled) : Prop where
  groups : ∀ id, id ∈ controlled.groups ↔ ∃ e ∈ done, e.1 = id ∧ e.2.source = idpGroupSource
  current : ∀ id, id ∈ controlled.current ↔
    id ∈ controlled.groups ∧ (id, userId) ∈ db.groupMembers ∧ db.live userId = true

theorem inspectGroup_ok (hfault : ∀ call, run.fault call = none)
    {done : List ((_ : Uuid) × GroupRow)} {controlled : Controlled}
    (h : Inspected db userId done controlled) (group : (_ : Uuid) × GroupRow) :
    ∃ controlled', inspectGroup run userId controlled group db = (.ok controlled', db) ∧
      Inspected db userId (done ++ [group]) controlled' := by
  unfold inspectGroup
  split
  · rename_i hsource
    rw [hfault, Effect.through_none]
    refine ⟨_, Effect.bind_ok rfl, ?_, ?_⟩
    · intro id
      simp only [HashSet.mem_insert, h.groups, List.mem_append, List.mem_singleton,
        or_and_right, exists_or, exists_eq_left, hsource, and_true]
      rw [or_comm, eq_comm]
    · intro id
      have hmember : userId ∈ db.selectGroupMembers group.1 ↔
          (group.1, userId) ∈ db.groupMembers ∧ db.live userId = true :=
        mem_selectGroupMembers
      by_cases hid : id = group.1
      · subst hid
        by_cases hlisted : userId ∈ db.selectGroupMembers group.1
        · simp [hlisted, hmember.mp hlisted]
        · simp only [List.contains_iff_mem, hlisted, if_false, h.current, HashSet.mem_insert,
            true_or, true_and]
          rw [hmember] at hlisted
          tauto
      · rw [HashSet.mem_insert]
        split
        · simp [hid, h.current]
        · simp [hid, h.current]
  · rename_i hsource
    refine ⟨controlled, rfl, ?_, h.current⟩
    intro id
    simp [h.groups, or_and_right, exists_or, hsource]

theorem inspectGroups_ok (hfault : ∀ call, run.fault call = none) (db : Db lower)
    (userId organizationId : Uuid) :
    ∃ controlled, inspectGroups run userId organizationId db = (.ok controlled, db) ∧
      (∀ id, id ∈ controlled.groups ↔
        ∃ row, db.groups.lookup id = some row ∧ row.Own organizationId) ∧
      ∀ id, id ∈ controlled.current ↔
        id ∈ controlled.groups ∧ (id, userId) ∈ db.groupMembers ∧ db.live userId = true := by
  have hloop : Effect.Triple (fun s => s = db ∧ Inspected db userId [] {})
      ((db.selectGroups organizationId).foldlM (inspectGroup run userId) {})
      (fun controlled s => s = db ∧
        Inspected db userId (db.selectGroups organizationId) controlled) (fun _ => False) := by
    refine Effect.Triple.foldlM (I := fun done controlled s => s = db ∧
      Inspected db userId done controlled) ?_ _
    refine fun done group rest controlled hsplit => Effect.Triple.of_ok ?_
    rintro s ⟨rfl, hinspected⟩
    obtain ⟨controlled', hrun, hinspected'⟩ := inspectGroup_ok hfault hinspected group
    exact ⟨controlled', s, hrun, rfl, hinspected'⟩
  obtain ⟨controlled, s, hrun, rfl, hinspected⟩ := hloop.exists_ok
    ⟨rfl, ⟨by simp, by simp⟩⟩
  refine ⟨controlled, ?_, fun id => ?_, hinspected.current⟩
  · rw [inspectGroups, hfault, Effect.through_none]
    exact (Effect.bind_ok rfl).trans hrun
  · rw [hinspected.groups]
    constructor
    · rintro ⟨e, he, rfl, hsource⟩
      obtain ⟨hrow, hgroup⟩ := mem_selectGroups.mp he
      exact ⟨e.2, hrow, hsource, hgroup⟩
    · rintro ⟨row, hrow, hsource, hgroup⟩
      exact ⟨⟨id, row⟩, mem_selectGroups.mpr ⟨hrow, hgroup⟩, rfl, hsource⟩

/-! ## The changes -/

/-- Apart from the members of the groups the databases are the same. -/
structure OnlyMembers (db after : Db lower) : Prop where
  users : after.users = db.users
  organizations : after.organizations = db.organizations
  organizationMembers : after.organizationMembers = db.organizationMembers
  groups : after.groups = db.groups

theorem OnlyMembers.refl (db : Db lower) : OnlyMembers db db := ⟨rfl, rfl, rfl, rfl⟩

theorem OnlyMembers.trans {db mid after : Db lower} (h : OnlyMembers db mid)
    (h' : OnlyMembers mid after) : OnlyMembers db after :=
  ⟨h'.users.trans h.users, h'.organizations.trans h.organizations,
    h'.organizationMembers.trans h.organizationMembers, h'.groups.trans h.groups⟩

theorem insertGroupMember_state (db : Db lower)
    (huser : (db.users.lookup userId).isSome = true) (groupId : Uuid) :
    OnlyMembers db (insertGroupMember groupId userId db).2 ∧
    ∀ id user, (id, user) ∈ (insertGroupMember groupId userId db).2.groupMembers ↔
      (id, user) ∈ db.groupMembers ∨
        (user = userId ∧ id = groupId ∧ ∃ row, db.groups.lookup id = some row) := by
  unfold insertGroupMember
  split
  · rename_i hmember
    refine ⟨.refl db, fun id user => (or_iff_left_of_imp ?_).symm⟩
    rintro ⟨rfl, rfl, -⟩
    exact hmember
  · split
    · rename_i hgroup
      rw [if_neg (by simp [Option.isNone_iff_eq_none, Option.isSome_iff_ne_none.mp huser])]
      refine ⟨⟨rfl, rfl, rfl, rfl⟩, fun id user => ?_⟩
      show (id, user) ∈ db.groupMembers.insert (groupId, userId) ↔ _
      rw [HashSet.mem_insert, Prod.mk.injEq, or_comm]
      refine or_congr_right ⟨?_, ?_⟩
      · rintro ⟨rfl, rfl⟩
        exact ⟨rfl, rfl, Option.isSome_iff_exists.mp hgroup⟩
      · rintro ⟨rfl, rfl, -⟩
        exact ⟨rfl, rfl⟩
    · rename_i hgroup
      refine ⟨.refl db, fun id user => (or_iff_left ?_).symm⟩
      rintro ⟨-, rfl, row, hrow⟩
      rw [hrow] at hgroup
      exact hgroup rfl

/-- There is nothing to add to a group that the user is in, or that is not there. -/
theorem insertGroupMember_settled {groupId : Uuid}
    (h : (groupId, userId) ∈ db.groupMembers ∨ db.groups.lookup groupId = none) :
    (insertGroupMember groupId userId db).2 = db := by
  unfold insertGroupMember
  split
  · rfl
  · rename_i hmember
    obtain hmember' | hnone := h
    · exact absurd hmember' hmember
    · rw [dif_neg (by rw [hnone]; decide)]

theorem addGroupMember_state (hfault : ∀ call, run.fault call = none) (db : Db lower)
    (userId : Uuid) (current : HashSet Uuid) (added : Nat) (wanted : Uuid) :
    ∃ added', addGroupMember run userId current added wanted db =
      (.ok added', if wanted ∈ current then db else (insertGroupMember wanted userId db).2) := by
  unfold addGroupMember
  split
  · exact ⟨added, rfl⟩
  · rw [hfault, Effect.through_none]
    rcases hinsert : insertGroupMember wanted userId db with ⟨r, after⟩
    cases r with
    | ok _ => exact ⟨added + 1, Effect.bind_ok (Effect.result_ok hinsert)⟩
    | error e => exact ⟨added, Effect.bind_ok (Effect.result_error hinsert)⟩

theorem removeGroupMember_state (hfault : ∀ call, run.fault call = none) (db : Db lower)
    (userId : Uuid) (wantedIds idpGroupIds : HashSet Uuid) (removed : Nat) (existing : Uuid) :
    ∃ removed', removeGroupMember run userId wantedIds idpGroupIds removed existing db =
      (.ok removed', if existing ∈ wantedIds ∨ existing ∉ idpGroupIds then db
        else (deleteGroupMember existing userId db).2) := by
  unfold removeGroupMember
  split
  · exact ⟨removed, rfl⟩
  · rw [hfault, Effect.through_none]
    have hdelete : deleteGroupMember existing userId db =
      (.ok (decide ((existing, userId) ∈ db.groupMembers)),
        (deleteGroupMember existing userId db).2) := rfl
    cases hmember : decide ((existing, userId) ∈ db.groupMembers) with
    | true =>
      rw [hmember] at hdelete
      exact ⟨removed + 1, Effect.bind_ok (Effect.result_ok hdelete)⟩
    | false =>
      rw [hmember] at hdelete
      exact ⟨removed, Effect.bind_ok (Effect.result_ok hdelete)⟩

/-- The user has been added to the groups in `done`. -/
structure Joined (db : Db lower) (userId : Uuid) (done : List Uuid) (after : Db lower) :
    Prop where
  only : OnlyMembers db after
  members : ∀ id user, (id, user) ∈ after.groupMembers ↔ (id, user) ∈ db.groupMembers ∨
    (user = userId ∧ id ∈ done ∧ ∃ row, db.groups.lookup id = some row)
  settled : (∀ id ∈ done, (id, userId) ∈ db.groupMembers ∨ db.groups.lookup id = none) →
    after = db

theorem Joined.add (huser : (db.users.lookup userId).isSome = true) {done : List Uuid}
    {after : Db lower} (h : Joined db userId done after) (wanted : Uuid) :
    Joined db userId (done ++ [wanted]) (insertGroupMember wanted userId after).2 := by
  obtain ⟨honly, hmembers⟩ := insertGroupMember_state after
    (by rw [h.only.users]; exact huser) wanted
  refine ⟨h.only.trans honly, fun id user => ?_, fun hsettled => ?_⟩
  · rw [hmembers, h.members, h.only.groups]
    simp only [List.mem_append, List.mem_singleton]
    tauto
  · have hafter := h.settled fun id hid => hsettled id (List.mem_append_left _ hid)
    rw [hafter]
    exact insertGroupMember_settled (hsettled wanted (by simp))

theorem Joined.skip {done : List Uuid} {after : Db lower} (h : Joined db userId done after)
    {wanted : Uuid} (hmember : (wanted, userId) ∈ db.groupMembers) :
    Joined db userId (done ++ [wanted]) after := by
  refine ⟨h.only, fun id user => ?_, fun hsettled => ?_⟩
  · rw [h.members]
    simp only [List.mem_append, List.mem_singleton]
    constructor
    · tauto
    · rintro (hold | ⟨rfl, hdone | rfl, hgroup⟩)
      · exact .inl hold
      · exact .inr ⟨rfl, hdone, hgroup⟩
      · exact .inl hmember
  · exact h.settled fun id hid => hsettled id (List.mem_append_left _ hid)

theorem addGroupMembers_ok (hfault : ∀ call, run.fault call = none)
    (huser : (db.users.lookup userId).isSome = true) {current : HashSet Uuid}
    (hcurrent : ∀ id ∈ current, (id, userId) ∈ db.groupMembers) (wanted : List Uuid) :
    ∃ added after, wanted.foldlM (addGroupMember run userId current) 0 db = (.ok added, after) ∧
      Joined db userId wanted after := by
  have hloop : Effect.Triple (fun s => Joined db userId [] s)
      (wanted.foldlM (addGroupMember run userId current) 0)
      (fun _ s => Joined db userId wanted s) (fun _ => False) := by
    refine Effect.Triple.foldlM (I := fun done _ s => Joined db userId done s) ?_ 0
    refine fun done id rest added hsplit => Effect.Triple.of_ok fun s hjoined => ?_
    obtain ⟨added', hrun⟩ := addGroupMember_state hfault s userId current added id
    refine ⟨added', _, hrun, ?_⟩
    split
    · exact hjoined.skip (hcurrent id ‹_›)
    · exact hjoined.add huser id
  exact hloop.exists_ok ⟨.refl db, by simp, fun _ => rfl⟩

/-- The user has been removed from the groups in `done` that are not wanted. -/
structure Left (db : Db lower) (userId : Uuid) (wantedIds : HashSet Uuid) (done : List Uuid)
    (after : Db lower) : Prop where
  only : OnlyMembers db after
  members : ∀ id user, (id, user) ∈ after.groupMembers ↔ (id, user) ∈ db.groupMembers ∧
    ¬ (user = userId ∧ id ∈ done ∧ id ∉ wantedIds)
  settled : (∀ id ∈ done, id ∈ wantedIds) → after = db

theorem Left.skip {wantedIds : HashSet Uuid} {done : List Uuid} {after : Db lower}
    (h : Left db userId wantedIds done after) {existing : Uuid} (hwanted : existing ∈ wantedIds) :
    Left db userId wantedIds (done ++ [existing]) after := by
  refine ⟨h.only, fun id user => ?_, fun hsettled => ?_⟩
  · rw [h.members]
    simp only [List.mem_append, List.mem_singleton]
    by_cases hid : id = existing
    · subst hid
      tauto
    · tauto
  · exact h.settled fun id hid => hsettled id (List.mem_append_left _ hid)

theorem Left.remove {wantedIds : HashSet Uuid} {done : List Uuid} {after : Db lower}
    (h : Left db userId wantedIds done after) {existing : Uuid}
    (hunwanted : existing ∉ wantedIds) :
    Left db userId wantedIds (done ++ [existing]) (deleteGroupMember existing userId after).2 := by
  refine ⟨h.only.trans ⟨rfl, rfl, rfl, rfl⟩, fun id user => ?_, fun hsettled => ?_⟩
  · show (id, user) ∈ after.groupMembers.remove (existing, userId) ↔ _
    rw [HashSet.mem_remove, h.members, ne_eq, Prod.mk.injEq]
    simp only [List.mem_append, List.mem_singleton]
    constructor
    · rintro ⟨hne, hmember, hkept⟩
      refine ⟨hmember, ?_⟩
      rintro ⟨rfl, hdone | rfl, hout⟩
      · exact hkept ⟨rfl, hdone, hout⟩
      · exact hne ⟨rfl, rfl⟩
    · rintro ⟨hmember, hkept⟩
      refine ⟨?_, hmember, fun ⟨hu, hdone, hout⟩ => hkept ⟨hu, .inl hdone, hout⟩⟩
      rintro ⟨rfl, rfl⟩
      exact hkept ⟨rfl, .inr rfl, hunwanted⟩
  · exact absurd (hsettled existing (by simp)) hunwanted

theorem removeGroupMembers_ok (hfault : ∀ call, run.fault call = none) (db : Db lower)
    (userId : Uuid) (wantedIds : HashSet Uuid) {idpGroupIds : HashSet Uuid} {current : List Uuid}
    (hcurrent : ∀ id ∈ current, id ∈ idpGroupIds) :
    ∃ removed after,
      current.foldlM (removeGroupMember run userId wantedIds idpGroupIds) 0 db =
        (.ok removed, after) ∧
      Left db userId wantedIds current after := by
  have hloop : Effect.Triple (fun s => Left db userId wantedIds [] s)
      (current.foldlM (removeGroupMember run userId wantedIds idpGroupIds) 0)
      (fun _ s => Left db userId wantedIds current s) (fun _ => False) := by
    refine Effect.Triple.foldlM (I := fun done _ s => Left db userId wantedIds done s) ?_ 0
    refine fun done id rest removed hsplit => Effect.Triple.of_ok fun s hleft => ?_
    obtain ⟨removed', hrun⟩ := removeGroupMember_state hfault s userId wantedIds
      idpGroupIds removed id
    have hgroup : id ∈ idpGroupIds := hcurrent id (by rw [hsplit]; simp)
    refine ⟨removed', _, hrun, ?_⟩
    split
    · rename_i hskip
      exact hleft.skip (hskip.resolve_right fun hnot => hnot hgroup)
    · rename_i hskip
      exact hleft.remove fun hwanted => hskip (.inl hwanted)
  exact hloop.exists_ok ⟨.refl db, by simp, fun _ => rfl⟩

/-! ## The whole pass -/

/-- The claims lead to the group, by the mapping or by a name. -/
def Sought (lower : String → String) (organizationId : Uuid) (filter : Option (String → Bool))
    (rawClaims : List String) (settings : GroupSyncSettings) (id : Uuid) (row : GroupRow) : Prop :=
  Mapped filter settings.mapping rawClaims id ∨
    ∃ name, Asked filter settings.mapping rawClaims name ∧
      Matches lower organizationId settings.autoCreateMissingGroups name row

/-- What a pass without a failure does: a group that the claims lead to has the user as a member,
and one that the provider controls has him only then. -/
structure GroupsReconciled (userId organizationId : Uuid) (filter : Option (String → Bool))
    (rawClaims : List String) (settings : GroupSyncSettings) (db after : Db lower) : Prop where
  users : after.users = db.users
  organizations : after.organizations = db.organizations
  old : ∀ id row, db.groups.lookup id = some row → after.groups.lookup id = some row
  new : ∀ id row, after.groups.lookup id = some row → db.groups.lookup id = some row ∨
    (settings.autoCreateMissingGroups = true ∧
      ∃ name, Asked filter settings.mapping rawClaims name ∧
        row = (newGroup organizationId name).row ∧
        db.selectGroupByName organizationId name = none)
  present : settings.autoCreateMissingGroups = true →
    ∀ name, Asked filter settings.mapping rawClaims name →
      after.selectGroupByName organizationId name ≠ none
  sought : ∀ id row, after.groups.lookup id = some row →
    Sought lower organizationId filter rawClaims settings id row →
      (id, userId) ∈ after.groupMembers
  unsought : ∀ id row, after.groups.lookup id = some row →
    ¬ Sought lower organizationId filter rawClaims settings id row →
      ((id, userId) ∈ after.groupMembers ↔ (id, userId) ∈ db.groupMembers ∧
        ¬ (db.live userId = true ∧ row.Own organizationId))
  others : ∀ id user, user ≠ userId →
    ((id, user) ∈ after.groupMembers ↔ (id, user) ∈ db.groupMembers)

theorem selectGroupByName_congr {after : Db lower} (h : after.groups = db.groups)
    (organizationId : Uuid) (name : String) :
    after.selectGroupByName organizationId name = db.selectGroupByName organizationId name := by
  rw [Db.selectGroupByName, Db.selectGroupByName, h]

theorem live_congr {after : Db lower} (h : after.users = db.users) (userId : Uuid) :
    after.live userId = db.live userId := by
  rw [Db.live, Db.live, h]

section

variable {filter : Option (String → Bool)} {rawClaims : List String} {settings : GroupSyncSettings}

theorem mem_nameOrder (run : GroupRun) (filter : Option (String → Bool))
    (mapping : HashMap String (List Uuid)) (rawClaims : List String) (name : String) :
    name ∈ run.nameOrder (expandClaims filter mapping rawClaims).names.toList ↔
      Asked filter mapping rawClaims name :=
  (run.nameOrder_perm _).mem_iff.trans mem_names_expandClaims

/-- The steps of a pass, with what is known between them. -/
theorem reconcileGroups_steps
    (horganization : (db.organizations.lookup organizationId).isSome = true)
    (huser : (db.users.lookup userId).isSome = true)
    (hsound : run.Sound db (Asked filter settings.mapping rawClaims)) :
    ∃ result resolved mid joined after, ∃ current : List Uuid,
      reconcileGroups run userId organizationId filter rawClaims settings db =
        (.ok result, after) ∧
      Resolution db run organizationId settings.autoCreateMissingGroups
        (expandClaims filter settings.mapping rawClaims).ids
        (run.nameOrder (expandClaims filter settings.mapping rawClaims).names.toList) resolved
        mid ∧
      (∀ id, id ∈ current ↔ (∃ row, mid.groups.lookup id = some row ∧ row.Own organizationId) ∧
        (id, userId) ∈ mid.groupMembers ∧ mid.live userId = true) ∧
      Joined mid userId (run.wantedOrder resolved.ids.toList) joined ∧
      Left joined userId resolved.ids current after := by
  have hnames : run.Sound db fun name =>
      name ∈ (expandClaims filter settings.mapping rawClaims).names := by
    simp only [mem_names_expandClaims]
    exact hsound
  obtain ⟨resolved, mid, hresolve, hresolution⟩ := resolveNames_ok
    settings.autoCreateMissingGroups horganization hnames
  obtain ⟨controlled, hinspect, hgroups, hcurrent⟩ :=
    inspectGroups_ok hsound.fault mid userId organizationId
  obtain ⟨added, joined, hadd, hjoined⟩ := addGroupMembers_ok hsound.fault
    (by rw [hresolution.users]; exact huser) (fun id hid => ((hcurrent id).mp hid).2.1)
    (run.wantedOrder resolved.ids.toList)
  have hperm := run.currentOrder_perm controlled.current.toList
  obtain ⟨removed, after, hremove, hleft⟩ := removeGroupMembers_ok hsound.fault joined userId
    resolved.ids (fun id hid => ((hcurrent id).mp (hperm.mem_iff.mp hid)).1)
  refine ⟨{ added, removed, created := resolved.created }, resolved, mid, joined, after,
    run.currentOrder controlled.current.toList, ?_, hresolution, ?_, hjoined, hleft⟩
  · rw [reconcileGroups, Effect.bind_ok hresolve, Effect.bind_ok hinspect, Effect.bind_ok hadd,
      Effect.bind_ok hremove]
    rfl
  · intro id
    rw [hperm.mem_iff, HashSet.mem_toList, hcurrent, hgroups]

/-- The ids that were resolved are those of the groups that are sought, and of no group. -/
theorem Resolution.mem_ids_iff {resolved : Resolved} {done : List String}
    (h : Resolution db run organizationId settings.autoCreateMissingGroups
      (expandClaims filter settings.mapping rawClaims).ids done resolved mid)
    (hdone : ∀ name, name ∈ done ↔ Asked filter settings.mapping rawClaims name) {id : Uuid}
    {row : GroupRow} (hrow : mid.groups.lookup id = some row) :
    id ∈ resolved.ids ↔ Sought lower organizationId filter rawClaims settings id row := by
  rw [h.ids, mem_ids_expandClaims, Sought]
  refine or_congr_right ⟨?_, ?_⟩
  · rintro ⟨name, hname, row', hrow', hmatches⟩
    rw [hrow] at hrow'
    cases hrow'
    exact ⟨name, (hdone name).mp hname, hmatches⟩
  · rintro ⟨name, hasked, hmatches⟩
    exact ⟨name, (hdone name).mpr hasked, row, hrow, hmatches⟩

theorem reconcileGroups_ok
    (horganization : (db.organizations.lookup organizationId).isSome = true)
    (huser : (db.users.lookup userId).isSome = true)
    (hsound : run.Sound db (Asked filter settings.mapping rawClaims)) :
    ∃ result after,
      reconcileGroups run userId organizationId filter rawClaims settings db =
        (.ok result, after) ∧
      GroupsReconciled userId organizationId filter rawClaims settings db after := by
  obtain ⟨result, resolved, mid, joined, after, current, hrun, hresolution, hcurrent, hjoined,
    hleft⟩ := reconcileGroups_steps horganization huser hsound
  have hdone := mem_nameOrder run filter settings.mapping rawClaims
  have honly := hjoined.only.trans hleft.only
  have hgroups : after.groups = mid.groups := honly.groups
  have hwanted : ∀ id, id ∈ run.wantedOrder resolved.ids.toList ↔ id ∈ resolved.ids := fun id =>
    (run.wantedOrder_perm _).mem_iff
  refine ⟨result, after, hrun, ?_⟩
  exact
    { users := honly.users.trans hresolution.users
      organizations := honly.organizations.trans hresolution.organizations
      old := by
        rw [hgroups]
        exact hresolution.old
      new := by
        intro id row hrow
        rw [hgroups] at hrow
        obtain hold | ⟨hauto, name, hname, -, hrest⟩ := hresolution.new id row hrow
        · exact .inl hold
        · exact .inr ⟨hauto, name, (hdone name).mp hname, hrest⟩
      present := by
        intro hauto name hasked
        rw [selectGroupByName_congr hgroups]
        exact hresolution.present hauto name ((hdone name).mpr hasked)
      sought := by
        intro id row hrow hsought
        rw [hgroups] at hrow
        have hid := (hresolution.mem_ids_iff hdone hrow).mpr hsought
        rw [hleft.members, hjoined.members]
        exact ⟨.inr ⟨rfl, (hwanted id).mpr hid, row, hrow⟩, fun h => h.2.2 hid⟩
      unsought := by
        intro id row hrow hsought
        rw [hgroups] at hrow
        have hid : id ∉ resolved.ids := fun hid =>
          hsought ((hresolution.mem_ids_iff hdone hrow).mp hid)
        have hlive : mid.live userId = db.live userId := live_congr hresolution.users userId
        rw [hleft.members, hjoined.members, hcurrent, hwanted, hresolution.members, hlive, hrow]
        simp only [Option.some.injEq, exists_eq_left', hid, false_and, and_false, or_false,
          not_false_iff, and_true, true_and]
        tauto
      others := by
        intro id user hne
        rw [hleft.members, hjoined.members, hresolution.members]
        simp [hne] }

/-- If the first name that is looked at has no group, it gets one. -/
theorem reconcileGroups_first
    (horganization : (db.organizations.lookup organizationId).isSome = true)
    (huser : (db.users.lookup userId).isSome = true)
    (hsound : run.Sound db (Asked filter settings.mapping rawClaims))
    (hauto : settings.autoCreateMissingGroups = true) {name : String}
    (hfirst : name ∈
      (run.nameOrder (expandClaims filter settings.mapping rawClaims).names.toList).head?)
    (hnone : db.selectGroupByName organizationId name = none) :
    (reconcileGroups run userId organizationId filter rawClaims settings db).2.groups.lookup
      (run.newId name) = some (newGroup organizationId name).row := by
  obtain ⟨result, resolved, mid, joined, after, current, hrun, hresolution, -, hjoined, hleft⟩ :=
    reconcileGroups_steps horganization huser hsound
  rw [hrun, (hjoined.only.trans hleft.only).groups]
  exact hresolution.first hauto name hfirst hnone

/-- A second pass has nothing to do. -/
theorem reconcileGroups_settled
    (horganization : (db.organizations.lookup organizationId).isSome = true)
    (huser : (db.users.lookup userId).isSome = true)
    (hsound : run.Sound db (Asked filter settings.mapping rawClaims))
    (hpresent : settings.autoCreateMissingGroups = true →
      ∀ name, Asked filter settings.mapping rawClaims name →
        db.selectGroupByName organizationId name ≠ none)
    (hsought : ∀ id row, db.groups.lookup id = some row →
      Sought lower organizationId filter rawClaims settings id row →
        (id, userId) ∈ db.groupMembers)
    (hown : ∀ id row, db.groups.lookup id = some row → row.Own organizationId →
      (id, userId) ∈ db.groupMembers → db.live userId = true →
        Sought lower organizationId filter rawClaims settings id row) :
    (reconcileGroups run userId organizationId filter rawClaims settings db).2 = db := by
  obtain ⟨result, resolved, mid, joined, after, current, hrun, hresolution, hcurrent, hjoined,
    hleft⟩ := reconcileGroups_steps horganization huser hsound
  have hdone := mem_nameOrder run filter settings.mapping rawClaims
  have hmid : mid = db := hresolution.unchanged fun hauto name hname =>
    hpresent hauto name ((hdone name).mp hname)
  subst hmid
  have hjoinedEq : joined = mid := by
    refine hjoined.settled fun id hid => ?_
    rw [(run.wantedOrder_perm _).mem_iff, HashSet.mem_toList] at hid
    cases hrow : mid.groups.lookup id with
    | none => exact .inr rfl
    | some row => exact .inl (hsought id row hrow ((hresolution.mem_ids_iff hdone hrow).mp hid))
  subst hjoinedEq
  rw [hrun]
  refine hleft.settled fun id hid => ?_
  obtain ⟨⟨row, hrow, hrowOwn⟩, hmember, hlive⟩ := (hcurrent id).mp hid
  exact (hresolution.mem_ids_iff hdone hrow).mpr (hown id row hrow hrowOwn hmember hlive)

end

end Coderd.IdpSync
