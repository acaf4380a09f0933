import Coderd.IdpSync.Organizations

namespace Coderd.IdpSync

open Coderd.Foundation Coderd.DbAuthz

variable {lower : String → String}

/-! ## What is claimed -/

/-- No call to the store fails. -/
structure OrganizationRun.Faultless (run : OrganizationRun) : Prop where
  fault : ∀ call, run.fault call = none
  insertFault : ∀ id, run.insertFault id = none

def Expected (db : Db lower) (filter : Option (String → Bool)) (rawClaims : List String)
    (settings : OrganizationSyncSettings) (organizationId : Uuid) : Prop :=
  ∃ row, db.organizations.lookup organizationId = some row ∧ row.deleted = false ∧
    (Mapped filter settings.mapping rawClaims organizationId ∨
      (settings.assignDefault = true ∧ row.isDefault = true))

/-- A membership that an administrator has granted. -/
def Manual (db : Db lower) (userId organizationId : Uuid) (row : OrganizationMemberRow) : Prop :=
  findOrganizationMember db organizationId userId = some row ∧ row.isIdpControlled = false

/-- The pass leaves `after`: the manual memberships as they were, and those that are expected. A
second pass leaves the same database, and a list of the same claims the same memberships. -/
structure OrganizationsConverge (regexNew : RegexNew) (userId : Uuid) (rawClaims : List String)
    (settings : OrganizationSyncSettings) (regexFilter : Option String)
    (filter : Option (String → Bool)) (db after : Db lower) : Prop where
  members : ∀ id, (∃ row, findOrganizationMember after id userId = some row) ↔
    (∃ row, Manual db userId id row) ∨ Expected db filter rawClaims settings id
  manual : ∀ id row, Manual after userId id row ↔ Manual db userId id row
  again : ∀ run : OrganizationRun, run.Faultless →
    (syncOrganizations regexNew run userId rawClaims settings regexFilter after).2 = after
  permuted : ∀ run : OrganizationRun, run.Faultless → ∀ rawClaims',
    (∀ raw, raw ∈ rawClaims' ↔ raw ∈ rawClaims) → ∀ id,
      (findOrganizationMember
        (syncOrganizations regexNew run userId rawClaims' settings regexFilter db).2 id userId).map
          (·.isIdpControlled) =
      (findOrganizationMember after id userId).map (·.isIdpControlled)

/-! ## The expected set -/

theorem mem_mapClaims {filter : Option (String → Bool)} {mapping : HashMap String (List Uuid)}
    {rawClaims : List String} {id : Uuid} :
    id ∈ mapClaims filter mapping rawClaims ↔ Mapped filter mapping rawClaims id := by
  have hfold : ∀ expected : HashSet Uuid,
      id ∈ rawClaims.foldl (fun expected raw =>
        if passes filter raw then ((mapping.lookup raw).getD []).foldl HashSet.insert expected
        else expected) expected ↔ id ∈ expected ∨ Mapped filter mapping rawClaims id := by
    induction rawClaims with
    | nil => simp [Mapped]
    | cons raw rawClaims ih =>
      intro expected
      rw [List.foldl_cons, ih, mapped_cons]
      split
      · rename_i hpasses
        rw [HashSet.mem_foldl_insert]
        cases hlookup : mapping.lookup raw with
        | none => simp
        | some ids => simp [hpasses, or_assoc]
      · rename_i hpasses
        simp [hpasses]
  rw [mapClaims, hfold]
  simp

variable {run : OrganizationRun} {db : Db lower}

theorem mem_selectOrganizations {ids : List Uuid} {e : (_ : Uuid) × OrganizationRow} :
    e ∈ db.selectOrganizations ids ↔
      db.organizations.lookup e.1 = some e.2 ∧ e.2.deleted = false ∧ (ids = [] ∨ e.1 ∈ ids) := by
  rw [Db.selectOrganizations, List.mem_filter, ← Option.mem_def, AList.mem_lookup_iff]
  simp

theorem includeDefault_ok (hfault : run.Faultless) (db : Db lower) (assignDefault : Bool)
    (expected : HashSet Uuid) :
    ∃ expected', includeDefault run assignDefault expected db = (.ok expected', db) ∧
      ∀ id, id ∈ expected' ↔ id ∈ expected ∨ (assignDefault = true ∧
        ∃ row, db.organizations.lookup id = some row ∧ row.deleted = false ∧
          row.isDefault = true) := by
  cases assignDefault with
  | false => exact ⟨expected, rfl, by simp⟩
  | true =>
    unfold includeDefault
    rw [if_pos rfl, hfault.fault, Effect.through_none]
    cases hfind : (db.selectOrganizations []).find? fun o => o.2.isDefault && !o.2.deleted with
    | none =>
      refine ⟨expected, ?_, fun id => ?_⟩
      · refine (Effect.bind_ok rfl).trans ?_
        rw [hfind]
        rfl
      · simp only [true_and]
        refine (or_iff_left ?_).symm
        rintro ⟨row, hrow, hlive, hdefault⟩
        have hnone := List.find?_eq_none.mp hfind ⟨id, row⟩
          (mem_selectOrganizations.mpr ⟨hrow, hlive, .inl rfl⟩)
        simp [hlive, hdefault] at hnone
    | some found =>
      obtain ⟨hrow, hlive, -⟩ := mem_selectOrganizations.mp (List.mem_of_find?_eq_some hfind)
      have hdefault : found.2.isDefault = true := by
        have hsome := List.find?_some hfind
        simp only [Bool.and_eq_true] at hsome
        exact hsome.1
      refine ⟨expected.insert found.1, ?_, fun id => ?_⟩
      · refine (Effect.bind_ok rfl).trans ?_
        rw [hfind]
        rfl
      · rw [HashSet.mem_insert, or_comm]
        refine or_congr_right ⟨?_, ?_⟩
        · rintro rfl
          exact ⟨rfl, found.2, hrow, hlive, hdefault⟩
        · rintro ⟨-, row, hrow', -, hdefault'⟩
          exact db.oneDefault id found.1 row found.2 hrow' hrow hdefault' hdefault

theorem dropDeleted_ok (hfault : run.Faultless) (db : Db lower) (expected : HashSet Uuid) :
    ∃ expected', dropDeleted run expected db = (.ok expected', db) ∧
      ∀ id, id ∈ expected' ↔ id ∈ expected ∧
        ∃ row, db.organizations.lookup id = some row ∧ row.deleted = false := by
  unfold dropDeleted
  split
  · rename_i hempty
    refine ⟨expected, rfl, fun id => ?_⟩
    have hnone := HashSet.not_mem_of_isEmpty hempty id
    simp [hnone]
  · rw [hfault.fault, Effect.through_none]
    refine ⟨_, Effect.bind_ok rfl, fun id => ?_⟩
    rw [HashSet.mem_retain, List.contains_iff_mem, List.mem_map]
    refine and_congr_right fun hid => ⟨?_, ?_⟩
    · rintro ⟨e, he, rfl⟩
      obtain ⟨hrow, hlive, -⟩ := mem_selectOrganizations.mp (List.mem_filter.mp he).1
      exact ⟨e.2, hrow, hlive⟩
    · rintro ⟨row, hrow, hlive⟩
      refine ⟨⟨id, row⟩,
        List.mem_filter.mpr ⟨mem_selectOrganizations.mpr ⟨hrow, hlive, .inr ?_⟩, ?_⟩, rfl⟩
      · exact hid
      · simp [hlive]

/-- The expected set is computed without a change of the database. -/
theorem expected_ok (hfault : run.Faultless) (db : Db lower) (filter : Option (String → Bool))
    (rawClaims : List String) (settings : OrganizationSyncSettings) :
    ∃ included expected,
      includeDefault run settings.assignDefault (mapClaims filter settings.mapping rawClaims) db =
        (.ok included, db) ∧
      dropDeleted run included db = (.ok expected, db) ∧
      ∀ id, id ∈ expected ↔ Expected db filter rawClaims settings id := by
  obtain ⟨included, hincluded, hmemIncluded⟩ := includeDefault_ok hfault db
    settings.assignDefault (mapClaims filter settings.mapping rawClaims)
  obtain ⟨expected, hexpected, hmemExpected⟩ := dropDeleted_ok hfault db included
  refine ⟨included, expected, hincluded, hexpected, fun id => ?_⟩
  rw [hmemExpected, hmemIncluded, mem_mapClaims, Expected]
  constructor
  · rintro ⟨hmapped | ⟨hassign, row, hrow, hlive, hdefault⟩, row', hrow', hlive'⟩
    · exact ⟨row', hrow', hlive', .inl hmapped⟩
    · exact ⟨row, hrow, hlive, .inr ⟨hassign, hdefault⟩⟩
  · rintro ⟨row, hrow, hlive, hmapped | ⟨hassign, hdefault⟩⟩
    · exact ⟨.inl hmapped, row, hrow, hlive⟩
    · exact ⟨.inr ⟨hassign, row, hrow, hlive, hdefault⟩, row, hrow, hlive⟩

/-! ## The plan -/

variable {expected : HashSet Uuid} {userId : Uuid}

/-- The memberships that the plan is made from, with their flags. -/
def existingWithFlag (db : Db lower) (userId : Uuid) : List (Uuid × Bool) :=
  (db.selectUserMemberships userId).map fun m => (m.1.1, m.2.isIdpControlled)

theorem mem_existingWithFlag {id : Uuid} {flag : Bool} :
    (id, flag) ∈ existingWithFlag db userId ↔ db.live userId = true ∧
      ∃ row, db.organizationMembers.lookup (id, userId) = some row ∧
        row.isIdpControlled = flag := by
  simp only [existingWithFlag, Db.selectUserMemberships, List.mem_map, List.mem_filter,
    Bool.and_eq_true, decide_eq_true_eq]
  constructor
  · rintro ⟨⟨⟨id', user'⟩, row⟩, ⟨hmem, rfl, hlive⟩, heq⟩
    cases heq
    exact ⟨hlive, row, AList.mem_lookup_iff.mpr hmem, rfl⟩
  · rintro ⟨hlive, row, hrow, rfl⟩
    exact ⟨⟨(id, userId), row⟩, ⟨AList.mem_lookup_iff.mp hrow, rfl, hlive⟩, rfl⟩

theorem mem_toAdd (hlive : db.live userId = true) {id : Uuid} :
    id ∈ (planSyncDiff expected (existingWithFlag db userId)).toAdd ↔
      id ∈ expected ∧ db.organizationMembers.lookup (id, userId) = none := by
  simp only [planSyncDiff, List.mem_insertionSort, List.mem_filter, Bool.not_eq_true']
  refine and_congr_right fun _ => ?_
  rw [Option.eq_none_iff_forall_ne_some, ← Bool.not_eq_true, List.contains_iff_mem]
  constructor
  · intro hnone row hrow
    exact hnone (List.mem_map.mpr ⟨_, mem_existingWithFlag.mpr ⟨hlive, row, hrow, rfl⟩, rfl⟩)
  · rintro hnone hmem
    obtain ⟨⟨id, flag⟩, hflag, rfl⟩ := List.mem_map.mp hmem
    obtain ⟨-, row, hrow, -⟩ := mem_existingWithFlag.mp hflag
    exact hnone row hrow

theorem nodup_toAdd (expected : HashSet Uuid) (existing : List (Uuid × Bool)) :
    (planSyncDiff expected existing).toAdd.Nodup :=
  (List.perm_insertionSort _ _).nodup_iff.mpr (expected.nodup.filter _)

theorem mem_toRemove {id : Uuid} :
    id ∈ (planSyncDiff expected (existingWithFlag db userId)).toRemove ↔
      id ∉ expected ∧ db.live userId = true ∧
        ∃ row, db.organizationMembers.lookup (id, userId) = some row ∧
          row.isIdpControlled = true := by
  simp only [planSyncDiff, List.mem_insertionSort, List.mem_map, List.mem_filter,
    Bool.and_eq_true, Bool.not_eq_true', decide_eq_false_iff_not]
  constructor
  · rintro ⟨⟨id, flag⟩, ⟨hmem, hflag, hexpected⟩, rfl⟩
    obtain ⟨hlive, row, hrow, hcontrolled⟩ := mem_existingWithFlag.mp hmem
    exact ⟨hexpected, hlive, row, hrow, hcontrolled.trans hflag⟩
  · rintro ⟨hexpected, hlive, row, hrow, hcontrolled⟩
    exact ⟨(id, true), ⟨mem_existingWithFlag.mpr ⟨hlive, row, hrow, hcontrolled⟩, rfl, hexpected⟩,
      rfl⟩

/-! ## The changes -/

/-- Apart from the memberships the databases are the same. -/
def SameElsewhere (db after : Db lower) : Prop :=
  after = { db with organizationMembers := after.organizationMembers }

theorem SameElsewhere.live {db after : Db lower} (h : SameElsewhere db after) (userId : Uuid) :
    after.live userId = db.live userId := by
  rw [h]
  rfl

/-- The memberships of `db`, with those of one user for the organizations `ids` set to `row`. -/
structure Patched (db after : Db lower) (userId : Uuid) (ids : List Uuid)
    (row : Option OrganizationMemberRow) : Prop where
  elsewhere : SameElsewhere db after
  lookup : ∀ key : Uuid × Uuid, after.organizationMembers.lookup key =
    if key.2 = userId ∧ key.1 ∈ ids then row else db.organizationMembers.lookup key

theorem Patched.nil (db : Db lower) (userId : Uuid) (row : Option OrganizationMemberRow) :
    Patched db db userId [] row :=
  ⟨rfl, fun key => by simp⟩

theorem Patched.unpatched {db after : Db lower} {ids : List Uuid}
    {row : Option OrganizationMemberRow} (h : Patched db after userId ids row) {id : Uuid}
    (hid : id ∉ ids) :
    after.organizationMembers.lookup (id, userId) =
      db.organizationMembers.lookup (id, userId) := by
  rw [h.lookup, if_neg fun hmem => hid hmem.2]

theorem Patched.concat {db mid after : Db lower} {ids : List Uuid}
    {row : Option OrganizationMemberRow} (h : Patched db mid userId ids row) {id : Uuid}
    (helsewhere : SameElsewhere mid after)
    (hlookup : ∀ key, after.organizationMembers.lookup key =
      if key = (id, userId) then row else mid.organizationMembers.lookup key) :
    Patched db after userId (ids ++ [id]) row := by
  refine ⟨?_, fun key => ?_⟩
  · have hmid := h.elsewhere
    unfold SameElsewhere at helsewhere hmid ⊢
    rw [helsewhere, hmid]
  · rw [hlookup, h.lookup]
    by_cases hkey : key = (id, userId)
    · subst hkey
      simp
    · -- another key: what was set before stays
      have hne : ¬ (key.2 = userId ∧ key.1 = id) := fun ⟨h2, h1⟩ => hkey (Prod.ext h1 h2)
      rw [if_neg hkey]
      by_cases hmem : key.2 = userId ∧ key.1 ∈ ids
      · rw [if_pos hmem, if_pos ⟨hmem.1, List.mem_append_left _ hmem.2⟩]
      · rw [if_neg hmem, if_neg]
        rintro ⟨huser, hin⟩
        obtain hold | hnew := List.mem_append.mp hin
        · exact hmem ⟨huser, hold⟩
        · exact hne ⟨huser, List.mem_singleton.mp hnew⟩

def newMembership (now : Int) : OrganizationMemberRow where
  createdAt := now
  roles := []
  isIdpControlled := true

/-- A new membership of a user who is there, in an organization that is there. -/
theorem insertOrganizationMember_ok (now : Int) {id : Uuid} (hlive : db.live userId = true)
    (hnone : db.organizationMembers.lookup (id, userId) = none)
    (horganization : (db.organizations.lookup id).isSome = true) :
    insertOrganizationMember now id userId true db =
      (.ok (newMembership now),
        { db with
          organizationMembers :=
            db.organizationMembers.insert (id, userId) (newMembership now) }) := by
  have huser : (db.users.lookup userId).isSome = true := by
    rw [Db.live, Option.any_eq_true] at hlive
    obtain ⟨row, hrow, -⟩ := hlive
    rw [hrow]
    rfl
  have hreloaded : findOrganizationMember
      { db with
        organizationMembers := db.organizationMembers.insert (id, userId) (newMembership now) }
      id userId = some (newMembership now) := by
    rw [findOrganizationMember, if_pos, AList.lookup_insert]
    exact hlive
  rw [insertOrganizationMember, hnone, if_neg (by simp), if_neg]
  · simp only [newMembership] at hreloaded ⊢
    simp only [hreloaded]
  · rintro (hmissing | hmissing)
    · rw [Option.isNone_iff_eq_none.mp hmissing] at horganization
      cases horganization
    · rw [Option.isNone_iff_eq_none.mp hmissing] at huser
      cases huser

theorem addMembership_ok {id : Uuid} (hfault : run.Faultless) (hlive : db.live userId = true)
    (hnone : db.organizationMembers.lookup (id, userId) = none)
    (horganization : (db.organizations.lookup id).isSome = true)
    (outcome : OrganizationSyncOutcome) :
    ∃ outcome', addMembership run userId outcome id db =
        (.ok outcome',
          { db with
            organizationMembers :=
              db.organizationMembers.insert (id, userId) (newMembership run.now) }) ∧
      outcome'.notAdded = outcome.notAdded ∧ outcome'.notRemoved = outcome.notRemoved := by
  unfold addMembership
  rw [hfault.insertFault, Effect.through_none]
  have hinserted := insertOrganizationMember_ok run.now hlive hnone horganization
  exact ⟨{ outcome with result := { outcome.result with added := outcome.result.added + 1 } },
    Effect.bind_ok (Effect.result_ok hinserted), rfl, rfl⟩

theorem removeMembership_ok (hfault : run.Faultless) (userId : Uuid)
    (outcome : OrganizationSyncOutcome) (id : Uuid) (db : Db lower) :
    ∃ outcome', removeMembership run userId outcome id db =
        (.ok outcome',
          { db with organizationMembers := db.organizationMembers.erase (id, userId) }) ∧
      outcome'.notAdded = outcome.notAdded ∧ outcome'.notRemoved = outcome.notRemoved := by
  unfold removeMembership
  rw [hfault.fault, Effect.through_none]
  have hdeleted : deleteOrganizationMember id userId db =
      (.ok (db.organizationMembers.lookup (id, userId)).isSome,
        { db with organizationMembers := db.organizationMembers.erase (id, userId) }) := rfl
  cases hlookup : (db.organizationMembers.lookup (id, userId)).isSome with
  | false =>
    rw [hlookup] at hdeleted
    exact ⟨outcome, Effect.bind_ok (Effect.result_ok hdeleted), rfl, rfl⟩
  | true =>
    rw [hlookup] at hdeleted
    exact ⟨{ outcome with
      result := { outcome.result with removed := outcome.result.removed + 1 } },
      Effect.bind_ok (Effect.result_ok hdeleted), rfl, rfl⟩

/-! ## One pass -/

/-- The changes are logged nowhere as failures. -/
def OrganizationSyncOutcome.Quiet (outcome : OrganizationSyncOutcome) : Prop :=
  outcome.notAdded = [] ∧ outcome.notRemoved = []

/-- For each expected organization that is not yet in `ids` a membership is added. -/
theorem addMemberships_ok (hfault : run.Faultless) (hlive : db.live userId = true)
    {toAdd : List Uuid} (hnodup : toAdd.Nodup)
    (hnone : ∀ id ∈ toAdd, db.organizationMembers.lookup (id, userId) = none)
    (horganization : ∀ id ∈ toAdd, (db.organizations.lookup id).isSome = true) :
    Effect.Triple (fun s => Patched db s userId [] (some (newMembership run.now)) ∧
        OrganizationSyncOutcome.Quiet {})
      (toAdd.foldlM (addMembership run userId) {})
      (fun (outcome : OrganizationSyncOutcome) s =>
        Patched db s userId toAdd (some (newMembership run.now)) ∧ outcome.Quiet)
      (fun _ => False) := by
  refine Effect.Triple.foldlM (I := fun done (outcome : OrganizationSyncOutcome) s =>
    Patched db s userId done (some (newMembership run.now)) ∧ outcome.Quiet) ?_ {}
  rintro done id rest outcome rfl
  refine Effect.Triple.of_ok ?_
  rintro s ⟨hpatched, hquiet⟩
  have hid : id ∉ done := fun hdone =>
    (List.nodup_append.mp hnodup).2.2 id hdone id List.mem_cons_self rfl
  have hmem : id ∈ done ++ id :: rest := List.mem_append_right _ List.mem_cons_self
  have helsewhere := hpatched.elsewhere
  have hlive' : s.live userId = true := by rw [helsewhere.live, hlive]
  have horganizations : s.organizations = db.organizations := by
    unfold SameElsewhere at helsewhere
    rw [helsewhere]
  obtain ⟨outcome', hadd, hadded, hremoved⟩ := addMembership_ok hfault hlive'
    ((hpatched.unpatched hid).trans (hnone id hmem))
    (by rw [horganizations]; exact horganization id hmem) outcome
  refine ⟨outcome', _, hadd, hpatched.concat rfl fun key => ?_, hadded.trans hquiet.1,
    hremoved.trans hquiet.2⟩
  exact HashMap.lookup_insert_ite _ _ _ _

theorem removeMemberships_ok (hfault : run.Faultless) (toRemove : List Uuid)
    (outcome : OrganizationSyncOutcome) (db : Db lower) :
    Effect.Triple (fun s => Patched db s userId [] none ∧ outcome.Quiet)
      (toRemove.foldlM (removeMembership run userId) outcome)
      (fun (outcome : OrganizationSyncOutcome) s =>
        Patched db s userId toRemove none ∧ outcome.Quiet)
      (fun _ => False) := by
  refine Effect.Triple.foldlM (I := fun done (outcome : OrganizationSyncOutcome) s =>
    Patched db s userId done none ∧ outcome.Quiet) ?_ outcome
  rintro done id rest outcome rfl
  refine Effect.Triple.of_ok ?_
  rintro s ⟨hpatched, hquiet⟩
  obtain ⟨outcome', hremove, hadded, hremoved⟩ :=
    removeMembership_ok hfault userId outcome id s
  refine ⟨outcome', _, hremove, hpatched.concat rfl fun key => ?_, hadded.trans hquiet.1,
    hremoved.trans hquiet.2⟩
  exact HashMap.lookup_erase_ite _ _ _

/-- A deleted user cannot be added anywhere: the row cannot be read back. -/
theorem insertOrganizationMember_error (hdeleted : db.live userId = false) (now : Int)
    (id : Uuid) :
    ∃ e after, insertOrganizationMember now id userId true db = (.error e, after) ∧
      after.live userId = false := by
  unfold insertOrganizationMember
  split
  · exact ⟨_, _, rfl, hdeleted⟩
  · split
    · exact ⟨_, _, rfl, hdeleted⟩
    · simp only [findOrganizationMember]
      have hdeleted' : Db.live
          { db with
            organizationMembers := db.organizationMembers.insert (id, userId)
              { createdAt := now, roles := [], isIdpControlled := true } } userId = false :=
        hdeleted
      simp only [hdeleted', Bool.false_eq_true, if_false]
      exact ⟨_, _, rfl, hdeleted⟩

theorem addMemberships_deleted (hfault : run.Faultless) (toAdd : List Uuid) :
    Effect.Triple (fun s : Db lower => s.live userId = false)
      (toAdd.foldlM (addMembership run userId) {})
      (fun (outcome : OrganizationSyncOutcome) s =>
        s.live userId = false ∧ outcome.notAdded = toAdd) (fun _ => False) := by
  refine (Effect.Triple.foldlM (I := fun done (outcome : OrganizationSyncOutcome) s =>
    s.live userId = false ∧ outcome.notAdded = done) ?_ {}).mono (fun s hs => ⟨hs, rfl⟩)
    (fun _ _ h => h) (fun _ h => h)
  rintro done id rest outcome rfl
  refine Effect.Triple.of_ok ?_
  rintro s ⟨hdeleted, hnotAdded⟩
  obtain ⟨e, after, hinsert, hdeleted'⟩ := insertOrganizationMember_error hdeleted run.now id
  have hadd : addMembership run userId outcome id s =
      (.ok { outcome with notAdded := outcome.notAdded ++ [id] }, after) := by
    unfold addMembership
    rw [hfault.insertFault, Effect.through_none]
    exact Effect.bind_ok (Effect.result_error hinsert)
  exact ⟨_, after, hadd, hdeleted', by rw [hnotAdded]⟩

section

variable {filter : Option (String → Bool)} {rawClaims : List String}
  {settings : OrganizationSyncSettings}

/-- A pass carries out its plan. -/
theorem reconcileOrganizations_eq (hfault : run.Faultless) (userId : Uuid) (db : Db lower)
    (filter : Option (String → Bool)) (rawClaims : List String)
    (settings : OrganizationSyncSettings) :
    ∃ expected : HashSet Uuid,
      (∀ id, id ∈ expected ↔ Expected db filter rawClaims settings id) ∧
      reconcileOrganizations run userId filter rawClaims settings db =
        ((planSyncDiff expected (existingWithFlag db userId)).toAdd.foldlM
            (addMembership run userId) {} >>=
          (planSyncDiff expected (existingWithFlag db userId)).toRemove.foldlM
            (removeMembership run userId)) db := by
  obtain ⟨included, expected, hincluded, hexpected, hmem⟩ :=
    expected_ok hfault db filter rawClaims settings
  refine ⟨expected, hmem, ?_⟩
  unfold reconcileOrganizations
  rw [Effect.bind_ok hincluded, Effect.bind_ok hexpected, hfault.fault, Effect.through_none]
  exact Effect.bind_ok rfl

/-- What a pass makes of the memberships of a user who is there. -/
theorem reconcileOrganizations_live (hfault : run.Faultless) (hlive : db.live userId = true)
    (filter : Option (String → Bool)) (rawClaims : List String)
    (settings : OrganizationSyncSettings) :
    ∃ outcome after, ∃ expected : HashSet Uuid,
      (∀ id, id ∈ expected ↔ Expected db filter rawClaims settings id) ∧
      reconcileOrganizations run userId filter rawClaims settings db = (.ok outcome, after) ∧
      outcome.Quiet ∧ SameElsewhere db after ∧
      ∀ id, after.organizationMembers.lookup (id, userId) =
        if id ∈ (planSyncDiff expected (existingWithFlag db userId)).toRemove then none
        else if id ∈ (planSyncDiff expected (existingWithFlag db userId)).toAdd then
          some (newMembership run.now)
        else db.organizationMembers.lookup (id, userId) := by
  obtain ⟨expected, hmem, heq⟩ :=
    reconcileOrganizations_eq hfault userId db filter rawClaims settings
  have hadd := addMemberships_ok hfault hlive (nodup_toAdd expected _)
    (fun id hid => ((mem_toAdd hlive).mp hid).2)
    (fun id hid => by
      obtain ⟨row, hrow, -⟩ := (hmem id).mp ((mem_toAdd hlive).mp hid).1
      rw [hrow]
      rfl)
  obtain ⟨added, mid, hadded, hpatched, hquiet⟩ :=
    hadd.exists_ok ⟨Patched.nil db userId _, rfl, rfl⟩
  obtain ⟨outcome, after, hremoved, hpatched', hquiet'⟩ :=
    (removeMemberships_ok hfault (planSyncDiff expected (existingWithFlag db userId)).toRemove
      added mid).exists_ok ⟨Patched.nil mid userId none, hquiet⟩
  refine ⟨outcome, after, expected, hmem, ?_, hquiet', ?_, fun id => ?_⟩
  · rw [heq, Effect.bind_ok hadded, hremoved]
  · have hmid := hpatched.elsewhere
    have hafter := hpatched'.elsewhere
    unfold SameElsewhere at hmid hafter ⊢
    rw [hafter, hmid]
  · -- the removals come last, so they win over the additions
    rw [hpatched'.lookup, hpatched.lookup]
    simp

/-- There is nothing to do for a user who has what is expected and nothing else that is
controlled. -/
theorem reconcileOrganizations_settled (hfault : run.Faultless)
    (hadd : ∀ id, Expected db filter rawClaims settings id → db.live userId = true ∧
      ∃ row, db.organizationMembers.lookup (id, userId) = some row)
    (hremove : ∀ id row, db.live userId = true →
      db.organizationMembers.lookup (id, userId) = some row → row.isIdpControlled = true →
        Expected db filter rawClaims settings id) :
    (reconcileOrganizations run userId filter rawClaims settings db).2 = db := by
  obtain ⟨expected, hmem, heq⟩ :=
    reconcileOrganizations_eq hfault userId db filter rawClaims settings
  have htoAdd : (planSyncDiff expected (existingWithFlag db userId)).toAdd = [] := by
    refine List.eq_nil_iff_forall_not_mem.mpr fun id hid => ?_
    have hexpected : Expected db filter rawClaims settings id := by
      rw [← hmem]
      simp only [planSyncDiff, List.mem_insertionSort, List.mem_filter] at hid
      exact hid.1
    obtain ⟨hlive, row, hrow⟩ := hadd id hexpected
    rw [mem_toAdd hlive, hrow] at hid
    cases hid.2
  have htoRemove : (planSyncDiff expected (existingWithFlag db userId)).toRemove = [] := by
    refine List.eq_nil_iff_forall_not_mem.mpr fun id hid => ?_
    obtain ⟨hunexpected, hlive, row, hrow, hcontrolled⟩ := mem_toRemove.mp hid
    exact hunexpected ((hmem id).mpr (hremove id row hlive hrow hcontrolled))
  rw [heq, htoAdd, htoRemove]
  rfl

theorem expected_of_sameElsewhere {after : Db lower} (h : SameElsewhere db after) (id : Uuid) :
    Expected after filter rawClaims settings id ↔ Expected db filter rawClaims settings id := by
  rw [h]
  rfl

theorem expected_of_mem_iff {rawClaims' : List String}
    (h : ∀ raw, raw ∈ rawClaims' ↔ raw ∈ rawClaims) (id : Uuid) :
    Expected db filter rawClaims' settings id ↔ Expected db filter rawClaims settings id := by
  simp only [Expected, Mapped, h]

/-- The row of an organization after a pass, for a user who is there. -/
inductive Becomes (expected : Prop) (now : Int) :
    Option OrganizationMemberRow → Option OrganizationMemberRow → Prop where
  | manual (row : OrganizationMemberRow) (hmanual : row.isIdpControlled = false) :
    Becomes expected now (some row) (some row)
  | controlled (row : OrganizationMemberRow) (hcontrolled : row.isIdpControlled = true)
    (hexpected : expected) : Becomes expected now (some row) (some row)
  | removed (row : OrganizationMemberRow) (hcontrolled : row.isIdpControlled = true)
    (hexpected : ¬ expected) : Becomes expected now (some row) none
  | added (hexpected : expected) : Becomes expected now none (some (newMembership now))
  | absent (hexpected : ¬ expected) : Becomes expected now none none

theorem becomes_of_live (hfault : run.Faultless) (hlive : db.live userId = true)
    (filter : Option (String → Bool)) (rawClaims : List String)
    (settings : OrganizationSyncSettings) :
    ∃ outcome after,
      reconcileOrganizations run userId filter rawClaims settings db = (.ok outcome, after) ∧
      outcome.Quiet ∧ SameElsewhere db after ∧
      ∀ id, Becomes (Expected db filter rawClaims settings id) run.now
        (db.organizationMembers.lookup (id, userId))
        (after.organizationMembers.lookup (id, userId)) := by
  obtain ⟨outcome, after, expected, hmem, hrun, hquiet, helsewhere, hlookup⟩ :=
    reconcileOrganizations_live hfault hlive filter rawClaims settings
  refine ⟨outcome, after, hrun, hquiet, helsewhere, fun id => ?_⟩
  rw [hlookup]
  split
  · rename_i hremove
    obtain ⟨hunexpected, -, row, hrow, hcontrolled⟩ := mem_toRemove.mp hremove
    rw [hrow]
    exact .removed row hcontrolled fun hexpected => hunexpected ((hmem id).mpr hexpected)
  · rename_i hremove
    split
    · rename_i hadd
      obtain ⟨hexpected, hnone⟩ := (mem_toAdd hlive).mp hadd
      rw [hnone]
      exact .added ((hmem id).mp hexpected)
    · rename_i hadd
      cases hrow : db.organizationMembers.lookup (id, userId) with
      | none =>
        refine .absent fun hexpected => hadd ?_
        exact (mem_toAdd hlive).mpr ⟨(hmem id).mpr hexpected, hrow⟩
      | some row =>
        cases hcontrolled : row.isIdpControlled with
        | false => exact .manual row hcontrolled
        | true =>
          refine .controlled row hcontrolled (not_not.mp fun hunexpected => hremove ?_)
          exact mem_toRemove.mpr
            ⟨fun hexpected => hunexpected ((hmem id).mp hexpected), hlive, row, hrow, hcontrolled⟩

/-- A pass over the claims of a deleted user warns about every organization it expects. -/
theorem reconcileOrganizations_deleted (hfault : run.Faultless)
    (hdeleted : db.live userId = false) (filter : Option (String → Bool))
    (rawClaims : List String) (settings : OrganizationSyncSettings) :
    ∃ outcome after,
      reconcileOrganizations run userId filter rawClaims settings db = (.ok outcome, after) ∧
      (outcome.Quiet → ∀ id, ¬ Expected db filter rawClaims settings id) := by
  obtain ⟨expected, hmem, heq⟩ :=
    reconcileOrganizations_eq hfault userId db filter rawClaims settings
  -- the listing joins the users that are not deleted, so it is empty
  have hexisting : existingWithFlag db userId = [] := by
    refine List.eq_nil_iff_forall_not_mem.mpr fun m hm => ?_
    obtain ⟨hlive, -⟩ := mem_existingWithFlag.mp hm
    rw [hdeleted] at hlive
    cases hlive
  rw [hexisting] at heq
  obtain ⟨added, mid, hadded, -, hnotAdded⟩ :=
    (addMemberships_deleted hfault (planSyncDiff expected []).toAdd).exists_ok hdeleted
  refine ⟨added, mid, ?_, fun hquiet id hexpected => ?_⟩
  · rw [heq, Effect.bind_ok hadded]
    rfl
  · have hin : id ∈ (planSyncDiff expected []).toAdd := by
      simp only [planSyncDiff, List.mem_insertionSort, List.mem_filter]
      exact ⟨(hmem id).mpr hexpected, rfl⟩
    rw [← hnotAdded, hquiet.1] at hin
    cases hin

end

/-! ## The whole pass -/

section

variable {regexNew : RegexNew} {regexFilter : Option String} {filter : Option (String → Bool)}
  {settings : OrganizationSyncSettings}

theorem syncOrganizations_eq (henabled : ¬ (settings.field.isEmpty ∧ !settings.assignDefault))
    (hfilter : compileFilter regexNew regexFilter = .ok filter) (run : OrganizationRun)
    (userId : Uuid) (rawClaims : List String) (db : Db lower) :
    syncOrganizations regexNew run userId rawClaims settings regexFilter db =
      (reconcileOrganizations run userId filter rawClaims settings).mapError .storage db := by
  rw [syncOrganizations, if_neg henabled, hfilter]
  exact Effect.bind_ok rfl

theorem findOrganizationMember_live (hlive : db.live userId = true) (id : Uuid) :
    findOrganizationMember db id userId = db.organizationMembers.lookup (id, userId) := by
  rw [findOrganizationMember, if_pos hlive]

theorem findOrganizationMember_deleted (hdeleted : db.live userId = false) (id : Uuid) :
    findOrganizationMember db id userId = none := by
  rw [findOrganizationMember, if_neg (by rw [hdeleted]; decide)]

/-- Whatever becomes of a row, it is there afterwards if it was manual or is expected. -/
theorem Becomes.isSome_iff {expected : Prop} {now : Int}
    {row row' : Option OrganizationMemberRow} (h : Becomes expected now row row') :
    (∃ r, row' = some r) ↔ (∃ r, row = some r ∧ r.isIdpControlled = false) ∨ expected := by
  cases h with
  | manual r hmanual => exact iff_of_true ⟨r, rfl⟩ (.inl ⟨r, rfl, hmanual⟩)
  | controlled r hcontrolled hexpected => exact iff_of_true ⟨r, rfl⟩ (.inr hexpected)
  | removed r hcontrolled hexpected =>
    refine iff_of_false (by simp) ?_
    rintro (⟨r', hr', hmanual⟩ | hexpected')
    · cases hr'
      rw [hcontrolled] at hmanual
      cases hmanual
    · exact hexpected hexpected'
  | added hexpected => exact iff_of_true ⟨_, rfl⟩ (.inr hexpected)
  | absent hexpected => exact iff_of_false (by simp) (by simpa using hexpected)

theorem Becomes.manual_iff {expected : Prop} {now : Int} {row row' : Option OrganizationMemberRow}
    (h : Becomes expected now row row') (r : OrganizationMemberRow) :
    (row' = some r ∧ r.isIdpControlled = false) ↔ (row = some r ∧ r.isIdpControlled = false) := by
  cases h with
  | manual r' hmanual => exact Iff.rfl
  | controlled r' hcontrolled hexpected => exact Iff.rfl
  | removed r' hcontrolled hexpected =>
    refine iff_of_false (by simp) ?_
    rintro ⟨hr, hmanual⟩
    cases hr
    rw [hcontrolled] at hmanual
    cases hmanual
  | added hexpected =>
    refine iff_of_false ?_ (by simp)
    rintro ⟨hr, hmanual⟩
    cases hr
    cases hmanual
  | absent hexpected => exact Iff.rfl

/-- Whose hands the membership is in depends on nothing but the row and what is expected. -/
theorem Becomes.flag_eq {expected expected' : Prop} {now now' : Int}
    {row row₁ row₂ : Option OrganizationMemberRow} (hiff : expected' ↔ expected)
    (h₁ : Becomes expected now row row₁) (h₂ : Becomes expected' now' row row₂) :
    row₂.map (·.isIdpControlled) = row₁.map (·.isIdpControlled) := by
  cases h₁ with
  | manual r hmanual =>
    cases h₂ with
    | manual => rfl
    | controlled => rfl
    | removed r' hcontrolled =>
      rw [hmanual] at hcontrolled
      cases hcontrolled
  | controlled r hcontrolled hexpected =>
    cases h₂ with
    | manual => rfl
    | controlled => rfl
    | removed r' hcontrolled' hexpected' => exact absurd (hiff.mpr hexpected) hexpected'
  | removed r hcontrolled hexpected =>
    cases h₂ with
    | manual r' hmanual =>
      rw [hcontrolled] at hmanual
      cases hmanual
    | controlled r' hcontrolled' hexpected' => exact absurd (hiff.mp hexpected') hexpected
    | removed => rfl
  | added hexpected =>
    cases h₂ with
    | added => rfl
    | absent hexpected' => exact absurd (hiff.mpr hexpected) hexpected'
  | absent hexpected =>
    cases h₂ with
    | added hexpected' => exact absurd (hiff.mp hexpected') hexpected
    | absent => rfl

/-- A pass for a user who is there returns, without a warning. -/
theorem syncOrganizations_live (henabled : ¬ (settings.field.isEmpty ∧ !settings.assignDefault))
    (hfilter : compileFilter regexNew regexFilter = .ok filter) (hfault : run.Faultless)
    (hlive : db.live userId = true) (rawClaims : List String) :
    ∃ outcome after, syncOrganizations regexNew run userId rawClaims settings regexFilter db =
        (.ok outcome, after) ∧
      outcome.Quiet ∧ SameElsewhere db after ∧
      ∀ id, Becomes (Expected db filter rawClaims settings id) run.now
        (db.organizationMembers.lookup (id, userId))
        (after.organizationMembers.lookup (id, userId)) := by
  obtain ⟨outcome, after, hrun, hrest⟩ :=
    becomes_of_live hfault hlive filter rawClaims settings
  refine ⟨outcome, after, ?_, hrest⟩
  rw [syncOrganizations_eq henabled hfilter, Effect.mapError, hrun]

/-- No failure leaves a deleted user without an organization that is expected. -/
theorem syncOrganizations_deleted (henabled : ¬ (settings.field.isEmpty ∧ !settings.assignDefault))
    (hfilter : compileFilter regexNew regexFilter = .ok filter) (hfault : run.Faultless)
    (hdeleted : db.live userId = false) {rawClaims : List String}
    (hunexpected : ∀ id, ¬ Expected db filter rawClaims settings id) :
    (syncOrganizations regexNew run userId rawClaims settings regexFilter db).2 = db := by
  rw [syncOrganizations_eq henabled hfilter, Effect.mapError_state]
  refine reconcileOrganizations_settled hfault (fun id hexpected => ?_) fun id row hlive => ?_
  · exact absurd hexpected (hunexpected id)
  · rw [hdeleted] at hlive
    cases hlive

theorem converge_live (henabled : ¬ (settings.field.isEmpty ∧ !settings.assignDefault))
    (hfilter : compileFilter regexNew regexFilter = .ok filter) (hfault : run.Faultless)
    (hlive : db.live userId = true) (rawClaims : List String) :
    OrganizationsConverge regexNew userId rawClaims settings regexFilter filter db
      (syncOrganizations regexNew run userId rawClaims settings regexFilter db).2 := by
  obtain ⟨outcome, after, hsync, -, helsewhere, hbecomes⟩ :=
    syncOrganizations_live henabled hfilter hfault hlive rawClaims
  rw [hsync]
  have hlive' : after.live userId = true := by rw [helsewhere.live, hlive]
  refine ⟨fun id => ?_, fun id row => ?_, fun run' hfault' => ?_, ?_⟩
  · simp only [Manual, findOrganizationMember_live hlive, findOrganizationMember_live hlive']
    exact (hbecomes id).isSome_iff
  · simp only [Manual, findOrganizationMember_live hlive, findOrganizationMember_live hlive']
    exact (hbecomes id).manual_iff row
  · rw [syncOrganizations_eq henabled hfilter, Effect.mapError_state]
    refine reconcileOrganizations_settled hfault' (fun id hexpected => ⟨hlive', ?_⟩) ?_
    · rw [expected_of_sameElsewhere helsewhere] at hexpected
      exact (hbecomes id).isSome_iff.mpr (.inr hexpected)
    · intro id row _ hrow hcontrolled
      rw [expected_of_sameElsewhere helsewhere]
      have hafter := hbecomes id
      rw [hrow] at hafter
      generalize db.organizationMembers.lookup (id, userId) = before at hafter
      cases hafter with
      | manual _ hmanual =>
        rw [hcontrolled] at hmanual
        cases hmanual
      | controlled _ _ hexpected => exact hexpected
      | added hexpected => exact hexpected
  · intro run' hfault' rawClaims' hclaims id
    obtain ⟨outcome', after', hsync', -, helsewhere', hbecomes'⟩ :=
      syncOrganizations_live henabled hfilter hfault' hlive rawClaims'
    have hlive'' : after'.live userId = true := by rw [helsewhere'.live, hlive]
    rw [hsync', findOrganizationMember_live hlive', findOrganizationMember_live hlive'']
    exact (hbecomes id).flag_eq (expected_of_mem_iff hclaims id) (hbecomes' id)

theorem converge_deleted (henabled : ¬ (settings.field.isEmpty ∧ !settings.assignDefault))
    (hfilter : compileFilter regexNew regexFilter = .ok filter) (hdeleted : db.live userId = false)
    {rawClaims : List String} (hunexpected : ∀ id, ¬ Expected db filter rawClaims settings id) :
    OrganizationsConverge regexNew userId rawClaims settings regexFilter filter db db := by
  refine ⟨fun id => ?_, fun id row => Iff.rfl, fun run' hfault' => ?_, ?_⟩
  · simp [Manual, findOrganizationMember_deleted hdeleted, hunexpected id]
  · exact syncOrganizations_deleted henabled hfilter hfault' hdeleted hunexpected
  · intro run' hfault' rawClaims' hclaims id
    rw [syncOrganizations_deleted henabled hfilter hfault' hdeleted fun id hexpected => ?_]
    exact hunexpected id ((expected_of_mem_iff hclaims id).mp hexpected)

end

/-- A pass without a failure of the store returns, and leaves the manual memberships and the
expected ones. -/
theorem organizationsConverge (regexNew : RegexNew) (run : OrganizationRun)
    (hfault : run.Faultless) (userId : Uuid) (rawClaims : List String)
    (settings : OrganizationSyncSettings)
    (henabled : ¬ (settings.field.isEmpty ∧ !settings.assignDefault))
    (regexFilter : Option String) (filter : Option (String → Bool))
    (hfilter : compileFilter regexNew regexFilter = .ok filter) (db : Db lower)
    (hquiet : ∀ outcome,
      (syncOrganizations regexNew run userId rawClaims settings regexFilter db).1 = .ok outcome →
        outcome.Quiet) :
    (∃ outcome,
      (syncOrganizations regexNew run userId rawClaims settings regexFilter db).1 =
        .ok outcome) ∧
    OrganizationsConverge regexNew userId rawClaims settings regexFilter filter db
      (syncOrganizations regexNew run userId rawClaims settings regexFilter db).2 := by
  cases hlive : db.live userId with
  | true =>
    refine ⟨?_, converge_live henabled hfilter hfault hlive rawClaims⟩
    obtain ⟨outcome, after, hsync, -⟩ :=
      syncOrganizations_live henabled hfilter hfault hlive rawClaims
    exact ⟨outcome, by rw [hsync]⟩
  | false =>
    obtain ⟨outcome, after, hrun, hunexpected⟩ :=
      reconcileOrganizations_deleted hfault hlive filter rawClaims settings
    have hsync : syncOrganizations regexNew run userId rawClaims settings regexFilter db =
        (.ok outcome, after) := by
      rw [syncOrganizations_eq henabled hfilter, Effect.mapError, hrun]
    have hnone := hunexpected (hquiet outcome (by rw [hsync]))
    refine ⟨⟨outcome, by rw [hsync]⟩, ?_⟩
    rw [syncOrganizations_deleted henabled hfilter hfault hlive hnone]
    exact converge_deleted henabled hfilter hlive hnone

def undisturbedRun : OrganizationRun where
  now := 0
  fault _ := none
  insertFault _ := none

/-- A user with a manual membership and with one that is not asserted any more. -/
def oneUser : Db id where
  users := AList.insert ⟨1⟩ { deleted := false } ∅
  organizations :=
    AList.insert ⟨10⟩ { isDefault := true, deleted := false } <|
      AList.insert ⟨11⟩ { isDefault := false, deleted := false } <|
        AList.insert ⟨12⟩ { isDefault := false, deleted := false } ∅
  organizationMembers :=
    AList.insert (⟨10⟩, ⟨1⟩) { createdAt := 0, roles := [], isIdpControlled := false } <|
      AList.insert (⟨11⟩, ⟨1⟩) { createdAt := 0, roles := [], isIdpControlled := true } ∅
  groups := ∅
  groupMembers := ∅
  oneDefault := by
    intro id id' row row' hrow hrow' hdefault hdefault'
    simp only [HashMap.lookup_insert_ite, AList.lookup_empty] at hrow hrow'
    grind
  oneName := by
    intro id id' row row' hrow
    cases hrow
  memberOfGroup := by
    intro m hm
    cases hm

def teamMapping : OrganizationSyncSettings where
  field := "orgs"
  mapping := AList.insert "team-a" [⟨12⟩] ∅
  assignDefault := false

theorem organizationsConverge_oneUser :
    (∃ outcome, (syncOrganizations literalRegex undisturbedRun ⟨1⟩ ["team-a", "other"] teamMapping
      (some "team") oneUser).1 = .ok outcome) ∧
    OrganizationsConverge literalRegex ⟨1⟩ ["team-a", "other"] teamMapping (some "team")
      (some fun raw => decide ("team".toList <:+: raw.toList)) oneUser
      (syncOrganizations literalRegex undisturbedRun ⟨1⟩ ["team-a", "other"] teamMapping
        (some "team") oneUser).2 := by
  have hfault : undisturbedRun.Faultless := ⟨fun _ => rfl, fun _ => rfl⟩
  have henabled : ¬ (teamMapping.field.isEmpty ∧ !teamMapping.assignDefault) := by decide
  have hfilter : compileFilter literalRegex (some "team") =
      .ok (some fun raw => decide ("team".toList <:+: raw.toList)) := rfl
  have hlive : oneUser.live ⟨1⟩ = true := rfl
  refine organizationsConverge literalRegex undisturbedRun hfault ⟨1⟩ ["team-a", "other"]
    teamMapping henabled (some "team") _ hfilter oneUser ?_
  intro outcome houtcome
  obtain ⟨outcome', after, hsync, hquiet, -⟩ :=
    syncOrganizations_live henabled hfilter hfault hlive ["team-a", "other"]
  rw [hsync] at houtcome
  cases houtcome
  exact hquiet

end Coderd.IdpSync
