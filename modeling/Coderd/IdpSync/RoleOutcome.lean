import Coderd.IdpSync.Roles

namespace Coderd.IdpSync

open Coderd.Foundation Coderd.DbAuthz

variable {lower : String → String}

/-! ## The roles that a claim grants -/

/-- A value of the claim, in a list or by itself. -/
def Claimed (mergedClaims : Json) (field value : String) : Prop :=
  (∃ items, mergedClaims.get field = some (.array items) ∧ Json.string value ∈ items) ∨
    (mergedClaims.get field = some (.string value) ∧ value ≠ "")

/-- A role that a claimed value is mapped to, or that is an unmapped one. -/
def Granted (mergedClaims : Json) (settings : RoleSyncSettings) (role : String) : Prop :=
  role ≠ orgMemberRole ∧ ∃ value, Claimed mergedClaims settings.field value ∧
    ((∃ names, settings.mapping.lookup value = some names ∧ role ∈ names) ∨
      (settings.mapping.lookup value = none ∧ role = value))

theorem mem_dedupeStable {items : List String} {a : String} :
    a ∈ dedupeStable items ↔ a ∈ items := by
  have hfold : ∀ kept : HashSet String × List String, (∀ b, b ∈ kept.1 ↔ b ∈ kept.2) →
      (a ∈ (items.foldl (fun (kept : HashSet String × List String) item =>
        if item ∈ kept.1 then kept else (kept.1.insert item, kept.2 ++ [item])) kept).2 ↔
          a ∈ kept.2 ∨ a ∈ items) := by
    induction items with
    | nil => simp
    | cons item items ih =>
      intro kept hkept
      rw [List.foldl_cons]
      split
      · rename_i hseen
        rw [ih kept hkept, List.mem_cons]
        refine ⟨fun h => h.imp_right .inr, ?_⟩
        rintro (hold | rfl | hin)
        · exact .inl hold
        · exact .inl ((hkept a).mp hseen)
        · exact .inr hin
      · rw [ih _ fun b => by simp [hkept, or_comm], List.mem_append, List.mem_singleton,
          List.mem_cons, or_assoc]
  rw [dedupeStable, hfold _ fun b => by simp]
  simp

theorem mem_parseRoleClaims {field value : String} {mergedClaims : Json}
    (hfield : field.isEmpty = false) :
    value ∈ parseRoleClaims field mergedClaims ↔ Claimed mergedClaims field value := by
  rw [parseRoleClaims, if_neg (by rw [hfield]; decide), parseStringSlice, Claimed]
  split
  · rename_i items hget
    rw [mem_dedupeStable, List.mem_filterMap, hget]
    constructor
    · rintro ⟨item, hitem, hstring⟩
      cases item with
      | string s =>
        cases hstring
        exact .inl ⟨items, rfl, hitem⟩
      | _ => cases hstring
    · rintro (⟨items', heq, hitem⟩ | ⟨heq, -⟩)
      · cases heq
        exact ⟨_, hitem, rfl⟩
      · cases heq
  · rename_i s hget
    rw [hget]
    split
    · rename_i hempty
      rw [String.isEmpty_iff] at hempty
      simp [hempty, eq_comm]
    · rename_i hempty
      rw [String.isEmpty_iff] at hempty
      rw [mem_dedupeStable, List.mem_singleton]
      constructor
      · rintro rfl
        exact .inr ⟨rfl, hempty⟩
      · rintro (⟨items, heq, -⟩ | ⟨heq, -⟩)
        · cases heq
        · cases heq
          rfl
  · rename_i hother hbare
    refine iff_of_false List.not_mem_nil ?_
    rintro (⟨items, hget, -⟩ | ⟨hget, -⟩)
    · exact hother items hget
    · exact hbare value hget

/-- What `syncOrgRoles` computes from the claims. -/
def expectedRoles (mergedClaims : Json) (settings : RoleSyncSettings) : List String :=
  withoutMemberRole (expandMapping settings (parseRoleClaims settings.field mergedClaims))

theorem mem_withoutMemberRole {roles : List String} {role : String} :
    role ∈ withoutMemberRole roles ↔ role ≠ orgMemberRole ∧ role ∈ roles := by
  rw [withoutMemberRole, mem_uniqueSorted, List.mem_filter, decide_eq_true_eq, and_comm]

theorem mem_expandMapping {settings : RoleSyncSettings} {claimRoles : List String}
    {role : String} :
    role ∈ expandMapping settings claimRoles ↔ ∃ value ∈ claimRoles,
      (∃ names, settings.mapping.lookup value = some names ∧ role ∈ names) ∨
        (settings.mapping.lookup value = none ∧ role = value) := by
  rw [expandMapping, List.mem_flatMap]
  refine exists_congr fun value => and_congr_right fun _ => ?_
  cases settings.mapping.lookup value with
  | none => simp
  | some names => simp

theorem mem_expectedRoles {mergedClaims : Json} {settings : RoleSyncSettings} {role : String}
    (hfield : settings.field.isEmpty = false) :
    role ∈ expectedRoles mergedClaims settings ↔ Granted mergedClaims settings role := by
  simp only [expectedRoles, mem_withoutMemberRole, mem_expandMapping,
    mem_parseRoleClaims hfield, Granted]

theorem withoutMemberRole_eq_iff {roles roles' : List String} :
    withoutMemberRole roles = withoutMemberRole roles' ↔
      ∀ role, role ≠ orgMemberRole → (role ∈ roles ↔ role ∈ roles') := by
  rw [withoutMemberRole, withoutMemberRole, uniqueSorted_eq_iff]
  refine forall_congr' fun role => ?_
  simp only [List.mem_filter, decide_eq_true_eq]
  tauto

theorem withoutMemberRole_expectedRoles (mergedClaims : Json) (settings : RoleSyncSettings) :
    withoutMemberRole (expectedRoles mergedClaims settings) =
      expectedRoles mergedClaims settings := by
  refine withoutMemberRole_eq_iff.mpr fun role hrole => ?_
  rw [expectedRoles, mem_withoutMemberRole]
  exact and_iff_right hrole

/-! ## One membership -/

/-- The work of the call is done. -/
def carriedOut {ε : Type} (fault : Option (Effect.Fault ε)) : Bool := fault.all (·.committed)

theorem applyRoles_of_eq {σ α : Type} {existing expected : List String}
    (h : existing = expected) (update : Effect σ StorageError α) (s : σ) :
    applyRoles existing expected update s = (.ok (0, 0), s) := by
  rw [applyRoles, if_pos h]
  rfl

theorem applyRoles_eq {σ α : Type} {existing expected : List String}
    {update : Effect σ StorageError α} {s s' : σ} {a : α} (h : update s = (.ok a, s'))
    (hne : existing ≠ expected) (fault : Option (Effect.Fault StorageError)) :
    applyRoles existing expected (Effect.through fault update) s =
      (.ok (if fault.isNone then countDiff existing expected else (0, 0)),
        if carriedOut fault then s' else s) := by
  rw [applyRoles, if_neg hne]
  cases fault with
  | none => exact Effect.bind_ok (Effect.result_ok h)
  | some f =>
    have hfailed : Effect.through (some f) update s =
        (.error f.error, if carriedOut (some f) then s' else s) := by
      rw [Effect.through, h, carriedOut, Option.all_some]
    exact Effect.bind_ok (Effect.result_error hfailed)

theorem updateOrganizationMemberRoles_eq (organizationId userId : Uuid) (roles : List String)
    (db : RoleDb lower) :
    ∃ row, updateOrganizationMemberRoles organizationId userId roles db =
      (.ok row, db.setMemberRoles organizationId userId roles) := by
  unfold updateOrganizationMemberRoles
  split
  · rename_i hnone
    refine ⟨none, Prod.ext rfl ?_⟩
    rw [RoleDb.setMemberRoles, HashMap.modify, Option.isNone_iff_eq_none.mp hnone]
  · exact ⟨_, rfl⟩

variable [UuidText] {fromStr : SettingsFromStr} {run : RoleRun} {userId : Uuid}
  {mergedClaims : Json}

/-- The roles that the pass sets out to store, if they are not stored already. -/
def dueRoles (fromStr : SettingsFromStr) (run : RoleRun) (mergedClaims : Json)
    (db : RoleDb lower) (orgId : Uuid) (roles : List String) : Option (List String) :=
  match (Effect.through (run.fault (.roleSyncSettings orgId))
    (roleSyncSettings fromStr orgId) db).1 with
  | .error _ => none
  | .ok settings =>
    if settings.field.isEmpty ∨ withoutMemberRole roles = expectedRoles mergedClaims settings then
      none
    else some (expectedRoles mergedClaims settings)

/-- The roles that are stored after the pass. -/
def leftRoles (fromStr : SettingsFromStr) (run : RoleRun) (mergedClaims : Json)
    (db : RoleDb lower) (orgId : Uuid) (roles : List String) : List String :=
  if carriedOut (run.fault (.updateMemberRoles orgId)) then
    (dueRoles fromStr run mergedClaims db orgId roles).getD roles
  else roles

def countedRoles (fromStr : SettingsFromStr) (run : RoleRun) (mergedClaims : Json)
    (db : RoleDb lower) (orgId : Uuid) (roles : List String) : Nat × Nat :=
  match dueRoles fromStr run mergedClaims db orgId roles with
  | none => (0, 0)
  | some expected =>
    if (run.fault (.updateMemberRoles orgId)).isNone then
      countDiff (withoutMemberRole roles) expected
    else (0, 0)

theorem roleSyncSettings_state (fromStr : SettingsFromStr)
    (fault : Option (Effect.Fault StorageError)) (orgId : Uuid) (db : RoleDb lower) :
    (Effect.through fault (roleSyncSettings fromStr orgId) db).2 = db := by
  have hsame : (roleSyncSettings fromStr orgId db).2 = db := by
    unfold roleSyncSettings
    split
    · split
      · rfl
      · rfl
    · rfl
  cases fault with
  | none => exact hsame
  | some f =>
    simp only [Effect.through, hsame]
    exact ite_self db

theorem roleSyncSettings_congr {db db' : RoleDb lower} (h : db'.siteConfigs = db.siteConfigs)
    (orgId : Uuid) :
    (roleSyncSettings fromStr orgId db').1 = (roleSyncSettings fromStr orgId db).1 := by
  unfold roleSyncSettings
  rw [h]
  split
  · split
    · rfl
    · rfl
  · rfl

theorem dueRoles_congr (fromStr : SettingsFromStr) (run : RoleRun) (mergedClaims : Json)
    {db db' : RoleDb lower} (h : db'.siteConfigs = db.siteConfigs) :
    dueRoles fromStr run mergedClaims db' = dueRoles fromStr run mergedClaims db := by
  funext orgId roles
  unfold dueRoles
  cases hfault : run.fault (.roleSyncSettings orgId) with
  | none => rw [Effect.through_none, roleSyncSettings_congr h]
  | some f => rfl

theorem syncMembership_settled {db : RoleDb lower} {m : (_ : Uuid × Uuid) × OrganizationMemberRow}
    (hdue : dueRoles fromStr run mergedClaims db m.1.1 m.2.roles = none) (result : RoleSyncResult) :
    syncMembership fromStr run userId mergedClaims result m db = (.ok result, db) := by
  have hstate := roleSyncSettings_state fromStr
    (run.fault (.roleSyncSettings m.1.1)) m.1.1 db
  unfold syncMembership
  unfold dueRoles at hdue
  rcases hload : Effect.through (run.fault (.roleSyncSettings m.1.1))
    (roleSyncSettings fromStr m.1.1) db with ⟨e | settings, db'⟩
  · rw [hload] at hstate
    cases hstate
    exact Effect.bind_ok (Effect.result_error hload)
  · rw [hload] at hstate hdue
    cases hstate
    refine (Effect.bind_ok (Effect.result_ok hload)).trans ?_
    cases hfield : settings.field.isEmpty with
    | true => simp only [hfield, if_true]; rfl
    | false =>
      simp only [hfield, Bool.false_eq_true, if_false, false_or] at hdue ⊢
      have hsame : withoutMemberRole m.2.roles = expectedRoles mergedClaims settings := by
        by_contra hne
        rw [if_neg hne] at hdue
        cases hdue
      have hsynced : syncOrgRoles run userId m.1.1 mergedClaims settings m.2.roles db' =
          (.ok (0, 0), db') :=
        applyRoles_of_eq hsame _ db'
      exact Effect.bind_ok (Effect.result_ok hsynced)

theorem syncMembership_due {db : RoleDb lower} {m : (_ : Uuid × Uuid) × OrganizationMemberRow}
    {roles : List String} (hdue : dueRoles fromStr run mergedClaims db m.1.1 m.2.roles = some roles)
    (result : RoleSyncResult) :
    syncMembership fromStr run userId mergedClaims result m db =
      (.ok { result with
          orgAdded := result.orgAdded +
            (countedRoles fromStr run mergedClaims db m.1.1 m.2.roles).1
          orgRemoved := result.orgRemoved +
            (countedRoles fromStr run mergedClaims db m.1.1 m.2.roles).2 },
        if carriedOut (run.fault (.updateMemberRoles m.1.1)) then
          db.setMemberRoles m.1.1 userId roles
        else db) := by
  have hstate := roleSyncSettings_state fromStr
    (run.fault (.roleSyncSettings m.1.1)) m.1.1 db
  rw [countedRoles, hdue]
  unfold syncMembership
  unfold dueRoles at hdue
  rcases hload : Effect.through (run.fault (.roleSyncSettings m.1.1))
    (roleSyncSettings fromStr m.1.1) db with ⟨e | settings, db'⟩
  · rw [hload] at hdue
    cases hdue
  · rw [hload] at hstate hdue
    cases hstate
    refine (Effect.bind_ok (Effect.result_ok hload)).trans ?_
    cases hfield : settings.field.isEmpty with
    | true => simp [hfield] at hdue
    | false =>
      simp only [hfield, Bool.false_eq_true, if_false, false_or] at hdue ⊢
      split at hdue
      · cases hdue
      · rename_i hne
        cases hdue
        obtain ⟨row, hupdate⟩ := updateOrganizationMemberRoles_eq m.1.1 userId
          (expectedRoles mergedClaims settings) db'
        exact Effect.bind_ok (Effect.result_ok
          (applyRoles_eq hupdate hne (run.fault (.updateMemberRoles m.1.1))))

/-! ## All memberships -/

/-- Apart from the memberships the databases are the same. -/
def SameButMembers (db after : RoleDb lower) : Prop :=
  after =
    { db with
      tables := { db.tables with organizationMembers := after.tables.organizationMembers } }

omit [UuidText] in
theorem SameButMembers.trans {db mid after : RoleDb lower} (h : SameButMembers db mid)
    (h' : SameButMembers mid after) : SameButMembers db after := by
  unfold SameButMembers at h h' ⊢
  rw [h', h]

omit [UuidText] in
theorem SameButMembers.siteConfigs {db after : RoleDb lower} (h : SameButMembers db after) :
    after.siteConfigs = db.siteConfigs := by
  rw [h]

/-- The membership that the turn is about is left as said, and the others are as they were. -/
theorem syncMembership_ok (fromStr : SettingsFromStr) (run : RoleRun) (mergedClaims : Json)
    {db : RoleDb lower} {m : (_ : Uuid × Uuid) × OrganizationMemberRow}
    (hrow : db.tables.organizationMembers.lookup m.1 = some m.2) (huser : m.1.2 = userId)
    (result : RoleSyncResult) :
    ∃ after, syncMembership fromStr run userId mergedClaims result m db =
        (.ok { result with
          orgAdded := result.orgAdded +
            (countedRoles fromStr run mergedClaims db m.1.1 m.2.roles).1
          orgRemoved := result.orgRemoved +
            (countedRoles fromStr run mergedClaims db m.1.1 m.2.roles).2 }, after) ∧
      SameButMembers db after ∧
      ∀ key, after.tables.organizationMembers.lookup key =
        if key = m.1 then
          some { m.2 with roles := leftRoles fromStr run mergedClaims db m.1.1 m.2.roles }
        else db.tables.organizationMembers.lookup key := by
  cases hdue : dueRoles fromStr run mergedClaims db m.1.1 m.2.roles with
  | none =>
    refine ⟨db, ?_, rfl, fun key => ?_⟩
    · rw [syncMembership_settled hdue, countedRoles, hdue]
      rfl
    · rw [leftRoles, hdue, Option.getD_none, ite_self]
      split
      · rename_i hkey
        rw [hkey, hrow]
      · rfl
  | some roles =>
    refine ⟨_, syncMembership_due hdue result, ?_, fun key => ?_⟩
    · split
      · rfl
      · rfl
    · have hkey : (m.1.1, userId) = m.1 := Prod.ext rfl huser.symm
      rw [leftRoles, hdue, Option.getD_some]
      split
      · rw [RoleDb.setMemberRoles, HashMap.lookup_modify, hkey]
        split
        · rename_i hsame
          rw [hsame, hrow, Option.map_some]
        · rfl
      · split
        · rename_i hsame
          rw [hsame, hrow]
        · rfl

/-- The loop, over memberships that are stored as they were listed. -/
theorem foldlM_syncMembership (fromStr : SettingsFromStr) (run : RoleRun) (mergedClaims : Json)
    (ms : List ((_ : Uuid × Uuid) × OrganizationMemberRow)) (hnodup : (ms.map (·.1)).Nodup)
    (db : RoleDb lower)
    (hrows : ∀ m ∈ ms, db.tables.organizationMembers.lookup m.1 = some m.2)
    (huser : ∀ m ∈ ms, m.1.2 = userId) (result : RoleSyncResult) :
    ∃ after, ms.foldlM (syncMembership fromStr run userId mergedClaims) result db =
        (.ok { result with
          orgAdded := result.orgAdded +
            (ms.map fun m => (countedRoles fromStr run mergedClaims db m.1.1 m.2.roles).1).sum
          orgRemoved := result.orgRemoved +
            (ms.map fun m => (countedRoles fromStr run mergedClaims db m.1.1 m.2.roles).2).sum },
          after) ∧
      SameButMembers db after ∧
      (∀ m ∈ ms, after.tables.organizationMembers.lookup m.1 =
        some { m.2 with roles := leftRoles fromStr run mergedClaims db m.1.1 m.2.roles }) ∧
      ∀ key, key ∉ ms.map (·.1) →
        after.tables.organizationMembers.lookup key =
          db.tables.organizationMembers.lookup key := by
  induction ms generalizing db result with
  | nil => exact ⟨db, rfl, rfl, fun m hm => absurd hm List.not_mem_nil, fun _ _ => rfl⟩
  | cons m ms ih =>
    rw [List.map_cons, List.nodup_cons] at hnodup
    obtain ⟨mid, hstep, hmid, hlookup⟩ := syncMembership_ok fromStr run mergedClaims
      (hrows m List.mem_cons_self) (huser m List.mem_cons_self) result
    have hother : ∀ m' ∈ ms, m'.1 ≠ m.1 := fun m' hm' heq =>
      hnodup.1 (heq ▸ List.mem_map_of_mem hm')
    have hdue := dueRoles_congr fromStr run mergedClaims hmid.siteConfigs
    have hleft : leftRoles fromStr run mergedClaims mid =
        leftRoles fromStr run mergedClaims db := by
      funext orgId roles
      rw [leftRoles, leftRoles, hdue]
    have hcounted : countedRoles fromStr run mergedClaims mid =
        countedRoles fromStr run mergedClaims db := by
      funext orgId roles
      rw [countedRoles, countedRoles, hdue]
    obtain ⟨after, hrun, hafter, hdone, hkept⟩ := ih hnodup.2 mid
      (fun m' hm' => by
        rw [hlookup, if_neg (hother m' hm')]
        exact hrows m' (List.mem_cons_of_mem _ hm'))
      (fun m' hm' => huser m' (List.mem_cons_of_mem _ hm')) _
    rw [hleft] at hdone
    rw [hcounted] at hrun
    refine ⟨after, ?_, hmid.trans hafter, ?_, ?_⟩
    · rw [List.foldlM_cons, Effect.bind_ok hstep, hrun]
      simp only [List.map_cons, List.sum_cons, Nat.add_assoc]
    · intro m' hm'
      obtain rfl | hm' := List.mem_cons.mp hm'
      · rw [hkept _ hnodup.1, hlookup, if_pos rfl]
      · exact hdone m' hm'
    · intro key hkey
      rw [List.map_cons, List.mem_cons, not_or] at hkey
      rw [hkept key hkey.2, hlookup, if_neg hkey.1]

theorem foldlM_syncMembership_settled (ms : List ((_ : Uuid × Uuid) × OrganizationMemberRow))
    (db : RoleDb lower)
    (hdue : ∀ m ∈ ms, dueRoles fromStr run mergedClaims db m.1.1 m.2.roles = none)
    (result : RoleSyncResult) :
    ms.foldlM (syncMembership fromStr run userId mergedClaims) result db = (.ok result, db) := by
  induction ms with
  | nil => rfl
  | cons m ms ih =>
    rw [List.foldlM_cons,
      Effect.bind_ok (syncMembership_settled (hdue m List.mem_cons_self) result)]
    exact ih fun m' hm' => hdue m' (List.mem_cons_of_mem _ hm')

end Coderd.IdpSync
