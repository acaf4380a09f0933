import Coderd.IdpSync.RoleOutcome

namespace Coderd.IdpSync

open Coderd.Foundation Coderd.DbAuthz

variable {lower : String → String}

/-! ## What is claimed -/

/-- No call to the store fails. -/
def RoleRun.Faultless (run : RoleRun) : Prop := ∀ call, run.fault call = none

/-- At most calls for one organization, or the update of the site roles, fail. -/
structure RoleRun.Partial (run : RoleRun) : Prop where
  findUser : run.fault .findUser = none
  listMemberships : run.fault .listMemberships = none

/-- The calls for this organization do not fail. -/
structure RoleRun.FaultlessFor (run : RoleRun) (orgId : Uuid) : Prop where
  roleSyncSettings : run.fault (.roleSyncSettings orgId) = none
  updateMemberRoles : run.fault (.updateMemberRoles orgId) = none

def RoleDb.member (db : RoleDb lower) (orgId userId : Uuid) : Option OrganizationMemberRow :=
  findOrganizationMember db.tables orgId userId

/-- The roles that the row names, without the one that is implicit. -/
def OrganizationMemberRow.explicit (row : OrganizationMemberRow) : Finset String :=
  row.roles.toFinset.erase orgMemberRole

/-- How many are in `after` and not in `before`. -/
def gained (before after : Finset String) : Nat := (after \ before).card

/-- The row has the granted roles. The implicit role is left in a row whose other roles are the
granted ones already. -/
def Synced (mergedClaims : Json) (settings : RoleSyncSettings)
    (row row' : OrganizationMemberRow) : Prop :=
  row' = { row with roles := row'.roles } ∧
    ∀ role, role ∈ row'.roles ↔ Granted mergedClaims settings role ∨
      (role = orgMemberRole ∧ role ∈ row.roles ∧
        ∀ r, r ≠ orgMemberRole → (r ∈ row.roles ↔ Granted mergedClaims settings r))

/-- The claims have the same values in each field. -/
def SameClaims (mergedClaims mergedClaims' : Json) : Prop :=
  ∀ field value, Claimed mergedClaims' field value ↔ Claimed mergedClaims field value

section

variable [UuidText]

/-- The pass with `run` leaves `after`. -/
structure RolesSynced (fromStr : SettingsFromStr) (run : RoleRun) (userId : Uuid)
    (mergedClaims : Json) (rawSiteClaims : List String) (syncSiteWide : Bool)
    (db after : RoleDb lower) : Prop where
  members : ∀ orgId settings row, run.FaultlessFor orgId →
    (roleSyncSettings fromStr orgId db).1 = .ok settings → settings.field.isEmpty = false →
    db.member orgId userId = some row →
    ∃ row', after.member orgId userId = some row' ∧ Synced mergedClaims settings row row'
  skipped : ∀ orgId, run.FaultlessFor orgId →
    (∀ settings, (roleSyncSettings fromStr orgId db).1 = .ok settings →
      settings.field.isEmpty = true) →
    after.member orgId userId = db.member orgId userId
  others : ∀ orgId user, user ≠ userId → after.member orgId user = db.member orgId user
  siteUnchanged : syncSiteWide = false → after.rbacRoles = db.rbacRoles
  siteRoles : syncSiteWide = true → run.fault .updateUserRoles = none →
    ∀ roles, after.siteRoles userId = some roles → ∀ role, role ∈ roles ↔ role ∈ rawSiteClaims

/-- The counts are the sizes of the differences. -/
structure RolesCounted (userId : Uuid) (db after : RoleDb lower) (result : RoleSyncResult) :
    Prop where
  siteAdded : result.siteAdded =
    gained ((db.siteRoles userId).getD []).toFinset ((after.siteRoles userId).getD []).toFinset
  siteRemoved : result.siteRemoved =
    gained ((after.siteRoles userId).getD []).toFinset ((db.siteRoles userId).getD []).toFinset
  orgAdded : result.orgAdded =
    ((db.tables.selectUserMemberships userId).map fun m =>
      gained m.2.explicit ((after.member m.1.1 userId).elim ∅ (·.explicit))).sum
  orgRemoved : result.orgRemoved =
    ((db.tables.selectUserMemberships userId).map fun m =>
      gained ((after.member m.1.1 userId).elim ∅ (·.explicit)) m.2.explicit).sum

/-- The passes over the claims from `db`. -/
structure RolesConverge (fromStr : SettingsFromStr) (userId : Uuid) (mergedClaims : Json)
    (rawSiteClaims : List String) (syncSiteWide : Bool) (db : RoleDb lower) : Prop where
  synced : ∀ run : RoleRun, run.Partial → ∃ result after,
    syncRoles fromStr run userId mergedClaims rawSiteClaims syncSiteWide db =
      (.ok result, after) ∧
    RolesSynced fromStr run userId mergedClaims rawSiteClaims syncSiteWide db after
  counted : ∀ run : RoleRun, run.Faultless → ∀ result after,
    syncRoles fromStr run userId mergedClaims rawSiteClaims syncSiteWide db =
      (.ok result, after) →
    RolesCounted userId db after result
  again : ∀ run run' : RoleRun, run.Faultless → run'.Faultless → ∀ result after,
    syncRoles fromStr run userId mergedClaims rawSiteClaims syncSiteWide db =
      (.ok result, after) →
    syncRoles fromStr run' userId mergedClaims rawSiteClaims syncSiteWide after =
      (.ok {}, after)
  permuted : ∀ (run : RoleRun) mergedClaims' rawSiteClaims',
    SameClaims mergedClaims mergedClaims' → (∀ raw, raw ∈ rawSiteClaims' ↔ raw ∈ rawSiteClaims) →
    syncRoles fromStr run userId mergedClaims' rawSiteClaims' syncSiteWide db =
      syncRoles fromStr run userId mergedClaims rawSiteClaims syncSiteWide db

end

/-! ## The site roles -/

theorem countDiff_uniqueSorted (roles roles' : List String) :
    countDiff (uniqueSorted roles) (uniqueSorted roles') =
      (gained roles.toFinset roles'.toFinset, gained roles'.toFinset roles.toFinset) := by
  rw [countDiff, length_filter_notMem (nodup_uniqueSorted _),
    length_filter_notMem (nodup_uniqueSorted _), toFinset_uniqueSorted, toFinset_uniqueSorted]
  rfl

theorem gained_self (roles : Finset String) : gained roles roles = 0 := by
  rw [gained, sdiff_self, Finset.bot_eq_empty, Finset.card_empty]

variable {run run' : RoleRun} {userId : Uuid} {mergedClaims mergedClaims' : Json}
  {rawSiteClaims rawSiteClaims' : List String} {syncSiteWide : Bool} {db mid after : RoleDb lower}

theorem RoleRun.Faultless.partial_for (h : run.Faultless) :
    run.Partial ∧ ∀ orgId, run.FaultlessFor orgId :=
  ⟨⟨h _, h _⟩, fun _ => ⟨h _, h _⟩⟩

theorem siteRoles_setSiteRoles {roles : List String} (hlive : db.tables.live userId = true) :
    (db.setSiteRoles userId roles).siteRoles userId = some roles := by
  rw [RoleDb.siteRoles, if_pos]
  · rw [RoleDb.setSiteRoles, AList.lookup_insert, Option.getD_some]
  · exact hlive

/-- Only the site roles of the user have changed. -/
structure SiteSynced (userId : Uuid) (rawSiteClaims : List String) (written : Prop)
    (db after : RoleDb lower) (counts : Nat × Nat) : Prop where
  tables : after.tables = db.tables
  siteConfigs : after.siteConfigs = db.siteConfigs
  roles : written → ∀ roles, after.siteRoles userId = some roles →
    ∀ role, role ∈ roles ↔ role ∈ rawSiteClaims
  counts : written → counts =
    (gained ((db.siteRoles userId).getD []).toFinset ((after.siteRoles userId).getD []).toFinset,
      gained ((after.siteRoles userId).getD []).toFinset ((db.siteRoles userId).getD []).toFinset)

theorem syncSiteWideRoles_settled (hfind : run.fault .findUser = none)
    (h : ∀ roles, db.siteRoles userId = some roles → ∀ role, role ∈ roles ↔ role ∈ rawSiteClaims) :
    syncSiteWideRoles run userId rawSiteClaims db = (.ok (0, 0), db) := by
  unfold syncSiteWideRoles
  rw [hfind, Effect.through_none]
  refine (Effect.bind_ok rfl).trans ?_
  cases hroles : db.siteRoles userId with
  | none => rfl
  | some roles => exact applyRoles_of_eq (uniqueSorted_eq_iff.mpr (h roles hroles)) _ db

theorem syncSiteWideRoles_ok (hfind : run.fault .findUser = none) (userId : Uuid)
    (rawSiteClaims : List String) (db : RoleDb lower) :
    ∃ counts after, syncSiteWideRoles run userId rawSiteClaims db = (.ok counts, after) ∧
      SiteSynced userId rawSiteClaims (run.fault .updateUserRoles = none) db after counts := by
  by_cases hsettled : ∀ roles, db.siteRoles userId = some roles →
      ∀ role, role ∈ roles ↔ role ∈ rawSiteClaims
  · refine ⟨_, db, syncSiteWideRoles_settled hfind hsettled, rfl, rfl, fun _ => hsettled, ?_⟩
    intro _
    rw [gained_self]
  · push Not at hsettled
    obtain ⟨roles, hroles, hdiffer⟩ := hsettled
    have hne : uniqueSorted roles ≠ uniqueSorted rawSiteClaims := by
      intro heq
      obtain ⟨role, hrole⟩ := hdiffer
      have := uniqueSorted_eq_iff.mp heq role
      tauto
    have hlive : db.tables.live userId = true := by
      by_contra hdead
      rw [RoleDb.siteRoles, if_neg hdead] at hroles
      cases hroles
    have hupdate : updateUserRoles userId (uniqueSorted rawSiteClaims) db =
        (.ok (some (uniqueSorted rawSiteClaims)),
          db.setSiteRoles userId (uniqueSorted rawSiteClaims)) := by
      rw [updateUserRoles, if_pos hlive, findUserById, siteRoles_setSiteRoles hlive]
    have hfound : findUserById userId db = (.ok (some roles), db) := by
      rw [findUserById, hroles]
    have hreached : syncSiteWideRoles run userId rawSiteClaims db =
        applyRoles (uniqueSorted roles) (uniqueSorted rawSiteClaims)
          (Effect.through (run.fault .updateUserRoles)
            (updateUserRoles userId (uniqueSorted rawSiteClaims))) db := by
      unfold syncSiteWideRoles
      rw [hfind, Effect.through_none]
      exact Effect.bind_ok hfound
    refine ⟨_, _, hreached.trans (applyRoles_eq hupdate hne _), ?_⟩
    refine ⟨?_, ?_, ?_, ?_⟩
    · split
      · rfl
      · rfl
    · split
      · rfl
      · rfl
    · intro hfault roles' hroles'
      rw [hfault, carriedOut, Option.all_none, if_pos rfl, siteRoles_setSiteRoles hlive]
        at hroles'
      cases hroles'
      exact fun role => mem_uniqueSorted
    · intro hfault
      rw [hfault, carriedOut, Option.all_none, Option.isNone_none, if_pos rfl, if_pos rfl,
        siteRoles_setSiteRoles hlive, hroles, countDiff_uniqueSorted, Option.getD_some,
        Option.getD_some, toFinset_uniqueSorted]

theorem syncSite_ok (hfind : run.fault .findUser = none) (userId : Uuid)
    (rawSiteClaims : List String) (syncSiteWide : Bool) (db : RoleDb lower) :
    ∃ counts after, syncSite run userId rawSiteClaims syncSiteWide db = (.ok counts, after) ∧
      (syncSiteWide = false → counts = (0, 0) ∧ after = db) ∧
      (syncSiteWide = true →
        SiteSynced userId rawSiteClaims (run.fault .updateUserRoles = none) db after counts) ∧
      after.tables = db.tables ∧ after.siteConfigs = db.siteConfigs := by
  cases syncSiteWide with
  | false =>
    exact ⟨(0, 0), db, rfl, fun _ => ⟨rfl, rfl⟩, fun h => absurd h (by decide), rfl, rfl⟩
  | true =>
    obtain ⟨counts, after, hrun, hsynced⟩ := syncSiteWideRoles_ok hfind userId rawSiteClaims db
    exact ⟨counts, after, hrun, fun h => absurd h (by decide), fun _ => hsynced, hsynced.tables,
      hsynced.siteConfigs⟩

/-! ## The memberships -/

theorem mem_selectUserMemberships {tables : Db lower}
    {m : (_ : Uuid × Uuid) × OrganizationMemberRow} :
    m ∈ tables.selectUserMemberships userId ↔
      tables.organizationMembers.lookup m.1 = some m.2 ∧ m.1.2 = userId ∧
        tables.live userId = true := by
  rw [Db.selectUserMemberships, List.mem_filter, ← Option.mem_def, AList.mem_lookup_iff,
    Bool.and_eq_true, decide_eq_true_eq]
  refine and_congr_right fun _ => and_congr_right fun huser => ?_
  rw [huser]

theorem nodup_selectUserMemberships (tables : Db lower) (userId : Uuid) :
    ((tables.selectUserMemberships userId).map (·.1)).Nodup :=
  List.Nodup.sublist (List.filter_sublist.map _) tables.organizationMembers.nodupKeys

theorem member_eq_some {orgId : Uuid} {row : OrganizationMemberRow} :
    db.member orgId userId = some row ↔
      (⟨(orgId, userId), row⟩ : (_ : Uuid × Uuid) × OrganizationMemberRow) ∈
        db.tables.selectUserMemberships userId := by
  rw [mem_selectUserMemberships, RoleDb.member, findOrganizationMember]
  split
  · rename_i hlive
    simp [hlive]
  · rename_i hdead
    simp [hdead]

theorem member_congr (h : after.tables.live = db.tables.live) {orgId user : Uuid}
    (hlookup : after.tables.organizationMembers.lookup (orgId, user) =
      db.tables.organizationMembers.lookup (orgId, user)) :
    after.member orgId user = db.member orgId user := by
  rw [RoleDb.member, RoleDb.member, findOrganizationMember, findOrganizationMember, h, hlookup]

theorem withoutMemberRole_eq_expectedRoles {settings : RoleSyncSettings}
    (hfield : settings.field.isEmpty = false) {roles : List String} :
    withoutMemberRole roles = expectedRoles mergedClaims settings ↔
      ∀ role, role ≠ orgMemberRole → (role ∈ roles ↔ Granted mergedClaims settings role) := by
  rw [← withoutMemberRole_expectedRoles, withoutMemberRole_eq_iff]
  refine forall₂_congr fun role _ => ?_
  rw [mem_expectedRoles hfield]

theorem toFinset_withoutMemberRole (row : OrganizationMemberRow) :
    (withoutMemberRole row.roles).toFinset = row.explicit := by
  ext role
  rw [List.mem_toFinset, mem_withoutMemberRole, OrganizationMemberRow.explicit, Finset.mem_erase,
    List.mem_toFinset]

theorem countDiff_withoutMemberRole (row row' : OrganizationMemberRow) :
    countDiff (withoutMemberRole row.roles) (withoutMemberRole row'.roles) =
      (gained row.explicit row'.explicit, gained row'.explicit row.explicit) := by
  have hrow := toFinset_withoutMemberRole row
  have hrow' := toFinset_withoutMemberRole row'
  rw [withoutMemberRole, toFinset_uniqueSorted] at hrow hrow'
  rw [withoutMemberRole, withoutMemberRole, countDiff_uniqueSorted, hrow, hrow']

variable [UuidText] {fromStr : SettingsFromStr} {orgId : Uuid} {settings : RoleSyncSettings}
  {row : OrganizationMemberRow} {result : RoleSyncResult}

theorem dueRoles_of_ok (hfor : run.FaultlessFor orgId)
    (hload : (roleSyncSettings fromStr orgId db).1 = .ok settings) (roles : List String) :
    dueRoles fromStr run mergedClaims db orgId roles =
      if settings.field.isEmpty ∨
          withoutMemberRole roles = expectedRoles mergedClaims settings then none
      else some (expectedRoles mergedClaims settings) := by
  rw [dueRoles, hfor.roleSyncSettings, Effect.through_none, hload]

theorem leftRoles_of_for (hfor : run.FaultlessFor orgId) (roles : List String) :
    leftRoles fromStr run mergedClaims db orgId roles =
      (dueRoles fromStr run mergedClaims db orgId roles).getD roles := by
  rw [leftRoles, hfor.updateMemberRoles, carriedOut, Option.all_none, if_pos rfl]

theorem dueRoles_of_skipped (hfor : run.FaultlessFor orgId)
    (hskip : ∀ settings, (roleSyncSettings fromStr orgId db).1 = .ok settings →
      settings.field.isEmpty = true) (roles : List String) :
    dueRoles fromStr run mergedClaims db orgId roles = none := by
  cases hload : (roleSyncSettings fromStr orgId db).1 with
  | error e => rw [dueRoles, hfor.roleSyncSettings, Effect.through_none, hload]
  | ok settings => rw [dueRoles_of_ok hfor hload, if_pos (.inl (hskip settings hload))]

/-- The row that is left of one whose settings name a field. -/
theorem synced_leftRoles (hfor : run.FaultlessFor orgId)
    (hload : (roleSyncSettings fromStr orgId db).1 = .ok settings)
    (hfield : settings.field.isEmpty = false) (row : OrganizationMemberRow) :
    Synced mergedClaims settings row
      { row with roles := leftRoles fromStr run mergedClaims db orgId row.roles } := by
  refine ⟨rfl, fun role => ?_⟩
  have hmember : ¬ Granted mergedClaims settings orgMemberRole := fun h => h.1 rfl
  rw [leftRoles_of_for hfor, dueRoles_of_ok hfor hload]
  simp only [hfield, Bool.false_eq_true, false_or]
  split
  · -- the explicit roles are the granted ones: the row stays
    rename_i hsame
    have hexplicit := (withoutMemberRole_eq_expectedRoles hfield).mp hsame
    rw [Option.getD_none]
    by_cases hrole : role = orgMemberRole
    · rw [hrole, or_iff_right hmember]
      exact ⟨fun h => ⟨rfl, h, hexplicit⟩, fun h => h.2.1⟩
    · simp [hrole, hexplicit role hrole]
  · rename_i hne
    rw [Option.getD_some, mem_expectedRoles hfield]
    refine (or_iff_left ?_).symm
    rintro ⟨-, -, hexplicit⟩
    exact hne ((withoutMemberRole_eq_expectedRoles hfield).mpr hexplicit)

/-- What is stored after the pass is no longer due. -/
theorem dueRoles_leftRoles (hfor : run.FaultlessFor orgId) (hfor' : run'.FaultlessFor orgId)
    (roles : List String) :
    dueRoles fromStr run' mergedClaims db orgId
      (leftRoles fromStr run mergedClaims db orgId roles) = none := by
  rw [leftRoles_of_for hfor]
  cases hload : (roleSyncSettings fromStr orgId db).1 with
  | error e =>
    rw [dueRoles, hfor'.roleSyncSettings, Effect.through_none, hload]
  | ok settings =>
    rw [dueRoles_of_ok hfor hload, dueRoles_of_ok hfor' hload]
    by_cases hsettled : settings.field.isEmpty ∨
        withoutMemberRole roles = expectedRoles mergedClaims settings
    · rw [if_pos hsettled, Option.getD_none, if_pos hsettled]
    · rw [if_neg hsettled, Option.getD_some,
        if_pos (.inr (withoutMemberRole_expectedRoles mergedClaims settings))]

theorem countedRoles_eq (hfor : run.FaultlessFor orgId) (row row' : OrganizationMemberRow)
    (hleft : row'.roles = leftRoles fromStr run mergedClaims db orgId row.roles) :
    countedRoles fromStr run mergedClaims db orgId row.roles =
      (gained row.explicit row'.explicit, gained row'.explicit row.explicit) := by
  rw [leftRoles_of_for hfor] at hleft
  unfold countedRoles
  cases hdue : dueRoles fromStr run mergedClaims db orgId row.roles with
  | none =>
    rw [hdue, Option.getD_none] at hleft
    have hsame : row'.explicit = row.explicit := by
      rw [OrganizationMemberRow.explicit, OrganizationMemberRow.explicit, hleft]
    rw [hsame, gained_self]
  | some expected =>
    rw [hdue, Option.getD_some] at hleft
    simp only [hfor.updateMemberRoles, Option.isNone_none, if_true]
    rw [← countDiff_withoutMemberRole, hleft]
    have hexpected : ∃ settings, expected = expectedRoles mergedClaims settings := by
      unfold dueRoles at hdue
      split at hdue
      · cases hdue
      · split at hdue
        · cases hdue
        · exact ⟨_, (Option.some.inj hdue).symm⟩
    obtain ⟨settings, rfl⟩ := hexpected
    rw [withoutMemberRole_expectedRoles]

/-! ## The pass -/

/-- The stages of the pass, each with the database that it leaves. -/
theorem reconcileRoles_ok (hpart : run.Partial) (fromStr : SettingsFromStr) (userId : Uuid)
    (mergedClaims : Json) (rawSiteClaims : List String) (syncSiteWide : Bool)
    (db : RoleDb lower) :
    ∃ site mid after, syncSite run userId rawSiteClaims syncSiteWide db = (.ok site, mid) ∧
      reconcileRoles fromStr run userId mergedClaims rawSiteClaims syncSiteWide db =
        (.ok
          { siteAdded := site.1
            siteRemoved := site.2
            orgAdded := ((db.tables.selectUserMemberships userId).map fun m =>
              (countedRoles fromStr run mergedClaims db m.1.1 m.2.roles).1).sum
            orgRemoved := ((db.tables.selectUserMemberships userId).map fun m =>
              (countedRoles fromStr run mergedClaims db m.1.1 m.2.roles).2).sum }, after) ∧
      SameButMembers mid after ∧
      (∀ m ∈ db.tables.selectUserMemberships userId,
        after.tables.organizationMembers.lookup m.1 =
          some { m.2 with roles := leftRoles fromStr run mergedClaims db m.1.1 m.2.roles }) ∧
      ∀ key, key ∉ (db.tables.selectUserMemberships userId).map (·.1) →
        after.tables.organizationMembers.lookup key =
          db.tables.organizationMembers.lookup key := by
  obtain ⟨site, mid, hsite, -, -, htables, hconfigs⟩ :=
    syncSite_ok hpart.findUser userId rawSiteClaims syncSiteWide db
  have hdue := dueRoles_congr fromStr run mergedClaims hconfigs
  have hleft : leftRoles fromStr run mergedClaims mid = leftRoles fromStr run mergedClaims db := by
    funext orgId roles
    rw [leftRoles, leftRoles, hdue]
  have hcounted : countedRoles fromStr run mergedClaims mid =
      countedRoles fromStr run mergedClaims db := by
    funext orgId roles
    rw [countedRoles, countedRoles, hdue]
  obtain ⟨after, hloop, hsame, hdone, hkept⟩ := foldlM_syncMembership fromStr run mergedClaims
    (db.tables.selectUserMemberships userId) (nodup_selectUserMemberships _ _) mid
    (fun m hm => by rw [htables]; exact (mem_selectUserMemberships.mp hm).1)
    (fun m hm => (mem_selectUserMemberships.mp hm).2.1)
    { siteAdded := site.1
      siteRemoved := site.2 }
  rw [hcounted] at hloop
  rw [hleft] at hdone
  rw [htables] at hkept
  refine ⟨site, mid, after, hsite, ?_, hsame, hdone, hkept⟩
  refine (Effect.bind_ok hsite).trans ?_
  rw [hpart.listMemberships, Effect.through_none]
  have hlisted : listMemberships userId mid =
      (.ok (db.tables.selectUserMemberships userId), mid) := by
    rw [listMemberships, htables]
  rw [Effect.bind_ok hlisted, hloop]
  simp only [Nat.zero_add]

theorem syncRoles_eq_ok :
    syncRoles fromStr run userId mergedClaims rawSiteClaims syncSiteWide db =
        (.ok result, after) ↔
      reconcileRoles fromStr run userId mergedClaims rawSiteClaims syncSiteWide db =
        (.ok result, after) := by
  unfold syncRoles Effect.mapError
  rcases reconcileRoles fromStr run userId mergedClaims rawSiteClaims syncSiteWide db with
    ⟨e | result', after'⟩
  · simp
  · simp

/-- What the pass leaves of a membership that was stored, for one that was not, and elsewhere. -/
structure RolesLeft (fromStr : SettingsFromStr) (run : RoleRun) (userId : Uuid)
    (mergedClaims : Json) (db after : RoleDb lower) : Prop where
  live : after.tables.live = db.tables.live
  siteConfigs : after.siteConfigs = db.siteConfigs
  stored : ∀ orgId row, db.member orgId userId = some row →
    after.member orgId userId =
      some { row with roles := leftRoles fromStr run mergedClaims db orgId row.roles }
  missing : ∀ orgId, db.member orgId userId = none → after.member orgId userId = none
  others : ∀ orgId user, user ≠ userId → after.member orgId user = db.member orgId user

theorem rolesLeft_of_lookup (hlive : after.tables.live = db.tables.live)
    (hconfigs : after.siteConfigs = db.siteConfigs)
    (hdone : ∀ m ∈ db.tables.selectUserMemberships userId,
      after.tables.organizationMembers.lookup m.1 =
        some { m.2 with roles := leftRoles fromStr run mergedClaims db m.1.1 m.2.roles })
    (hkept : ∀ key, key ∉ (db.tables.selectUserMemberships userId).map (·.1) →
      after.tables.organizationMembers.lookup key =
        db.tables.organizationMembers.lookup key) :
    RolesLeft fromStr run userId mergedClaims db after := by
  refine ⟨hlive, hconfigs, fun orgId row hrow => ?_, fun orgId hnone => ?_,
    fun orgId user hne => member_congr hlive (hkept _ ?_)⟩
  · have hmem := member_eq_some.mp hrow
    rw [member_eq_some, mem_selectUserMemberships, hlive]
    exact ⟨hdone _ hmem, (mem_selectUserMemberships.mp hmem).2⟩
  · rw [← hnone]
    refine member_congr hlive (hkept _ fun hkey => ?_)
    obtain ⟨⟨⟨org, user⟩, row⟩, hmem, heq⟩ := List.mem_map.mp hkey
    cases heq
    rw [member_eq_some.mpr hmem] at hnone
    cases hnone
  · intro hkey
    obtain ⟨m, hmem, heq⟩ := List.mem_map.mp hkey
    rw [← (mem_selectUserMemberships.mp hmem).2.1, heq] at hne
    exact hne rfl

/-- The pass, with what it leaves of the memberships and of the site roles. -/
theorem syncRoles_ok (hpart : run.Partial) (fromStr : SettingsFromStr) (userId : Uuid)
    (mergedClaims : Json) (rawSiteClaims : List String) (syncSiteWide : Bool)
    (db : RoleDb lower) :
    ∃ result after,
      syncRoles fromStr run userId mergedClaims rawSiteClaims syncSiteWide db =
        (.ok result, after) ∧
      RolesLeft fromStr run userId mergedClaims db after ∧
      (syncSiteWide = false →
        after.rbacRoles = db.rbacRoles ∧ result.siteAdded = 0 ∧ result.siteRemoved = 0) ∧
      (syncSiteWide = true → run.fault .updateUserRoles = none →
        (∀ roles, after.siteRoles userId = some roles →
          ∀ role, role ∈ roles ↔ role ∈ rawSiteClaims) ∧
        result.siteAdded = gained ((db.siteRoles userId).getD []).toFinset
          ((after.siteRoles userId).getD []).toFinset ∧
        result.siteRemoved = gained ((after.siteRoles userId).getD []).toFinset
          ((db.siteRoles userId).getD []).toFinset) ∧
      result.orgAdded = ((db.tables.selectUserMemberships userId).map fun m =>
        (countedRoles fromStr run mergedClaims db m.1.1 m.2.roles).1).sum ∧
      result.orgRemoved = ((db.tables.selectUserMemberships userId).map fun m =>
        (countedRoles fromStr run mergedClaims db m.1.1 m.2.roles).2).sum := by
  obtain ⟨site, mid, after, hsite, hrun, hsame, hdone, hkept⟩ := reconcileRoles_ok hpart
    fromStr userId mergedClaims rawSiteClaims syncSiteWide db
  obtain ⟨site', mid', hsite', hoff, hon, htables, hconfigs⟩ :=
    syncSite_ok hpart.findUser userId rawSiteClaims syncSiteWide db
  rw [hsite] at hsite'
  cases hsite'
  have hroles : after.rbacRoles = mid.rbacRoles := by rw [hsame]
  have hlive : after.tables.live = db.tables.live := by
    rw [hsame, ← htables]
    rfl
  have hsiteRoles : after.siteRoles userId = mid.siteRoles userId := by
    rw [RoleDb.siteRoles, RoleDb.siteRoles, hroles, hlive, htables]
  refine ⟨_, after, syncRoles_eq_ok.mpr hrun,
    rolesLeft_of_lookup hlive (hsame.siteConfigs.trans hconfigs) hdone hkept, ?_, ?_, rfl, rfl⟩
  · intro hwide
    obtain ⟨rfl, rfl⟩ := hoff hwide
    exact ⟨hroles, rfl, rfl⟩
  · intro hwide hfault
    have hsynced := hon hwide
    rw [hsiteRoles]
    have hcounts := hsynced.counts hfault
    exact ⟨hsynced.roles hfault, congrArg Prod.fst hcounts, congrArg Prod.snd hcounts⟩

theorem syncRoles_synced (hpart : run.Partial) (fromStr : SettingsFromStr) (userId : Uuid)
    (mergedClaims : Json) (rawSiteClaims : List String) (syncSiteWide : Bool)
    (db : RoleDb lower) :
    ∃ result after,
      syncRoles fromStr run userId mergedClaims rawSiteClaims syncSiteWide db =
        (.ok result, after) ∧
      RolesSynced fromStr run userId mergedClaims rawSiteClaims syncSiteWide db after := by
  obtain ⟨result, after, hrun, hleft, hoff, hon, -, -⟩ := syncRoles_ok hpart fromStr userId
    mergedClaims rawSiteClaims syncSiteWide db
  refine ⟨result, after, hrun, ?_, ?_, hleft.others, fun hwide => (hoff hwide).1,
    fun hwide hfault => (hon hwide hfault).1⟩
  · intro orgId settings row hfor hload hfield hrow
    exact ⟨_, hleft.stored orgId row hrow, synced_leftRoles hfor hload hfield row⟩
  · intro orgId hfor hskip
    cases hrow : db.member orgId userId with
    | none => exact hleft.missing orgId hrow
    | some row =>
      rw [hleft.stored orgId row hrow, leftRoles_of_for hfor, dueRoles_of_skipped hfor hskip,
        Option.getD_none]

theorem syncRoles_counted (hfault : run.Faultless)
    (hrun : syncRoles fromStr run userId mergedClaims rawSiteClaims syncSiteWide db =
      (.ok result, after)) :
    RolesCounted userId db after result := by
  obtain ⟨hpart, hfor⟩ := hfault.partial_for
  obtain ⟨result', after', hrun', hleft, hoff, hon, hadded, hremoved⟩ := syncRoles_ok hpart
    fromStr userId mergedClaims rawSiteClaims syncSiteWide db
  rw [hrun] at hrun'
  cases hrun'
  have hcounted : ∀ m ∈ db.tables.selectUserMemberships userId,
      countedRoles fromStr run mergedClaims db m.1.1 m.2.roles =
        (gained m.2.explicit ((after.member m.1.1 userId).elim ∅ (·.explicit)),
          gained ((after.member m.1.1 userId).elim ∅ (·.explicit)) m.2.explicit) := by
    rintro ⟨⟨orgId, user⟩, row⟩ hm
    obtain ⟨hlookup, huser, hlive⟩ := mem_selectUserMemberships.mp hm
    cases huser
    have hrow := hleft.stored orgId row (member_eq_some.mpr hm)
    rw [countedRoles_eq (hfor orgId) row
      { row with roles := leftRoles fromStr run mergedClaims db orgId row.roles } rfl, hrow]
    rfl
  have hsite : result.siteAdded = gained ((db.siteRoles userId).getD []).toFinset
        ((after.siteRoles userId).getD []).toFinset ∧
      result.siteRemoved = gained ((after.siteRoles userId).getD []).toFinset
        ((db.siteRoles userId).getD []).toFinset := by
    cases hwide : syncSiteWide with
    | false =>
      obtain ⟨hroles, hsiteAdded, hsiteRemoved⟩ := hoff hwide
      have hsiteRoles : after.siteRoles userId = db.siteRoles userId := by
        rw [RoleDb.siteRoles, RoleDb.siteRoles, hroles, hleft.live]
      rw [hsiteAdded, hsiteRemoved, hsiteRoles, gained_self]
      exact ⟨rfl, rfl⟩
    | true => exact (hon hwide (hfault _)).2
  refine ⟨hsite.1, hsite.2, ?_, ?_⟩
  · rw [hadded]
    exact congrArg List.sum (List.map_congr_left fun m hm => congrArg Prod.fst (hcounted m hm))
  · rw [hremoved]
    exact congrArg List.sum (List.map_congr_left fun m hm => congrArg Prod.snd (hcounted m hm))

theorem syncRoles_again (hfault : run.Faultless) (hfault' : run'.Faultless)
    (hrun : syncRoles fromStr run userId mergedClaims rawSiteClaims syncSiteWide db =
      (.ok result, after)) :
    syncRoles fromStr run' userId mergedClaims rawSiteClaims syncSiteWide after =
      (.ok {}, after) := by
  obtain ⟨hpart, hfor⟩ := hfault.partial_for
  obtain ⟨-, hfor'⟩ := hfault'.partial_for
  obtain ⟨result', after', hrun', hleft, hoff, hon, -, -⟩ := syncRoles_ok hpart
    fromStr userId mergedClaims rawSiteClaims syncSiteWide db
  rw [hrun] at hrun'
  cases hrun'
  have hsite : syncSite run' userId rawSiteClaims syncSiteWide after = (.ok (0, 0), after) := by
    cases hwide : syncSiteWide with
    | false => rfl
    | true => exact syncSiteWideRoles_settled (hfault' _) (hon hwide (hfault _)).1
  have hdue : ∀ m ∈ after.tables.selectUserMemberships userId,
      dueRoles fromStr run' mergedClaims after m.1.1 m.2.roles = none := by
    rintro ⟨⟨orgId, user⟩, row'⟩ hm
    obtain ⟨-, huser, -⟩ := mem_selectUserMemberships.mp hm
    obtain rfl : userId = user := huser.symm
    have hrow' := member_eq_some.mpr hm
    rw [dueRoles_congr fromStr run' mergedClaims hleft.siteConfigs]
    cases hrow : db.member orgId userId with
    | none =>
      rw [hleft.missing orgId hrow] at hrow'
      cases hrow'
    | some row =>
      rw [hleft.stored orgId row hrow] at hrow'
      cases hrow'
      exact dueRoles_leftRoles (hfor orgId) (hfor' orgId) row.roles
  refine syncRoles_eq_ok.mpr ((Effect.bind_ok hsite).trans ?_)
  rw [hfault' .listMemberships, Effect.through_none]
  exact (Effect.bind_ok rfl).trans (foldlM_syncMembership_settled _ after hdue _)

/-! ## The order of the claims -/

omit [UuidText] in
theorem expectedRoles_of_sameClaims (h : SameClaims mergedClaims mergedClaims') :
    expectedRoles mergedClaims' = expectedRoles mergedClaims := by
  funext settings
  cases hfield : settings.field.isEmpty with
  | true =>
    have hnone : ∀ claims, parseRoleClaims settings.field claims = [] := fun claims => by
      rw [parseRoleClaims, if_pos hfield]
    rw [expectedRoles, expectedRoles, hnone, hnone]
  | false =>
    refine uniqueSorted_eq_iff.mpr fun role => ?_
    simp only [List.mem_filter, mem_expandMapping, mem_parseRoleClaims hfield, h settings.field]

theorem syncMembership_of_sameClaims (h : SameClaims mergedClaims mergedClaims') :
    (syncMembership fromStr run userId mergedClaims' :
      RoleSyncResult → _ → Effect (RoleDb lower) StorageError RoleSyncResult) =
      syncMembership fromStr run userId mergedClaims := by
  have hexpected := expectedRoles_of_sameClaims h
  have horg : ∀ (orgId : Uuid) (settings : RoleSyncSettings) (roles : List String),
      (syncOrgRoles run userId orgId mergedClaims' settings roles :
        Effect (RoleDb lower) StorageError (Nat × Nat)) =
        syncOrgRoles run userId orgId mergedClaims settings roles := by
    intro orgId settings roles
    change applyRoles _ (expectedRoles mergedClaims' settings) (Effect.through _
      (updateOrganizationMemberRoles orgId userId (expectedRoles mergedClaims' settings))) = _
    rw [hexpected]
    rfl
  funext result m
  unfold syncMembership
  simp only [horg]

theorem syncRoles_of_sameClaims (h : SameClaims mergedClaims mergedClaims')
    (hsite : ∀ raw, raw ∈ rawSiteClaims' ↔ raw ∈ rawSiteClaims) :
    syncRoles fromStr run userId mergedClaims' rawSiteClaims' syncSiteWide db =
      syncRoles fromStr run userId mergedClaims rawSiteClaims syncSiteWide db := by
  have hraw : uniqueSorted rawSiteClaims' = uniqueSorted rawSiteClaims :=
    uniqueSorted_eq_iff.mpr hsite
  unfold syncRoles reconcileRoles syncSite syncSiteWideRoles
  simp only [syncMembership_of_sameClaims h, hraw]

/-- One pass gives each organization that names a field, and whose calls do not fail, the granted
roles. -/
theorem syncRoles_converges (fromStr : SettingsFromStr) (userId : Uuid) (mergedClaims : Json)
    (rawSiteClaims : List String) (syncSiteWide : Bool) (db : RoleDb lower) :
    RolesConverge fromStr userId mergedClaims rawSiteClaims syncSiteWide db where
  synced _ hpart := syncRoles_synced hpart fromStr userId mergedClaims rawSiteClaims
    syncSiteWide db
  counted _ hfault _ _ hrun := syncRoles_counted hfault hrun
  again _ _ hfault hfault' _ _ hrun := syncRoles_again hfault hfault' hrun
  permuted _ _ _ hclaims hsite := syncRoles_of_sameClaims hclaims hsite

/-! ## A member role that is stored -/

omit [UuidText] in
theorem oneDefault_single : ∀ id id' row row',
    (AList.insert ⟨10⟩ { isDefault := true, deleted := false } ∅ :
      HashMap Uuid OrganizationRow).lookup id = some row →
    (AList.insert ⟨10⟩ { isDefault := true, deleted := false } ∅ :
      HashMap Uuid OrganizationRow).lookup id' = some row' →
    row.isDefault = true → row'.isDefault = true → id = id' := by
  intro id id' row row' hrow hrow' hdefault hdefault'
  simp only [HashMap.lookup_insert_ite, AList.lookup_empty] at hrow hrow'
  grind

omit [UuidText] in
theorem oneName_noGroup : ∀ groupId groupId' row row',
    (∅ : HashMap Uuid GroupRow).lookup groupId = some row →
    (∅ : HashMap Uuid GroupRow).lookup groupId' = some row' →
    row.organizationId = row'.organizationId → id row.name = id row'.name → groupId = groupId' := by
  intro groupId groupId' row row' hrow
  cases hrow

omit [UuidText] in
theorem memberOfGroup_noGroup : ∀ m, m ∈ (∅ : HashSet (Uuid × Uuid)) →
    ∃ row, (∅ : HashMap Uuid GroupRow).lookup m.1 = some row := by
  intro m hm
  cases hm

/-- A user whose membership names `roles`, in an organization whose settings are stored. -/
def memberWith (roles : List String) : RoleDb id where
  tables :=
    { users := AList.insert ⟨1⟩ { deleted := false } ∅
      organizations := AList.insert ⟨10⟩ { isDefault := true, deleted := false } ∅
      organizationMembers :=
        AList.insert (⟨10⟩, ⟨1⟩) { createdAt := 0, roles, isIdpControlled := false } ∅
      groups := ∅
      groupMembers := ∅
      oneDefault := oneDefault_single
      oneName := oneName_noGroup
      memberOfGroup := memberOfGroup_noGroup }
  rbacRoles := ∅
  siteConfigs := AList.insert (@roleSyncSettingsKey Uuid.hyphenated ⟨10⟩)
    "\x7b\"field\":\"roles\"\x7d" ∅

def rolesField : RoleSyncSettings where
  field := "roles"

/-- The claims of a user with one role. -/
def auditorClaims : Json := .object [("roles", .array [.string "auditor"])]

omit [UuidText] in
/-- The membership names the granted role and the implicit one, which the pass does not take
away. -/
theorem stored_member_role_stays :
    ¬ ∀ row', (@syncRoles id Uuid.hyphenated (fun _ => .ok rolesField) ⟨fun _ => none⟩ ⟨1⟩
        auditorClaims [] false (memberWith [orgMemberRole, "auditor"])).2.member ⟨10⟩ ⟨1⟩ =
          some row' →
      ∀ role, role ∈ row'.roles ↔ Granted auditorClaims rolesField role := by
  intro h
  have hstays : (@syncRoles id Uuid.hyphenated (fun _ => .ok rolesField) ⟨fun _ => none⟩ ⟨1⟩
      auditorClaims [] false (memberWith [orgMemberRole, "auditor"])).2.member ⟨10⟩ ⟨1⟩ =
        some { createdAt := 0, roles := [orgMemberRole, "auditor"], isIdpControlled := false } := by
    decide +kernel
  exact ((h _ hstays orgMemberRole).mp List.mem_cons_self).1 rfl

end Coderd.IdpSync
