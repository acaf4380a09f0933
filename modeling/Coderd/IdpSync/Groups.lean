import Coderd.IdpSync.Schema

namespace Coderd.IdpSync

open Coderd.Foundation Coderd.DbAuthz

variable {lower : String → String}

/-! ## The store -/

namespace Db

def selectGroups (db : Db lower) (organizationId : Uuid) : List ((_ : Uuid) × GroupRow) :=
  db.groups.entries.filter fun e => decide (e.2.organizationId = organizationId)

/-- The row of the group whose name differs at most in case. -/
def selectGroupByName (db : Db lower) (organizationId : Uuid) (name : String) :
    Option ((_ : Uuid) × GroupRow) :=
  db.groups.entries.find? fun e =>
    decide (e.2.organizationId = organizationId) && decide (lower e.2.name = lower name)

/-- Deleted users are not shown. -/
def selectGroupMembers (db : Db lower) (groupId : Uuid) : List Uuid :=
  (db.groupMembers.toList.filter fun m => decide (m.1 = groupId) && db.live m.2).map (·.2)

end Db

def listGroups (organizationId : Uuid) :
    Effect (Db lower) StorageError (List ((_ : Uuid) × GroupRow)) := fun db =>
  (.ok (db.selectGroups organizationId), db)

def findGroupByName (organizationId : Uuid) (name : String) :
    Effect (Db lower) StorageError (Option ((_ : Uuid) × GroupRow)) := fun db =>
  (.ok (db.selectGroupByName organizationId name), db)

def listGroupMembers (groupId : Uuid) : Effect (Db lower) StorageError (List Uuid) := fun db =>
  (.ok (db.selectGroupMembers groupId), db)

structure CreateGroupInput where
  name : String
  displayName : String
  organizationId : Uuid
  avatarUrl : String
  quotaAllowance : Int
  source : Option String

def CreateGroupInput.row (input : CreateGroupInput) : GroupRow where
  name := input.name
  displayName := input.displayName
  organizationId := input.organizationId
  avatarUrl := input.avatarUrl
  quotaAllowance := input.quotaAllowance
  source := input.source.getD "user"

theorem selectGroupByName_eq_none {db : Db lower} {organizationId : Uuid} {name : String} :
    db.selectGroupByName organizationId name = none ↔
      ∀ id row, db.groups.lookup id = some row → row.organizationId = organizationId →
        lower row.name ≠ lower name := by
  simp only [Db.selectGroupByName, List.find?_eq_none, Bool.and_eq_true, decide_eq_true_eq,
    not_and]
  constructor
  · intro h id row hrow
    exact h ⟨id, row⟩ (AList.mem_lookup_iff.mp hrow)
  · intro h e he
    exact h e.1 e.2 (AList.mem_lookup_iff.mpr he)

/-- A database with one more group, under an id and a name that are free. -/
def Db.addGroup (db : Db lower) (id : Uuid) (row : GroupRow) (hid : db.groups.lookup id = none)
    (hname : db.selectGroupByName row.organizationId row.name = none) : Db lower :=
  { db with
    groups := db.groups.insert id row
    oneName := by
      have hfree := selectGroupByName_eq_none.mp hname
      intro id₁ id₂ row₁ row₂ hrow₁ hrow₂ horganization hlower
      rw [HashMap.lookup_insert_ite] at hrow₁ hrow₂
      split at hrow₁ <;> split at hrow₂
      · rename_i h₁ h₂
        rw [h₁, h₂]
      · cases hrow₁
        exact absurd hlower.symm (hfree id₂ row₂ hrow₂ horganization.symm)
      · cases hrow₂
        exact absurd hlower (hfree id₁ row₁ hrow₁ horganization)
      · exact db.oneName id₁ id₂ row₁ row₂ hrow₁ hrow₂ horganization hlower
    memberOfGroup := by
      intro m hm
      obtain ⟨row', hrow'⟩ := db.memberOfGroup m hm
      refine ⟨row', ?_⟩
      rw [HashMap.lookup_insert_ite, if_neg, hrow']
      intro heq
      rw [heq, hid] at hrow'
      cases hrow' }

section

variable {db : Db lower} {id : Uuid} {row : GroupRow} (hid : db.groups.lookup id = none)
  (hname : db.selectGroupByName row.organizationId row.name = none)

theorem lookup_addGroup (id' : Uuid) :
    (db.addGroup id row hid hname).groups.lookup id' =
      if id' = id then some row else db.groups.lookup id' :=
  HashMap.lookup_insert_ite _ _ _ _

theorem lookup_addGroup_self : (db.addGroup id row hid hname).groups.lookup id = some row := by
  rw [lookup_addGroup, if_pos rfl]

/-- The groups that are there stay. -/
theorem lookup_addGroup_of_lookup {id' : Uuid} {row' : GroupRow}
    (h : db.groups.lookup id' = some row') :
    (db.addGroup id row hid hname).groups.lookup id' = some row' := by
  rw [lookup_addGroup, if_neg, h]
  rintro rfl
  rw [hid] at h
  cases h

end

/-- The id is drawn by the database. -/
def createGroup (newId : Uuid) (input : CreateGroupInput) :
    Effect (Db lower) StorageError Uuid := fun db =>
  if hname : db.selectGroupByName input.row.organizationId input.row.name = none then
    if hid : db.groups.lookup newId = none then
      if (db.organizations.lookup input.organizationId).isNone then
        (.error foreignKeyViolation, db)
      else (.ok newId, db.addGroup newId input.row hid hname)
    -- a primary key that is taken is reported like a name that is taken
    else (.error (.invalidData "group with this name already exists in the organization"), db)
  else (.error (.invalidData "group with this name already exists in the organization"), db)

def insertGroupMember (groupId userId : Uuid) : Effect (Db lower) StorageError Unit := fun db =>
  if (groupId, userId) ∈ db.groupMembers then
    (.error (.invalidData "user is already a member of this group"), db)
  else if hgroup : (db.groups.lookup groupId).isSome then
    if (db.users.lookup userId).isNone then (.error foreignKeyViolation, db)
    else
      (.ok (),
        { db with
          groupMembers := db.groupMembers.insert (groupId, userId)
          memberOfGroup := by
            intro m hm
            obtain rfl | hold := HashSet.mem_insert.mp hm
            · exact Option.isSome_iff_exists.mp hgroup
            · exact db.memberOfGroup m hold })
  else (.error foreignKeyViolation, db)

def deleteGroupMember (groupId userId : Uuid) : Effect (Db lower) StorageError Bool := fun db =>
  (.ok (decide ((groupId, userId) ∈ db.groupMembers)),
    { db with
      groupMembers := db.groupMembers.remove (groupId, userId)
      memberOfGroup := fun m hm => db.memberOfGroup m (HashSet.mem_remove.mp hm).2 })

/-! ## The sync -/

def idpGroupSource : String := "oidc"

structure GroupSyncSettings where
  field : String
  mapping : HashMap String (List Uuid)
  regexFilter : Option String
  autoCreateMissingGroups : Bool

structure GroupSyncResult where
  added : Nat := 0
  removed : Nat := 0
  created : Nat := 0
  deriving DecidableEq

/-- The calls of a pass to the store. The sets that it walks through have no order, and no call
is made twice. -/
inductive GroupCall where
  | listGroups
  | createGroup (name : String)
  | findGroupByName (name : String)
  | listGroupsAgain
  | listGroupMembers (groupId : Uuid)
  | insertGroupMember (groupId : Uuid)
  | deleteGroupMember (groupId : Uuid)
  deriving DecidableEq

/-- What the code does not decide: the calls that fail, the ids that the database draws, and the
orders in which the sets are walked through. -/
structure GroupRun where
  fault : GroupCall → Option (Effect.Fault StorageError)
  newId : String → Uuid
  nameOrder : List String → List String
  wantedOrder : List Uuid → List Uuid
  currentOrder : List Uuid → List Uuid
  nameOrder_perm : ∀ l, (nameOrder l).Perm l
  wantedOrder_perm : ∀ l, (wantedOrder l).Perm l
  currentOrder_perm : ∀ l, (currentOrder l).Perm l

/-- What the claims ask for: ids by the mapping, or names. -/
structure Wanted where
  ids : HashSet Uuid := ∅
  names : HashSet String := ∅

def expandClaim (filter : Option (String → Bool)) (mapping : HashMap String (List Uuid))
    (wanted : Wanted) (raw : String) : Wanted :=
  if passes filter raw then
    match mapping.lookup raw with
    -- a mapped claim is not looked up as a name besides
    | some ids => { wanted with ids := ids.foldl HashSet.insert wanted.ids }
    | none => { wanted with names := wanted.names.insert raw }
  else wanted

def expandClaims (filter : Option (String → Bool)) (mapping : HashMap String (List Uuid))
    (rawClaims : List String) : Wanted :=
  rawClaims.foldl (expandClaim filter mapping) {}

/-- The ids that are wanted so far, and the number of groups that were created. -/
structure Resolved where
  ids : HashSet Uuid
  created : Nat := 0

def newGroup (organizationId : Uuid) (name : String) : CreateGroupInput where
  name := name
  displayName := ""
  organizationId := organizationId
  avatarUrl := ""
  quotaAllowance := 0
  source := some idpGroupSource

/-- A group that cannot be created may have been created by someone else. -/
def resolveName (run : GroupRun) (organizationId : Uuid) (autoCreateMissingGroups : Bool)
    (existing : List ((_ : Uuid) × GroupRow)) (resolved : Resolved) (name : String) :
    Effect (Db lower) StorageError Resolved :=
  match existing.find? fun g => decide (g.2.name = name) with
  | some group => pure { resolved with ids := resolved.ids.insert group.1 }
  | none =>
    if autoCreateMissingGroups then do
      let group ← Effect.result <| Effect.through (run.fault (.createGroup name))
        (createGroup (run.newId name) (newGroup organizationId name))
      match group with
      | .ok id => pure { ids := resolved.ids.insert id, created := resolved.created + 1 }
      | .error err =>
        -- the names in the table are compared without case here, and exactly above
        let found ← Effect.result <| Effect.through (run.fault (.findGroupByName name))
          (findGroupByName organizationId name)
        match found with
        | .ok (some group) => pure { resolved with ids := resolved.ids.insert group.1 }
        | _ => Effect.fail err
    else pure resolved

/-- The groups that the provider controls, and those of them that the user is in. -/
structure Controlled where
  groups : HashSet Uuid := ∅
  current : HashSet Uuid := ∅

def inspectGroup (run : GroupRun) (userId : Uuid) (controlled : Controlled)
    (group : (_ : Uuid) × GroupRow) : Effect (Db lower) StorageError Controlled :=
  if group.2.source = idpGroupSource then do
    let members ← Effect.through (run.fault (.listGroupMembers group.1)) (listGroupMembers group.1)
    pure
      { groups := controlled.groups.insert group.1
        current :=
          if members.contains userId then controlled.current.insert group.1
          else controlled.current }
  else pure controlled

/-- A membership that cannot be added is logged and left out. -/
def addGroupMember (run : GroupRun) (userId : Uuid) (current : HashSet Uuid) (added : Nat)
    (wanted : Uuid) : Effect (Db lower) StorageError Nat :=
  if wanted ∈ current then pure added
  else do
    -- unlike a removal, this does not ask who controls the group
    let inserted ← Effect.result <| Effect.through (run.fault (.insertGroupMember wanted))
      (insertGroupMember wanted userId)
    match inserted with
    | .ok _ => pure (added + 1)
    | .error _ => pure added

def removeGroupMember (run : GroupRun) (userId : Uuid) (wantedIds idpGroupIds : HashSet Uuid)
    (removed : Nat) (existing : Uuid) : Effect (Db lower) StorageError Nat :=
  if existing ∈ wantedIds ∨ existing ∉ idpGroupIds then pure removed
  else do
    let deleted ← Effect.result <| Effect.through (run.fault (.deleteGroupMember existing))
      (deleteGroupMember existing userId)
    match deleted with
    | .ok true => pure (removed + 1)
    | _ => pure removed

def resolveNames (run : GroupRun) (organizationId : Uuid) (autoCreateMissingGroups : Bool)
    (wanted : Wanted) : Effect (Db lower) StorageError Resolved := do
  let existing ← Effect.through (run.fault .listGroups) (listGroups organizationId)
  (run.nameOrder wanted.names.toList).foldlM
    (resolveName run organizationId autoCreateMissingGroups existing) { ids := wanted.ids }

def inspectGroups (run : GroupRun) (userId organizationId : Uuid) :
    Effect (Db lower) StorageError Controlled := do
  let refreshed ← Effect.through (run.fault .listGroupsAgain) (listGroups organizationId)
  refreshed.foldlM (inspectGroup run userId) {}

/-- The part of `sync_groups` after the filter is compiled. -/
def reconcileGroups (run : GroupRun) (userId organizationId : Uuid)
    (filter : Option (String → Bool)) (rawClaims : List String) (settings : GroupSyncSettings) :
    Effect (Db lower) StorageError GroupSyncResult := do
  let resolved ← resolveNames run organizationId settings.autoCreateMissingGroups
    (expandClaims filter settings.mapping rawClaims)
  let controlled ← inspectGroups run userId organizationId
  let added ← (run.wantedOrder resolved.ids.toList).foldlM
    (addGroupMember run userId controlled.current) 0
  let removed ← (run.currentOrder controlled.current.toList).foldlM
    (removeGroupMember run userId resolved.ids controlled.groups) 0
  pure { added, removed, created := resolved.created }

def syncGroups (regexNew : RegexNew) (run : GroupRun) (userId organizationId : Uuid)
    (rawClaims : List String) (settings : GroupSyncSettings) :
    Effect (Db lower) IdpSyncError GroupSyncResult :=
  if settings.field.isEmpty then pure {}
  else do
    let filter ← Effect.ofExcept (compileFilter regexNew settings.regexFilter)
    (reconcileGroups run userId organizationId filter rawClaims settings).mapError .storage

end Coderd.IdpSync
