import Coderd.Workspaces.Readers

namespace Coderd.Readers

open Coderd.Foundation Coderd.Catalog
open Coderd.CryptoKeys (OffsetDateTime)
open Coderd.Rbac

/-! ## What a response discloses -/

variable {lower : String → String}

/-- The job is that of a build of the workspace. -/
def ReaderDb.RunsFor (db : ReaderDb lower) (workspaceId jobId : Uuid) : Prop :=
  ∃ buildId build, db.builds.lookup buildId = some build ∧ build.workspaceId = workspaceId ∧
    build.jobId = some jobId

/-- The agent was made by a build of the workspace. -/
def ReaderDb.AgentOf (db : ReaderDb lower) (workspaceId agentId : Uuid) : Prop :=
  ∃ agent resource, db.agents.lookup agentId = some agent ∧
    db.resources.lookup agent.resourceId = some resource ∧ db.RunsFor workspaceId resource.jobId

/-- The response has a row of the workspace: its own one, or one of its builds, of their jobs, of
their agents or of its ports. -/
inductive Shows (db : ReaderDb lower) (id : Uuid) : Response → Prop
  | workspaces {items : List WorkspaceRecord} {count : Nat} {w : WorkspaceRecord} (hmem : w ∈ items)
      (hid : w.id = id) : Shows db id (.workspaces items count)
  | workspace {w : WorkspaceRecord} (hid : w.id = id) : Shows db id (.workspace w)
  | watch {events : List Sse} {w : WorkspaceRecord} (hmem : .data w ∈ events) (hid : w.id = id) :
      Shows db id (.watch events)
  | builds {items : List WorkspaceBuildRecord} {b : WorkspaceBuildRecord} (hmem : b ∈ items)
      (hof : b.workspaceId = id) : Shows db id (.builds items)
  | build {b : WorkspaceBuildRecord} (hof : b.workspaceId = id) : Shows db id (.build b)
  | logs {items : List (Int × ProvisionerJobLogRow)} {l : Int × ProvisionerJobLogRow}
      (hmem : l ∈ items) (hof : db.RunsFor id l.2.jobId) : Shows db id (.logs items)
  | parameters {items : List ((Uuid × String) × String)} {p : (Uuid × String) × String}
      (hmem : p ∈ items) {build : WorkspaceBuildRow} (hbuild : db.builds.lookup p.1.1 = some build)
      (hof : build.workspaceId = id) : Shows db id (.parameters items)
  | state {b : WorkspaceBuildRecord} {bytes : List UInt8} (hof : b.workspaceId = id) :
      Shows db id (.state b bytes)
  | timings {provisioner : List ProvisionerJobTimingRecord}
      {agentScript : List WorkspaceAgentScriptTimingRow} {t : ProvisionerJobTimingRecord}
      (hmem : t ∈ provisioner) (hof : db.RunsFor id t.jobId) :
      Shows db id (.timings provisioner agentScript)
  | scriptTimings {provisioner : List ProvisionerJobTimingRecord}
      {agentScript : List WorkspaceAgentScriptTimingRow} {t : WorkspaceAgentScriptTimingRow}
      (hmem : t ∈ agentScript) (hof : db.AgentOf id t.workspaceAgentId) :
      Shows db id (.timings provisioner agentScript)
  | shares {items : List ((Uuid × String × Int) × PortShareRow)}
      {s : (Uuid × String × Int) × PortShareRow} (hmem : s ∈ items) (hof : s.1.1 = id) :
      Shows db id (.shares items)

inductive Endpoint where
  | listWorkspaces
  | getWorkspace
  | getUserWorkspaceByName
  | getUserWorkspaceBuildByNumber
  | listWorkspaceBuilds
  | getWorkspaceBuild
  | getWorkspaceBuildLogs
  | getWorkspaceBuildParameters
  | getWorkspaceBuildState
  | getWorkspaceTimings
  | listWorkspacePortShares
  | getWorkspaceWatch
  deriving DecidableEq

def Request.endpoint : Request lower → Endpoint
  | .listWorkspaces _ => .listWorkspaces
  | .getWorkspace _ => .getWorkspace
  | .getUserWorkspaceByName _ _ => .getUserWorkspaceByName
  | .getUserWorkspaceBuildByNumber _ _ _ => .getUserWorkspaceBuildByNumber
  | .listWorkspaceBuilds _ _ _ => .listWorkspaceBuilds
  | .getWorkspaceBuild _ => .getWorkspaceBuild
  | .getWorkspaceBuildLogs _ _ => .getWorkspaceBuildLogs
  | .getWorkspaceBuildParameters _ => .getWorkspaceBuildParameters
  | .getWorkspaceBuildState _ => .getWorkspaceBuildState
  | .getWorkspaceTimings _ => .getWorkspaceTimings
  | .listWorkspacePortShares _ => .listWorkspacePortShares
  | .getWorkspaceWatch _ _ => .getWorkspaceWatch

variable [UuidText]

def Readable (actor : Actor) (id ownerId organizationId : Uuid) : Prop :=
  authorize actor .read (workspaceObject id ownerId organizationId) = .ok ()

/-- Whatever the tables hold and the request names, the response has only rows of workspaces that
the actor may read, of those that are not deleted. -/
def Confined (lower : String → String) (config : Config) (actor : Actor) (endpoint : Endpoint) :
    Prop :=
  ∀ (db : ReaderDb lower) (request : Request lower) (id : Uuid) (row : WorkspaceRow),
    request.endpoint = endpoint → db.findWorkspaceById id = some row →
    Shows db id (handle config actor db request) → Readable actor id row.ownerId row.organizationId

/-! ## The one check -/

/-- Reading is not what the bans are about. -/
theorem not_banApplies_read {actor : Actor} {object : Object} :
    ¬ BanApplies actor .read object := by
  rintro ⟨-, hban, -⟩
  simp [banActions] at hban

theorem allowsObject_of_owner {scope : Scope} {id ownerId : Uuid}
    (h : scope.allowsObject ((Object.new .workspace).withOwner ownerId) = true) :
    scope.allowsObject (((Object.new .workspace).withId id).withOwner ownerId) = true := by
  unfold Scope.allowsObject at h ⊢
  rw [Bool.or_eq_true] at h ⊢
  refine h.imp_right fun hany => ?_
  obtain ⟨entry, hmem, hentry⟩ := List.any_eq_true.mp hany
  refine List.any_eq_true.mpr ⟨entry, hmem, ?_⟩
  rw [decide_eq_true_iff] at hentry ⊢
  refine hentry.imp_right fun htype => ⟨htype.1, .inl (htype.2.resolve_right ?_)⟩
  simp [Object.new, Object.withOwner]

/-- The check of the owner alone is as strict as the one of the workspace. -/
theorem readable_of_owner {actor : Actor} {ownerId : Uuid}
    (h : authorize actor .read ((Object.new .workspace).withOwner ownerId) = .ok ())
    (id organizationId : Uuid) : Readable actor id ownerId organizationId := by
  have hid : authorize actor .read (((Object.new .workspace).withId id).withOwner ownerId) =
      .ok () := by
    obtain ⟨hallows, hrest⟩ := authorize_ok_iff.mp h
    exact authorize_ok_iff.mpr ⟨allowsObject_of_owner hallows, hrest⟩
  exact (authorize_inOrg_iff rfl rfl hid).mpr not_banApplies_read

/-! ## The condition -/

/-- Every way in which the filter of the list lets a workspace through has what it takes for
granted. -/
def FilterSound (actor : Actor) : Prop :=
  ∀ id ownerId organizationId (s : SqlFilterBuilder.Shortcut),
    s.Selects (workspaceFilter actor) (columnsOf id ownerId organizationId) →
      s.Presumes (workspaceFilter actor) (columnsOf id ownerId organizationId)

/-- There is no workspace that the actor may not read. -/
def ReadsAll (actor : Actor) : Prop :=
  ∀ id ownerId organizationId, Readable actor id ownerId organizationId

/-- The endpoints that ask the policy are left to it; before the others only an actor that may
read everything is harmless. -/
def Guarded (config : Config) (actor : Actor) : Endpoint → Prop
  | .getUserWorkspaceByName => True
  | .listWorkspaces =>
    if config.rbacSqlFilterEnabled = true then FilterSound actor else ReadsAll actor
  | _ => ReadsAll actor

/-! ## The list -/

omit [UuidText] in
theorem selects_of_authorizes {filter : WorkspaceListFilter} {authz : SqlFilter} {id : Uuid}
    {row : WorkspaceRow} (hfilter : filter.authzFilter = some authz) :
    filter.authorizes id row = true ↔
      authz.selects (columnsOf id row.ownerId row.organizationId) = true := by
  unfold WorkspaceListFilter.authorizes
  rw [hfilter, Option.all_some, Bool.or_eq_true]
  refine ⟨fun h => h.elim (fun hall => ?_) fun hselects => hselects, .inr⟩
  rw [SqlFilter.selects, SqlFilter.isAllowAll_iff.mp hall]
  rfl

omit [UuidText] in
theorem mem_listWorkspaces {db : ReaderDb lower} {filter : WorkspaceListFilter} {w : WorkspaceRecord}
    (h : w ∈ (db.listWorkspaces filter).1) :
    db.workspaces.lookup w.id = some w.columns ∧ db.listed filter w.id w.columns = true := by
  unfold ReaderDb.listWorkspaces at h
  split at h
  · cases h
  · obtain ⟨⟨id, row⟩, hmem, rfl⟩ := List.mem_map.mp h
    exact HashMap.mem_selectOrdered.mp (List.mem_of_mem_drop (List.mem_of_mem_take hmem))

omit [UuidText] in
theorem authorizes_of_listed {db : ReaderDb lower} {filter : WorkspaceListFilter} {id : Uuid}
    {row : WorkspaceRow} (h : db.listed filter id row = true) :
    filter.authorizes id row = true := by
  unfold ReaderDb.listed at h
  rw [Bool.and_eq_true] at h
  exact h.2

theorem confined_byName {config : Config} {actor : Actor} :
    Confined lower config actor .getUserWorkspaceByName := by
  intro db request id row hendpoint hrow hshows
  cases request with
  | getUserWorkspaceByName user name =>
    have hshows : Shows db id (getUserWorkspaceByName actor db user name) := hshows
    unfold getUserWorkspaceByName at hshows
    split at hshows
    · cases hshows
    · split at hshows
      · cases hshows
      · rename_i targetUser _ _ hallowed
        split at hshows
        · cases hshows
        · rename_i w hfound
          obtain ⟨⟨id', row'⟩, hfind, rfl⟩ := Option.map_eq_some_iff.mp hfound
          obtain ⟨hlookup, howner, -⟩ := Db.findWorkspaceByOwnerAndName_eq_some_iff.mp hfind
          cases hshows with
          | workspace hid =>
            have hid : id' = id := hid
            subst hid
            rw [(Db.findWorkspaceById_eq_some_iff.mp hrow).1] at hlookup
            cases hlookup
            exact howner ▸ readable_of_owner hallowed id' row.organizationId
  | _ => cases hendpoint

/-! ## Tables in which every endpoint finds something -/

def workspaceOf (ownerId organizationId : Uuid) : WorkspaceRow where
  createdAt := .unixEpoch
  updatedAt := .unixEpoch
  deleted := false
  ownerId := ownerId
  organizationId := organizationId
  templateId := ownerId
  name := "dev"
  autostartSchedule := none
  ttl := none
  lastUsedAt := .unixEpoch
  dormantAt := none
  deletingAt := none
  automaticUpdates := "never"
  nextStartAt := none

def buildOf (workspaceId : Uuid) : WorkspaceBuildRow where
  createdAt := .unixEpoch
  updatedAt := .unixEpoch
  workspaceId := workspaceId
  buildNumber := 1
  transition := "start"
  jobId := some workspaceId
  templateVersionId := workspaceId
  initiatorId := workspaceId
  provisionerState := some [1]
  deadline := none
  maxDeadline := none
  reason := "initiator"
  dailyCost := 0

/-- One workspace with one build, whose ids are the same, and a row of each other kind. -/
def oneWorkspace (lower : String → String) (id ownerId organizationId : Uuid) : ReaderDb lower where
  users := HashMap.singleRow ownerId ⟨"alice", false⟩
  organizationMembers := ∅
  workspaces := HashMap.singleRow id (workspaceOf ownerId organizationId)
  builds := HashMap.singleRow id (buildOf id)
  resources := ∅
  agents := ∅
  oneUsername _ _ _ _ h h' _ _ _ :=
    (HashMap.lookup_singleRow.mp h).1.trans (HashMap.lookup_singleRow.mp h').1.symm
  oneName _ _ _ _ h h' _ _ _ _ :=
    (HashMap.lookup_singleRow.mp h).1.trans (HashMap.lookup_singleRow.mp h').1.symm
  oneNumber _ _ _ _ h h' _ _ :=
    (HashMap.lookup_singleRow.mp h).1.trans (HashMap.lookup_singleRow.mp h').1.symm
  templates := ∅
  favorites := ∅
  jobLogs := HashMap.singleRow 1 ⟨id, .unixEpoch, "provisioner", "info", "Apply", "password"⟩
  buildParameters := HashMap.singleRow (id, "token") "secret"
  jobTimings := [⟨id, .unixEpoch, .unixEpoch, "apply", "aws", "create", "vm"⟩]
  scripts := ∅
  scriptTimings := []
  portShares := HashMap.singleRow (id, "main", 8080) ⟨"owner", "http"⟩

/-- A request to the endpoint that names the workspace, its owner or its build. -/
def naming (lower : String → String) (id ownerId : Uuid) : Endpoint → Request lower
  | .listWorkspaces => .listWorkspaces ⟨none, none, none, none, none, none⟩
  | .getWorkspace => .getWorkspace id
  | .getUserWorkspaceByName => .getUserWorkspaceByName ownerId.toHyphenated "dev"
  | .getUserWorkspaceBuildByNumber =>
    .getUserWorkspaceBuildByNumber ownerId.toHyphenated "dev" 1
  | .listWorkspaceBuilds => .listWorkspaceBuilds id none none
  | .getWorkspaceBuild => .getWorkspaceBuild id
  | .getWorkspaceBuildLogs => .getWorkspaceBuildLogs id none
  | .getWorkspaceBuildParameters => .getWorkspaceBuildParameters id
  | .getWorkspaceBuildState => .getWorkspaceBuildState id
  | .getWorkspaceTimings => .getWorkspaceTimings id
  | .listWorkspacePortShares => .listWorkspacePortShares id
  | .getWorkspaceWatch => .getWorkspaceWatch id []

omit [UuidText] in
theorem endpoint_naming {id ownerId : Uuid} (endpoint : Endpoint) :
    (naming lower id ownerId endpoint).endpoint = endpoint := by
  cases endpoint <;> rfl

section

variable {actor : Actor} {config : Config} {id ownerId organizationId : Uuid}

omit [UuidText] in
theorem findWorkspaceById_oneWorkspace :
    (oneWorkspace lower id ownerId organizationId).findWorkspaceById id =
      some (workspaceOf ownerId organizationId) :=
  Db.findWorkspaceById_eq_some_iff.mpr ⟨HashMap.lookup_singleRow_self, rfl⟩

/-- The build of the workspace, as it is read. -/
def recordOf (workspaceId : Uuid) : WorkspaceBuildRecord where
  id := workspaceId
  createdAt := .unixEpoch
  updatedAt := .unixEpoch
  workspaceId := workspaceId
  buildNumber := 1
  transition := "start"
  jobId := workspaceId
  templateVersionId := workspaceId
  initiatorId := workspaceId
  provisionerState := some [1]
  deadline := none
  maxDeadline := none
  reason := "initiator"
  dailyCost := 0

omit [UuidText] in
theorem findWorkspaceBuildById_oneWorkspace :
    (oneWorkspace lower id ownerId organizationId).findWorkspaceBuildById id =
      .ok (some (recordOf id)) := by
  have hlookup : (oneWorkspace lower id ownerId organizationId).builds.lookup id =
      some (buildOf id) := HashMap.lookup_singleRow_self
  simp only [ReaderDb.findWorkspaceBuildById, hlookup]
  rfl

omit [UuidText] in
theorem runsFor_oneWorkspace : (oneWorkspace lower id ownerId organizationId).RunsFor id id :=
  ⟨id, buildOf id, HashMap.lookup_singleRow_self, rfl, rfl⟩

omit [UuidText] in
theorem withWorkspace_oneWorkspace {viewer : Uuid} {respond : WorkspaceRecord → Response} :
    withWorkspace viewer (oneWorkspace lower id ownerId organizationId) id respond =
      respond ⟨id, workspaceOf ownerId organizationId, false⟩ := by
  unfold withWorkspace ReaderDb.findWorkspaceRecordById
  rw [findWorkspaceById_oneWorkspace]
  rfl

omit [UuidText] in
theorem resolveUser_oneWorkspace :
    resolveUser actor (oneWorkspace lower id ownerId organizationId) ownerId.toHyphenated =
      some ownerId := by
  have hme : ownerId.toHyphenated ≠ "me" := by
    intro heq
    have hparse := Uuid.parse_toHyphenated ownerId
    rw [heq] at hparse
    cases hparse
  have hfind : (oneWorkspace lower id ownerId organizationId).findUserById ownerId =
      some ⟨"alice", false⟩ := by
    simp [Db.findUserById, oneWorkspace]
  simp [resolveUser, hme, Uuid.parse_toHyphenated, hfind]

theorem shows_list (hlets : config.rbacSqlFilterEnabled = true →
      (workspaceFilter actor).build.selects (columnsOf id ownerId organizationId) = true) :
    Shows (oneWorkspace lower id ownerId organizationId) id
      (listWorkspaces config actor (oneWorkspace lower id ownerId organizationId)
        ⟨none, none, none, none, none, none⟩) := by
  set db := oneWorkspace lower id ownerId organizationId with hdb
  set filter := listFilter config actor ⟨none, none, none, none, none, none⟩ with hfilter
  have hauthorizes : filter.authorizes id (workspaceOf ownerId organizationId) = true := by
    cases hconfig : config.rbacSqlFilterEnabled with
    | false => simp [hfilter, listFilter, hconfig, WorkspaceListFilter.authorizes]
    | true =>
      have hauthz : filter.authzFilter = some (workspaceFilter actor).build := by
        simp [hfilter, listFilter, hconfig]
      exact (selects_of_authorizes hauthz).mpr (hlets hconfig)
  have hdeny : filter.authzFilter.any (·.isDenyAll) = false := by
    cases hconfig : config.rbacSqlFilterEnabled with
    | false => simp [hfilter, listFilter, hconfig]
    | true =>
      have hauthz : filter.authzFilter = some (workspaceFilter actor).build := by
        simp [hfilter, listFilter, hconfig]
      rw [hauthz, Option.any_some, Bool.eq_false_iff]
      intro hfalse
      have hselects := hlets hconfig
      rw [SqlFilter.selects, SqlFilter.isDenyAll_iff.mp hfalse] at hselects
      cases hselects
  have hlisted : db.listed filter id (workspaceOf ownerId organizationId) = true := by
    unfold ReaderDb.listed
    rw [hauthorizes]
    simp [hfilter, listFilter, workspaceOf]
  have hrows : db.workspaces.selectOrdered (db.listed filter)
      (fun row => -row.lastUsedAt.unixNanos) = [(id, workspaceOf ownerId organizationId)] := by
    have hall : db.workspaces.selectAll (db.listed filter) =
        [(id, workspaceOf ownerId organizationId)] := HashMap.selectAll_singleRow hlisted
    unfold HashMap.selectOrdered
    rw [hall]
    rfl
  have hpage : db.listWorkspaces filter =
      ([⟨id, workspaceOf ownerId organizationId, false⟩], 1) := by
    unfold ReaderDb.listWorkspaces
    rw [hdeny, hrows]
    rfl
  unfold listWorkspaces
  rw [hpage]
  exact .workspaces List.mem_cons_self rfl

omit [UuidText] in
theorem listWorkspaceBuilds_oneWorkspace :
    (oneWorkspace lower id ownerId organizationId).listWorkspaceBuilds id 25 0 =
      .ok [recordOf id] := by
  have hall : (oneWorkspace lower id ownerId organizationId).builds.selectAll
      (fun _ row => row.workspaceId = id) = [(id, buildOf id)] :=
    HashMap.selectAll_singleRow (by simp [buildOf])
  unfold ReaderDb.listWorkspaceBuilds HashMap.selectOrdered
  rw [hall]
  rfl

omit [UuidText] in
theorem findWorkspaceBuildByNumber_oneWorkspace :
    (oneWorkspace lower id ownerId organizationId).findWorkspaceBuildByNumber id 1 =
      .ok (some (recordOf id)) := by
  have hfirst : (oneWorkspace lower id ownerId organizationId).builds.selectFirst
      (fun _ row => row.workspaceId = id && row.buildNumber = 1) = some (id, buildOf id) :=
    HashMap.selectFirst_singleRow (by simp [buildOf])
  unfold ReaderDb.findWorkspaceBuildByNumber
  rw [hfirst]
  rfl

omit [UuidText] in
theorem findLatestWorkspaceBuild_oneWorkspace :
    (oneWorkspace lower id ownerId organizationId).findLatestWorkspaceBuild id =
      .ok (some (recordOf id)) := by
  refine Db.findLatestWorkspaceBuild_eq_some_iff.mpr ⟨id, buildOf id, ?_, rfl⟩
  refine ⟨HashMap.lookup_singleRow_self, rfl, fun id' other hother _ => ?_⟩
  rw [(HashMap.lookup_singleRow.mp hother).2]

omit [UuidText] in
theorem findByName_oneWorkspace {viewerId : Option Uuid} :
    (oneWorkspace lower id ownerId organizationId).findWorkspaceRecordByOwnerAndName ownerId "dev"
      viewerId = some ((oneWorkspace lower id ownerId organizationId).record viewerId id
        (workspaceOf ownerId organizationId)) := by
  have hfind : (oneWorkspace lower id ownerId organizationId).findWorkspaceByOwnerAndName ownerId
      "dev" = some (id, workspaceOf ownerId organizationId) :=
    Db.findWorkspaceByOwnerAndName_eq_some_iff.mpr ⟨HashMap.lookup_singleRow_self, rfl, rfl, rfl⟩
  unfold ReaderDb.findWorkspaceRecordByOwnerAndName
  rw [hfind]
  rfl

/-- Every endpoint that does not ask shows the workspace. -/
theorem shows_oneWorkspace (endpoint : Endpoint) (hname : endpoint ≠ .getUserWorkspaceByName)
    (hlets : endpoint = .listWorkspaces → config.rbacSqlFilterEnabled = true →
      (workspaceFilter actor).build.selects (columnsOf id ownerId organizationId) = true) :
    Shows (oneWorkspace lower id ownerId organizationId) id
      (handle config actor (oneWorkspace lower id ownerId organizationId)
        (naming lower id ownerId endpoint)) := by
  cases endpoint with
  | listWorkspaces => exact shows_list (hlets rfl)
  | getWorkspace =>
    simp only [naming, handle, getWorkspace, withWorkspace_oneWorkspace]
    exact .workspace rfl
  | getUserWorkspaceByName => exact absurd rfl hname
  | getUserWorkspaceBuildByNumber =>
    simp only [naming, handle, getUserWorkspaceBuildByNumber, resolveUser_oneWorkspace,
      findByName_oneWorkspace, ReaderDb.record, findWorkspaceBuildByNumber_oneWorkspace, withBuild]
    exact .build rfl
  | listWorkspaceBuilds =>
    have hlimit : clampPaginationLimit 25 = 25 := rfl
    simp only [naming, handle, listWorkspaceBuildsHandler, withWorkspace_oneWorkspace,
      Option.getD_none, hlimit, listWorkspaceBuilds_oneWorkspace]
    exact .builds List.mem_cons_self rfl
  | getWorkspaceBuild =>
    simp only [naming, handle, getWorkspaceBuild, findWorkspaceBuildById_oneWorkspace, withBuild]
    exact .build rfl
  | getWorkspaceBuildLogs =>
    simp only [naming, handle, getWorkspaceBuildLogs, findWorkspaceBuildById_oneWorkspace,
      withBuild]
    refine .logs (l := (1, ⟨id, .unixEpoch, "provisioner", "info", "Apply", "password"⟩)) ?_
      runsFor_oneWorkspace
    unfold ReaderDb.listProvisionerJobLogs
    rw [List.mem_insertionSort]
    exact HashMap.mem_selectAll.mpr ⟨HashMap.lookup_singleRow_self, by simp [recordOf]⟩
  | getWorkspaceBuildParameters =>
    simp only [naming, handle, getWorkspaceBuildParameters, findWorkspaceBuildById_oneWorkspace,
      withBuild]
    have hbuild : (oneWorkspace lower id ownerId organizationId).builds.lookup id =
        some (buildOf id) := HashMap.lookup_singleRow_self
    refine .parameters (p := ((id, "token"), "secret")) ?_ hbuild rfl
    unfold ReaderDb.listWorkspaceBuildParameters
    rw [List.mem_insertionSort]
    exact HashMap.mem_selectAll.mpr ⟨HashMap.lookup_singleRow_self, by simp⟩
  | getWorkspaceBuildState =>
    simp only [naming, handle, getWorkspaceBuildState, findWorkspaceBuildById_oneWorkspace,
      withBuild]
    exact .state rfl
  | getWorkspaceTimings =>
    simp only [naming, handle, getWorkspaceTimings, findLatestWorkspaceBuild_oneWorkspace,
      buildTimingsResponse]
    refine .timings (t := ⟨id, .unixEpoch, .unixEpoch, "apply", "aws", "create", "vm"⟩) ?_
      runsFor_oneWorkspace
    simp [ReaderDb.listProvisionerJobTimings, oneWorkspace, recordOf, goZero,
      OffsetDateTime.unixEpoch]
  | listWorkspacePortShares =>
    simp only [naming, handle, listWorkspacePortShares, withWorkspace_oneWorkspace]
    refine .shares (s := ((id, "main", 8080), ⟨"owner", "http"⟩)) ?_ rfl
    unfold ReaderDb.listWorkspacePortShares
    rw [List.mem_insertionSort]
    exact HashMap.mem_selectAll.mpr ⟨HashMap.lookup_singleRow_self, by simp⟩
  | getWorkspaceWatch =>
    simp only [naming, handle, getWorkspaceWatch, withWorkspace_oneWorkspace]
    exact .watch (List.mem_cons_of_mem _ List.mem_cons_self) rfl

end

/-! ## Which endpoints are confined -/

theorem confined_of_readsAll {config : Config} {actor : Actor} {endpoint : Endpoint}
    (h : ReadsAll actor) : Confined lower config actor endpoint :=
  fun _ _ id row _ _ _ => h id row.ownerId row.organizationId

/-- An endpoint that shows a workspace without asking is confined only if the actor may read it. -/
theorem Confined.readable {config : Config} {actor : Actor} {endpoint : Endpoint}
    {id ownerId organizationId : Uuid} (h : Confined lower config actor endpoint)
    (hshows : Shows (oneWorkspace lower id ownerId organizationId) id
      (handle config actor (oneWorkspace lower id ownerId organizationId)
        (naming lower id ownerId endpoint))) : Readable actor id ownerId organizationId :=
  h _ _ id _ (endpoint_naming endpoint) findWorkspaceById_oneWorkspace hshows

/-- A member of the organization 10. -/
def member : Actor where
  userId := ⟨1⟩
  username := "bob"
  organizationIds := [⟨10⟩]
  siteRoles := ["member"]
  orgRoles := ["organization-member:00000000-0000-0000-0000-00000000000a"]
  groups := []
  scope := none
  scopeOverride := none

end Coderd.Readers
