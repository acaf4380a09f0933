import Coderd.Foundation.Except
import Coderd.WorkspaceApps.Resolution

namespace Coderd.WorkspaceApps

open Coderd.Foundation Coderd.Catalog

section

variable {lower : String → String}

/-! ## What a request names -/

/-- The user whose name stands in the request. -/
def NamesUser (db : AppDb lower) (request : AppRequest) (userId : Uuid) : Prop :=
  ∃ user, db.users.lookup userId = some user ∧ lower user.username = lower request.usernameOrId ∧
    user.deleted = false

/-- A workspace whose id stands in the request. -/
def WorkspaceById (db : AppDb lower) (request : AppRequest) (workspaceId : Uuid)
    (row : WorkspaceRow) : Prop :=
  Uuid.parse request.workspaceNameOrId = some workspaceId ∧
    db.workspaces.lookup workspaceId = some row ∧ row.deleted = false

/-- The workspace of that name of the user. -/
def WorkspaceByName (db : AppDb lower) (request : AppRequest) (workspaceId : Uuid)
    (row : WorkspaceRow) : Prop :=
  NamesUser db request row.ownerId ∧ db.workspaces.lookup workspaceId = some row ∧
    lower row.name = lower request.workspaceNameOrId ∧ row.deleted = false

/-- The id goes before the name. -/
def NamesWorkspace (db : AppDb lower) (request : AppRequest) (workspaceId : Uuid)
    (row : WorkspaceRow) : Prop :=
  WorkspaceById db request workspaceId row ∨
    WorkspaceByName db request workspaceId row ∧ ∀ id other, ¬ WorkspaceById db request id other

/-- A live agent of a resource that the job made. -/
def AgentOfJob (db : AppDb lower) (agentId jobId : Uuid) : Prop :=
  ∃ agent resource, db.agents.lookup agentId = some agent ∧ agent.deleted = false ∧
    db.resources.lookup agent.resourceId = some resource ∧ resource.jobId = jobId

/-- A live agent of the latest build. -/
def AgentOfLatestBuild (db : AppDb lower) (agentId workspaceId : Uuid) : Prop :=
  ∃ buildId build jobId, db.IsLatestBuild workspaceId buildId build ∧ build.jobId = some jobId ∧
    AgentOfJob db agentId jobId

/-- The agent that the request picks from the latest build of the workspace of that name. -/
def AgentByName (db : AppDb lower) (request : AppRequest) (agentId : Uuid) : Prop :=
  ∃ workspaceId row buildId build jobId, WorkspaceByName db request workspaceId row ∧
    db.IsLatestBuild workspaceId buildId build ∧ build.jobId = some jobId ∧
      ∃ agent ∈ agentsOfJob db jobId, agent.1 = agentId ∧
        if request.agentNameOrId.isEmpty then agentsOfJob db jobId = [agent]
        else (agentsOfJob db jobId).find? (fun a => a.2.name = request.agentNameOrId) = some agent

/-- An id stands for itself, whatever else the request says. -/
def NamesAgent (db : AppDb lower) (request : AppRequest) (agentId : Uuid) : Prop :=
  Uuid.parse request.agentNameOrId = some agentId ∨
    Uuid.parse request.agentNameOrId = none ∧ AgentByName db request agentId

/-- The agent has reported in, has not dropped out for good, and has a name. -/
structure Reporting (agent : WorkspaceAgentRow) : Prop where
  connected : agent.firstConnectedAt.isNone = false
  notDropped : (agent.disconnectedAt.isSome && agent.lastConnectedAt.isNone) = false
  named : agent.name.isEmpty = false

/-- What the agent serves under a slug: a port under the agent's name, or the app of that slug. -/
inductive Serves [UrlParser] (db : AppDb lower) (agentId : Uuid) (agent : WorkspaceAgentRow)
    (slug : String) (slugIsPort : Bool) : Url → String → Prop
  | port (protocol : String) (port : Nat) (url : Url)
      (spelled : portOf slug slugIsPort = some (protocol, port))
      (parsed : UrlParser.parse (protocol ++ "://" ++ agent.name ++ ":" ++ toString port) = .ok url) :
      Serves db agentId agent slug slugIsPort url ""
  | app (appId : Uuid) (app : WorkspaceAppRow) (url : Url)
      (notPort : portOf slug slugIsPort = none)
      (found : db.findWorkspaceAppByAgentAndSlug agentId slug = some (appId, app))
      (hasUrl : (app.url.getD "").isEmpty = false)
      (parsed : UrlParser.parse (app.url.getD "") = .ok url)
      (running : app.health.running = true) :
      Serves db agentId agent slug slugIsPort url app.sharingLevel.asStr

/-- The app that is served is one of the agent, under the slug. -/
theorem app_of_found {db : AppDb lower} {agentId appId : Uuid} {slug : String}
    {app : WorkspaceAppRow}
    (h : db.findWorkspaceAppByAgentAndSlug agentId slug = some (appId, app)) :
    db.apps.lookup appId = some app ∧ app.agentId = agentId ∧ app.slug = slug := by
  obtain ⟨hlookup, hp⟩ := HashMap.selectFirst_spec h
  simp only [Bool.and_eq_true, decide_eq_true_eq] at hp
  exact ⟨hlookup, hp.1, hp.2⟩

variable {db : AppDb lower} {request : AppRequest}

theorem workspaceById_iff {id : Uuid} {row : WorkspaceRow} :
    WorkspaceById db request id row ↔
      Uuid.parse request.workspaceNameOrId = some id ∧ db.findWorkspaceById id = some row := by
  unfold WorkspaceById
  rw [Db.findWorkspaceById_eq_some_iff]

theorem mem_agentsOfJob {jobId agentId : Uuid} {agent : WorkspaceAgentRow} :
    (agentId, agent) ∈ agentsOfJob db jobId ↔
      db.agents.lookup agentId = some agent ∧ agent.deleted = false ∧
        ∃ resource, db.resources.lookup agent.resourceId = some resource ∧
          resource.jobId = jobId := by
  unfold agentsOfJob Db.listWorkspaceAgentsByResourceIds Db.listWorkspaceResourcesByJob
  rw [HashMap.mem_selectOrdered]
  simp only [Bool.and_eq_true, Bool.not_eq_true', List.contains_iff_mem, List.mem_map,
    Prod.exists, HashMap.mem_selectOrdered, decide_eq_true_eq]
  constructor
  · rintro ⟨hlookup, ⟨id, resource, ⟨hresource, hjob⟩, rfl⟩, hlive⟩
    exact ⟨hlookup, hlive, resource, hresource, hjob⟩
  · rintro ⟨hlookup, hlive, resource, hresource, hjob⟩
    exact ⟨hlookup, ⟨agent.resourceId, resource, ⟨hresource, hjob⟩, rfl⟩, hlive⟩

theorem agentOfJob_of_mem {jobId : Uuid} {agent : Uuid × WorkspaceAgentRow}
    (h : agent ∈ agentsOfJob db jobId) : AgentOfJob db agent.1 jobId := by
  obtain ⟨hlookup, hlive, resource, hresource, hjob⟩ := mem_agentsOfJob.mp h
  exact ⟨agent.2, resource, hlookup, hlive, hresource, hjob⟩

/-! ## What the functions find -/

variable [DebugText]

theorem requestedUser_ok_iff {userId : Uuid} :
    (∃ row, requestedUser db request = .ok (userId, row)) ↔ NamesUser db request userId := by
  unfold requestedUser NamesUser
  constructor
  · rintro ⟨row, h⟩
    split at h
    · cases h
    · rename_i user hfind
      cases h
      exact ⟨row, Db.findUserByUsername_eq_some_iff.mp hfind⟩
  · rintro ⟨row, hrow⟩
    rw [Db.findUserByUsername_eq_some_iff.mpr hrow]
    exact ⟨row, rfl⟩

theorem requestedWorkspace_ok_iff {ownerId id : Uuid} {row : WorkspaceRow} :
    requestedWorkspace db request ownerId = .ok (id, row) ↔
      db.workspaces.lookup id = some row ∧ row.ownerId = ownerId ∧
        lower row.name = lower request.workspaceNameOrId ∧ row.deleted = false := by
  unfold requestedWorkspace
  rw [← Db.findWorkspaceByOwnerAndName_eq_some_iff]
  cases db.findWorkspaceByOwnerAndName ownerId request.workspaceNameOrId with
  | none => simp
  | some workspace => simp

/-- The user first, then the workspace of that name. -/
theorem requested_ok_iff {id : Uuid} {row : WorkspaceRow} :
    (∃ user, requestedUser db request = .ok user ∧
      requestedWorkspace db request user.1 = .ok (id, row)) ↔ WorkspaceByName db request id row := by
  constructor
  · rintro ⟨⟨userId, user⟩, huser, hworkspace⟩
    obtain ⟨hlookup, rfl, hname, hlive⟩ := requestedWorkspace_ok_iff.mp hworkspace
    exact ⟨requestedUser_ok_iff.mp ⟨user, huser⟩, hlookup, hname, hlive⟩
  · rintro ⟨hnames, hlookup, hname, hlive⟩
    obtain ⟨user, huser⟩ := requestedUser_ok_iff.mpr hnames
    exact ⟨_, huser, requestedWorkspace_ok_iff.mpr ⟨hlookup, rfl, hname, hlive⟩⟩

theorem lookupWorkspaceForRequest_ok_iff {id : Uuid} {row : WorkspaceRow} :
    lookupWorkspaceForRequest db request = .ok (id, row) ↔ NamesWorkspace db request id row := by
  have hbyName : (requestedUser db request >>= fun user => requestedWorkspace db request user.1) =
      .ok (id, row) ↔ WorkspaceByName db request id row :=
    Except.bind_eq_ok_iff.trans requested_ok_iff
  unfold lookupWorkspaceForRequest NamesWorkspace
  by_cases hid : ∃ id other, WorkspaceById db request id other
  · obtain ⟨parsed, found, hid⟩ := hid
    obtain ⟨hparse, hfind⟩ := workspaceById_iff.mp hid
    simp only [hparse, hfind]
    constructor
    · intro h
      cases h
      exact Or.inl hid
    · rintro (h | ⟨-, hnone⟩)
      · obtain ⟨hparsed, hfound⟩ := workspaceById_iff.mp h
        rw [hparse] at hparsed
        cases hparsed
        rw [hfind] at hfound
        cases hfound
        rfl
      · exact absurd hid (hnone _ _)
  · simp only [not_exists] at hid
    simp only [hid, not_false_eq_true, implies_true, and_true, false_or]
    refine Iff.trans ?_ hbyName
    cases hparse : Uuid.parse request.workspaceNameOrId with
    | none => exact Iff.rfl
    | some parsed =>
      cases hfind : db.findWorkspaceById parsed with
      | none => simp only [hfind]
      | some found => exact absurd (workspaceById_iff.mpr ⟨hparse, hfind⟩) (hid _ _)

theorem latestBuild_ok_iff {workspaceId : Uuid} {record : WorkspaceBuildRecord} :
    latestBuild db request workspaceId = .ok record ↔
      ∃ buildId build, db.IsLatestBuild workspaceId buildId build ∧
        workspaceBuildRecordFromRow buildId build = .ok record := by
  rw [← Db.findLatestWorkspaceBuild_eq_some_iff]
  unfold latestBuild
  split <;> rename_i hfind <;> simp [hfind]

theorem pickAgent_ok_iff {agents : List (Uuid × WorkspaceAgentRow)} {agentId : Uuid} :
    pickAgent request agents = .ok agentId ↔
      ∃ agent ∈ agents, agent.1 = agentId ∧
        if request.agentNameOrId.isEmpty then agents = [agent]
        else agents.find? (fun a => a.2.name = request.agentNameOrId) = some agent := by
  unfold pickAgent
  by_cases hempty : request.agentNameOrId.isEmpty = true
  · simp only [hempty, if_true]
    split
    · simp
    · simp
    · rename_i hsingle hnil
      simp only [reduceCtorEq, false_iff, not_exists, not_and]
      rintro agent - - rfl
      exact hsingle agent rfl
  · simp only [hempty, if_false, Bool.false_eq_true]
    cases hfind : agents.find? (fun a => decide (a.2.name = request.agentNameOrId)) with
    | none => simp
    | some agent =>
      have hmem := List.mem_of_find?_eq_some hfind
      constructor
      · intro h
        cases h
        exact ⟨agent, hmem, rfl, rfl⟩
      · rintro ⟨other, -, rfl, hother⟩
        cases hother
        rfl

/-- The user, the workspace, its latest build, and the agent that the request picks there. -/
theorem agentByName_iff {agentId : Uuid} :
    AgentByName db request agentId ↔
      ∃ user, requestedUser db request = .ok user ∧
        ∃ workspace, requestedWorkspace db request user.1 = .ok workspace ∧
          ∃ record, latestBuild db request workspace.1 = .ok record ∧
            pickAgent request (agentsOfJob db record.jobId) = .ok agentId := by
  constructor
  · rintro ⟨workspaceId, row, buildId, build, jobId, hworkspace, hbuild, hjob, hpick⟩
    obtain ⟨user, huser, hrequested⟩ := requested_ok_iff.mpr hworkspace
    have hrecord : ∃ record, workspaceBuildRecordFromRow buildId build = .ok record ∧
        record.jobId = jobId := by
      simp [workspaceBuildRecordFromRow, hjob]
    obtain ⟨record, hrecord, rfl⟩ := hrecord
    exact ⟨user, huser, _, hrequested, record, latestBuild_ok_iff.mpr ⟨buildId, build, hbuild, hrecord⟩,
      pickAgent_ok_iff.mpr hpick⟩
  · rintro ⟨user, huser, ⟨workspaceId, row⟩, hrequested, record, hlatest, hpick⟩
    obtain ⟨buildId, build, hbuild, hrecord⟩ := latestBuild_ok_iff.mp hlatest
    exact ⟨workspaceId, row, buildId, build, record.jobId,
      requested_ok_iff.mp ⟨user, huser, hrequested⟩, hbuild,
      (workspaceBuildRecordFromRow_ok hrecord).2.2, pickAgent_ok_iff.mp hpick⟩

theorem resolveWorkspaceAgentId_ok_iff {agentId : Uuid} :
    resolveWorkspaceAgentId db request = .ok agentId ↔ NamesAgent db request agentId := by
  unfold resolveWorkspaceAgentId NamesAgent
  cases hparse : Uuid.parse request.agentNameOrId with
  | some id =>
    simp only [reduceCtorEq, false_and, or_false, Option.some.injEq]
    constructor
    · intro h
      cases h
      rfl
    · rintro rfl
      rfl
  | none =>
    simp only [reduceCtorEq, true_and, false_or]
    rw [agentByName_iff]
    refine Except.bind_eq_ok_iff.trans (exists_congr fun user => and_congr_right fun _ => ?_)
    refine Except.bind_eq_ok_iff.trans (exists_congr fun workspace => and_congr_right fun _ => ?_)
    exact Except.bind_eq_ok_iff

theorem resolveTarget_ok_iff [UrlParser] {agentId : Uuid} {agent : WorkspaceAgentRow}
    {slug : String} {slugIsPort : Bool} {url : Url} {level : String} :
    resolveTarget db agentId agent slug slugIsPort = .ok (url, level) ↔
      Serves db agentId agent slug slugIsPort url level := by
  unfold resolveTarget
  constructor
  · intro h
    split at h
    · rename_i protocol port hport
      split at h
      · cases h
      · rename_i parsed hparsed
        cases h
        exact .port protocol port url hport hparsed
    · rename_i hport
      split at h
      · cases h
      · rename_i appId app hfound
        split at h
        · cases h
        · rename_i hurl
          split at h
          · cases h
          · rename_i parsed hparsed
            split at h
            · rename_i hrunning
              cases h
              exact .app appId app url hport hfound (Bool.eq_false_iff.mpr hurl) hparsed hrunning
            · cases h
  · intro h
    cases h with
    | port protocol port url hport hparsed => simp only [hport, hparsed]
    | app appId app url hport hfound hurl hparsed hrunning =>
      simp [hport, hfound, hurl, hparsed, hrunning]

/-! ## The resolved app -/

/-- What a request resolves to. -/
structure Resolves [UrlParser] (db : AppDb lower) (request : AppRequest) (slugIsPort : Bool)
    (app : ResolvedApp) : Prop where
  agent : NamesAgent db request app.agentId
  workspace : ∃ row, NamesWorkspace db request app.workspaceId row ∧
    app.workspaceOrganizationId = row.organizationId
  target : ∃ row, db.agents.lookup app.agentId = some row ∧ row.deleted = false ∧ Reporting row ∧
    Serves db app.agentId row request.appSlugOrPort slugIsPort app.url app.sharingLevel
  slug : app.slugOrPort = request.appSlugOrPort

theorem resolveAppContext_ok_iff [UrlParser] {slugIsPort : Bool} {app : ResolvedApp} :
    resolveAppContext db request slugIsPort = .ok app ↔ Resolves db request slugIsPort app := by
  unfold resolveAppContext
  constructor
  · intro h
    obtain ⟨agentId, hagent, h⟩ := Except.bind_eq_ok_iff.mp h
    split at h
    · cases h
    rename_i row hrow
    obtain ⟨hlookup, hlive⟩ := Db.findWorkspaceAgentById_eq_some_iff.mp hrow
    split at h
    · cases h
    rename_i hconnected
    split at h
    · cases h
    rename_i hdropped
    obtain ⟨⟨workspaceId, workspace⟩, hworkspace, h⟩ := Except.bind_eq_ok_iff.mp h
    simp only at h
    split at h
    · cases h
    rename_i hnamed
    obtain ⟨⟨url, level⟩, htarget, h⟩ := Except.bind_eq_ok_iff.mp h
    cases h
    have hreporting : Reporting row :=
      ⟨Bool.eq_false_iff.mpr hconnected, Bool.eq_false_iff.mpr hdropped,
        Bool.eq_false_iff.mpr hnamed⟩
    exact ⟨resolveWorkspaceAgentId_ok_iff.mp hagent,
      ⟨workspace, lookupWorkspaceForRequest_ok_iff.mp hworkspace, rfl⟩,
      ⟨row, hlookup, hlive, hreporting, resolveTarget_ok_iff.mp htarget⟩, rfl⟩
  · rintro ⟨hagent, ⟨workspace, hworkspace, horganization⟩, ⟨row, hlookup, hlive, hreporting,
      htarget⟩, hslug⟩
    have hrow := Db.findWorkspaceAgentById_eq_some_iff.mpr ⟨hlookup, hlive⟩
    refine Except.bind_eq_ok_iff.mpr ⟨_, resolveWorkspaceAgentId_ok_iff.mpr hagent, ?_⟩
    simp only [hrow, hreporting.connected, hreporting.notDropped, Bool.false_eq_true, if_false]
    refine Except.bind_eq_ok_iff.mpr ⟨_, lookupWorkspaceForRequest_ok_iff.mpr hworkspace, ?_⟩
    simp only [hreporting.named, Bool.false_eq_true, if_false]
    refine Except.bind_eq_ok_iff.mpr ⟨_, resolveTarget_ok_iff.mpr htarget, ?_⟩
    simp only [← horganization, ← hslug]
    rfl

omit [DebugText] in
theorem namesUser_unique {userId userId' : Uuid} (h : NamesUser db request userId)
    (h' : NamesUser db request userId') : userId = userId' := by
  obtain ⟨user, hlookup, hname, hlive⟩ := h
  obtain ⟨user', hlookup', hname', hlive'⟩ := h'
  exact db.oneUsername _ _ _ _ hlookup hlookup' hlive hlive' (hname.trans hname'.symm)

omit [DebugText] in
theorem workspaceByName_unique {id id' : Uuid} {row row' : WorkspaceRow}
    (h : WorkspaceByName db request id row) (h' : WorkspaceByName db request id' row') :
    id = id' := by
  obtain ⟨hnames, hlookup, hname, hlive⟩ := h
  obtain ⟨hnames', hlookup', hname', hlive'⟩ := h'
  exact db.oneName _ _ _ _ hlookup hlookup' hlive hlive' (namesUser_unique hnames hnames')
    (hname.trans hname'.symm)

omit [DebugText] in
/-- An agent found by its name is in the latest build of the workspace of that name. -/
theorem agentByName_latest {agentId : Uuid} (h : AgentByName db request agentId) :
    ∃ workspaceId row, WorkspaceByName db request workspaceId row ∧
      AgentOfLatestBuild db agentId workspaceId := by
  obtain ⟨workspaceId, row, buildId, build, jobId, hworkspace, hbuild, hjob, agent, hmem, rfl, -⟩ := h
  exact ⟨workspaceId, row, hworkspace, buildId, build, jobId, hbuild, hjob, agentOfJob_of_mem hmem⟩

/-! ## Agreement -/

variable [UrlParser]

/-- Agent, workspace and target belong together, and to what the request names. -/
structure Consistent (db : AppDb lower) (request : AppRequest) (slugIsPort : Bool)
    (app : ResolvedApp) : Prop where
  agent : AgentOfLatestBuild db app.agentId app.workspaceId
  workspace : ∃ row, db.workspaces.lookup app.workspaceId = some row ∧
    NamesUser db request row.ownerId ∧
    (lower row.name = lower request.workspaceNameOrId ∨
      Uuid.parse request.workspaceNameOrId = some app.workspaceId) ∧
    app.workspaceOrganizationId = row.organizationId
  target : ∃ row, db.agents.lookup app.agentId = some row ∧
    Serves db app.agentId row request.appSlugOrPort slugIsPort app.url app.sharingLevel

/-- The ids that two parts of the request lead to, where the agent is up and serves the slug. -/
structure Addresses (db : AppDb lower) (request : AppRequest) (slugIsPort : Bool)
    (agentId workspaceId : Uuid) (row : WorkspaceRow) : Prop where
  agent : NamesAgent db request agentId
  workspace : NamesWorkspace db request workspaceId row
  target : ∃ agent url level, db.agents.lookup agentId = some agent ∧ agent.deleted = false ∧
    Reporting agent ∧ Serves db agentId agent request.appSlugOrPort slugIsPort url level

/-- The three ways in which an id in the request defeats the other parts. -/
inductive Mismatch (db : AppDb lower) (request : AppRequest) (agentId workspaceId : Uuid)
    (row : WorkspaceRow) : Prop
  /-- The agent's id is not one of the workspace's latest build. -/
  | foreignAgent (byId : Uuid.parse request.agentNameOrId = some agentId)
      (foreign : ¬ AgentOfLatestBuild db agentId workspaceId) :
      Mismatch db request agentId workspaceId row
  /-- The workspace's id is not one of the user's workspaces. -/
  | foreignWorkspace (byId : WorkspaceById db request workspaceId row)
      (foreign : ¬ NamesUser db request row.ownerId) :
      Mismatch db request agentId workspaceId row
  /-- The id of one workspace is the name of another, where the agent's name is looked up. -/
  | namesake (byId : WorkspaceById db request workspaceId row)
      (byName : AgentByName db request agentId)
      (foreign : ¬ AgentOfLatestBuild db agentId workspaceId) :
      Mismatch db request agentId workspaceId row

omit [DebugText] in
theorem Resolves.addresses {slugIsPort : Bool} {app : ResolvedApp}
    (h : Resolves db request slugIsPort app) :
    ∃ row, Addresses db request slugIsPort app.agentId app.workspaceId row ∧
      app.workspaceOrganizationId = row.organizationId := by
  obtain ⟨hagent, ⟨row, hworkspace, horganization⟩, ⟨agent, hlookup, hlive, hreporting, hserves⟩,
    -⟩ := h
  exact ⟨row, ⟨hagent, hworkspace, agent, app.url, app.sharingLevel, hlookup, hlive, hreporting,
    hserves⟩, horganization⟩

omit [DebugText] in
theorem Addresses.resolves {slugIsPort : Bool} {agentId workspaceId : Uuid} {row : WorkspaceRow}
    (h : Addresses db request slugIsPort agentId workspaceId row) :
    ∃ app, Resolves db request slugIsPort app ∧ app.agentId = agentId ∧
      app.workspaceId = workspaceId := by
  obtain ⟨hagent, hworkspace, agent, url, level, hlookup, hlive, hreporting, hserves⟩ := h
  let app : ResolvedApp :=
    { url
      agentId
      workspaceId
      workspaceOrganizationId := row.organizationId
      sharingLevel := level
      slugOrPort := request.appSlugOrPort }
  have hresolves : Resolves db request slugIsPort app :=
    ⟨hagent, ⟨row, hworkspace, rfl⟩, ⟨agent, hlookup, hlive, hreporting, hserves⟩, rfl⟩
  exact ⟨app, hresolves, rfl, rfl⟩

omit [DebugText] [UrlParser] in
/-- Without a mismatch the agent is in the latest build of the workspace. -/
theorem agentOfLatestBuild_of_not_mismatch {agentId workspaceId : Uuid} {row : WorkspaceRow}
    (hagent : NamesAgent db request agentId) (hworkspace : NamesWorkspace db request workspaceId row)
    (h : ¬ Mismatch db request agentId workspaceId row) :
    AgentOfLatestBuild db agentId workspaceId := by
  by_contra hforeign
  cases hagent with
  | inl hid => exact h (.foreignAgent hid hforeign)
  | inr hname =>
    cases hworkspace with
    | inl hid => exact h (.namesake hid hname.2 hforeign)
    | inr hworkspace =>
      -- both names lead to the one workspace of that owner and name
      obtain ⟨workspaceId', row', hworkspace', hlatest⟩ := agentByName_latest hname.2
      have hsame : workspaceId' = workspaceId := workspaceByName_unique hworkspace' hworkspace.1
      exact hforeign (hsame ▸ hlatest)

/-- What a request resolves to belongs together exactly when no id in it defeats another part. -/
theorem resolveAppContext_consistent_iff (db : AppDb lower) (request : AppRequest)
    (slugIsPort : Bool) :
    (∀ app, resolveAppContext db request slugIsPort = .ok app →
      Consistent db request slugIsPort app) ↔
      ∀ agentId workspaceId row, Addresses db request slugIsPort agentId workspaceId row →
        ¬ Mismatch db request agentId workspaceId row := by
  constructor
  · intro h agentId workspaceId row haddresses hmismatch
    obtain ⟨app, hresolves, rfl, rfl⟩ := haddresses.resolves
    have hconsistent := h app (resolveAppContext_ok_iff.mpr hresolves)
    cases hmismatch with
    | foreignAgent _ hforeign => exact hforeign hconsistent.agent
    | foreignWorkspace hid hforeign =>
      obtain ⟨row', hlookup, hnames, -⟩ := hconsistent.workspace
      rw [hid.2.1] at hlookup
      cases hlookup
      exact hforeign hnames
    | namesake _ _ hforeign => exact hforeign hconsistent.agent
  · intro h app hok
    have hresolves := resolveAppContext_ok_iff.mp hok
    obtain ⟨row, haddresses, horganization⟩ := hresolves.addresses
    have hmatch := h app.agentId app.workspaceId row haddresses
    refine ⟨agentOfLatestBuild_of_not_mismatch haddresses.agent haddresses.workspace hmatch, ?_, ?_⟩
    · cases haddresses.workspace with
      | inl hid =>
        have hnames : NamesUser db request row.ownerId := by
          by_contra hforeign
          exact hmatch (.foreignWorkspace hid hforeign)
        exact ⟨row, hid.2.1, hnames, Or.inr hid.1, horganization⟩
      | inr hname => exact ⟨row, hname.1.2.1, hname.1.1, Or.inl hname.1.2.2.1, horganization⟩
    · obtain ⟨agent, hlookup, -, -, hserves⟩ := hresolves.target
      exact ⟨agent, hlookup, hserves⟩

/-- A request that spells out names only is answered with what belongs together. -/
theorem consistent_of_names {db : AppDb lower} {request : AppRequest} {slugIsPort : Bool}
    {app : ResolvedApp} (hagent : Uuid.parse request.agentNameOrId = none)
    (hworkspace : Uuid.parse request.workspaceNameOrId = none)
    (h : resolveAppContext db request slugIsPort = .ok app) :
    Consistent db request slugIsPort app := by
  refine (resolveAppContext_consistent_iff db request slugIsPort).mpr ?_ app h
  intro agentId workspaceId row _ hmismatch
  cases hmismatch with
  | foreignAgent hid =>
    rw [hagent] at hid
    cases hid
  | foreignWorkspace hid =>
    rw [hid.1] at hworkspace
    cases hworkspace
  | namesake hid =>
    rw [hid.1] at hworkspace
    cases hworkspace

end

/-! ### An agent's id behind the name of another workspace -/

def aliceId : Uuid := ⟨1⟩

def bobId : Uuid := ⟨2⟩

def workspaceRow (ownerId organizationId : Uuid) (name : String) : WorkspaceRow where
  createdAt := .unixEpoch
  updatedAt := .unixEpoch
  deleted := false
  ownerId
  organizationId
  templateId := ⟨30⟩
  name
  autostartSchedule := none
  ttl := none
  lastUsedAt := .unixEpoch
  dormantAt := none
  deletingAt := none
  automaticUpdates := "never"
  nextStartAt := none

def buildRow : WorkspaceBuildRow where
  createdAt := .unixEpoch
  updatedAt := .unixEpoch
  workspaceId := ⟨12⟩
  buildNumber := 1
  transition := "start"
  jobId := some ⟨41⟩
  templateVersionId := ⟨31⟩
  initiatorId := bobId
  provisionerState := none
  deadline := none
  maxDeadline := none
  reason := "initiator"
  dailyCost := 0

def mainAgent : WorkspaceAgentRow where
  createdAt := .unixEpoch
  name := "main"
  firstConnectedAt := some .unixEpoch
  lastConnectedAt := some .unixEpoch
  disconnectedAt := none
  resourceId := ⟨51⟩
  deleted := false

/-- Alice's workspace `dev` has not been built yet. Bob's `prod`, of another organization, runs with
one agent, `main`. -/
def twoOwners : AppDb id where
  users := ((∅ : HashMap Uuid UserRow).insert bobId ⟨"bob", false⟩).insert aliceId ⟨"alice", false⟩
  organizationMembers := ⟨[(⟨21⟩, aliceId), (⟨22⟩, bobId)], by decide⟩
  workspaces :=
    ((∅ : HashMap Uuid WorkspaceRow).insert ⟨12⟩ (workspaceRow bobId ⟨22⟩ "prod")).insert ⟨11⟩
      (workspaceRow aliceId ⟨21⟩ "dev")
  builds := (∅ : HashMap Uuid WorkspaceBuildRow).insert ⟨31⟩ buildRow
  resources := (∅ : HashMap Uuid WorkspaceResourceRow).insert ⟨51⟩ ⟨⟨41⟩, "dev"⟩
  agents := (∅ : HashMap Uuid WorkspaceAgentRow).insert ⟨0x3d⟩ mainAgent
  apps := ∅
  oneUsername := by
    intro i j row row' hrow hrow' _ _ hname
    simp only [HashMap.lookup_insert_ite, AList.lookup_empty] at hrow hrow'
    grind
  oneName := by
    intro i j row row' hrow hrow' _ _ howner _
    simp only [HashMap.lookup_insert_ite, AList.lookup_empty] at hrow hrow'
    grind [workspaceRow, aliceId, bobId]
  oneNumber := by
    intro i j row row' hrow hrow' _ _
    simp only [HashMap.lookup_insert_ite, AList.lookup_empty] at hrow hrow'
    grind

@[reducible]
def quotedText : DebugText := ⟨String.quote⟩

/-- The parser on the one URL that is looked at below. -/
@[reducible]
def agentUrls : UrlParser where
  parse text :=
    if text = "http://main:8080" then .ok ⟨"http://main:8080/", some 8080⟩
    else .error "relative URL without a base"

/-- `/@alice/dev.00000000-0000-0000-0000-00000000003d/apps/8080`, as it comes in. -/
def borrowedAgent : AppRequest where
  accessMethod := .path
  basePath := "/@alice/dev.00000000-0000-0000-0000-00000000003d/apps/8080/"
  appPrefix := ""
  usernameOrId := "alice"
  workspaceAndAgent := "dev.00000000-0000-0000-0000-00000000003d"
  workspaceNameOrId := ""
  agentNameOrId := ""
  appSlugOrPort := "8080"

def borrowedApp : ResolvedApp where
  url := ⟨"http://main:8080/", some 8080⟩
  agentId := ⟨0x3d⟩
  workspaceId := ⟨11⟩
  workspaceOrganizationId := ⟨21⟩
  sharingLevel := ""
  slugOrPort := "8080"

/-- The traffic goes to Bob's agent, the workspace and the organization are Alice's. -/
theorem borrowedAgent_resolves :
    (@AppRequest.check quotedText borrowedAgent.normalize).isOk = true ∧
      @resolveAppContext quotedText agentUrls id twoOwners borrowedAgent.normalize false =
        .ok borrowedApp ∧
      ¬ @Consistent id agentUrls twoOwners borrowedAgent.normalize false borrowedApp := by
  refine ⟨by decide +kernel, by rfl, ?_⟩
  intro h
  obtain ⟨buildId, build, jobId, ⟨hlookup, hworkspace, -⟩, -⟩ := @Consistent.agent _ agentUrls _ _ _ _ h
  simp only [twoOwners, HashMap.lookup_insert_ite, AList.lookup_empty] at hlookup
  split at hlookup
  · cases hlookup
    cases hworkspace
  · cases hlookup

end Coderd.WorkspaceApps
