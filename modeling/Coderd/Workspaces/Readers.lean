import Coderd.Auth.Middleware
import Coderd.Rbac.Pushdown
import Coderd.Workspaces.Catalog

namespace Coderd.Readers

open Coderd.Foundation Coderd.Catalog
open Coderd.Auth (trim)
open Coderd.CryptoKeys (OffsetDateTime)
open Coderd.Rbac

/-! ## What is read besides the catalogue -/

/-- A row of `provisioner_job_logs`, without its id. -/
structure ProvisionerJobLogRow where
  jobId : Uuid
  createdAt : OffsetDateTime
  source : String
  level : String
  stage : String
  output : String

structure ProvisionerJobTimingRecord where
  jobId : Uuid
  startedAt : OffsetDateTime
  endedAt : OffsetDateTime
  stage : String
  source : String
  action : String
  resource : String

/-- A row of `workspace_agent_scripts`, without its id. -/
structure WorkspaceAgentScriptRow where
  workspaceAgentId : Uuid
  displayName : String

/-- A row of `workspace_agent_script_timings`. -/
structure ScriptTimingRow where
  scriptId : Uuid
  startedAt : OffsetDateTime
  endedAt : OffsetDateTime
  exitCode : Int
  stage : String
  status : String

/-- The timing of a script with the script and the agent it is joined with. -/
structure WorkspaceAgentScriptTimingRow where
  timing : ScriptTimingRow
  displayName : String
  workspaceAgentId : Uuid
  workspaceAgentName : String

/-- A row of `workspace_agent_port_shares`, without its key. -/
structure PortShareRow where
  shareLevel : String
  protocol : String

/-- A favorite is a pair `(workspace_id, user_id)`, a parameter has the key
`(workspace_build_id, name)`, a share the key `(workspace_id, agent_name, port)`. -/
structure ReaderDb (lower : String → String) extends Db lower where
  templates : HashMap Uuid String
  favorites : HashSet (Uuid × Uuid)
  jobLogs : HashMap Int ProvisionerJobLogRow
  buildParameters : HashMap (Uuid × String) String
  jobTimings : List ProvisionerJobTimingRecord
  scripts : HashMap Uuid WorkspaceAgentScriptRow
  scriptTimings : List ScriptTimingRow
  portShares : HashMap (Uuid × String × Int) PortShareRow

/-- A workspace as the viewer finds it. -/
structure WorkspaceRecord where
  id : Uuid
  columns : WorkspaceRow
  favorite : Bool

/-! ## Queries -/

/-- `LIKE`, with the backslash as its escape. -/
def like : List Char → List Char → Bool
  | [], text => text.isEmpty
  | '%' :: pattern, text => text.tails.any (like pattern)
  | '_' :: pattern, text => !text.isEmpty && like pattern text.tail
  | '\\' :: c :: pattern, text => text.head? = some c && like pattern text.tail
  | c :: pattern, text => text.head? = some c && like pattern text.tail

structure WorkspaceListFilter where
  ownerId : Option Uuid
  ownerUsername : Option String
  templateName : Option String
  templateIds : List Uuid
  name : Option String
  dormant : Option Bool
  organizationId : Option Uuid
  limit : Nat
  offset : Nat
  viewerId : Option Uuid
  authzFilter : Option SqlFilter

/-- The pattern for a search of the name, with its own wildcards escaped. -/
def searchPattern (name : String) : Option String :=
  let name := String.ofList (trim name.toList)
  if name.isEmpty then none
  else some ("%" ++ (name.replace "%" "\\%").replace "_" "\\_" ++ "%")

/-- The columns that a filter may name. -/
def columnsOf (id ownerId organizationId : Uuid) : Row Uuid
  | "w.organization_id" => organizationId
  | "w.owner_id" => ownerId
  | _ => id

def WorkspaceListFilter.authorizes (filter : WorkspaceListFilter) (id : Uuid) (row : WorkspaceRow) :
    Bool :=
  filter.authzFilter.all fun authz =>
    authz.isAllowAll || authz.selects (columnsOf id row.ownerId row.organizationId)

namespace ReaderDb

variable {lower : String → String} (db : ReaderDb lower)

def record (viewerId : Option Uuid) (id : Uuid) (row : WorkspaceRow) : WorkspaceRecord where
  id := id
  columns := row
  favorite := viewerId.any fun viewer => decide ((id, viewer) ∈ db.favorites)

/-- The conditions of the query, those on joined rows included. -/
def listed (filter : WorkspaceListFilter) (id : Uuid) (row : WorkspaceRow) : Bool :=
  !row.deleted &&
  filter.ownerId.all (row.ownerId = ·) &&
  filter.ownerUsername.all (fun username =>
    (db.users.lookup row.ownerId).any (·.username = username)) &&
  (filter.name.bind searchPattern).all (fun pattern =>
    like (lower pattern).toList (lower row.name).toList) &&
  filter.templateName.all (fun name => db.templates.lookup row.templateId = some name) &&
  filter.organizationId.all (row.organizationId = ·) &&
  filter.dormant.all (row.dormantAt.isSome = ·) &&
  (filter.templateIds.isEmpty || filter.templateIds.contains row.templateId) &&
  filter.authorizes id row

/-- The page of the workspaces, those used last first, and how many there are in all. -/
def listWorkspaces (filter : WorkspaceListFilter) : List WorkspaceRecord × Nat :=
  if filter.authzFilter.any (·.isDenyAll) then ([], 0)
  else
    let rows := db.workspaces.selectOrdered (db.listed filter) fun row => -row.lastUsedAt.unixNanos
    let page := (rows.drop filter.offset).take (min filter.limit 1000)
    (page.map fun e => db.record filter.viewerId e.1 e.2, rows.length)

def findWorkspaceRecordById (id : Uuid) (viewerId : Option Uuid) : Option WorkspaceRecord :=
  (db.findWorkspaceById id).map (db.record viewerId id)

def findWorkspaceRecordByOwnerAndName (ownerId : Uuid) (name : String) (viewerId : Option Uuid) :
    Option WorkspaceRecord :=
  (db.findWorkspaceByOwnerAndName ownerId name).map fun e => db.record viewerId e.1 e.2

def listWorkspaceBuilds (workspaceId : Uuid) (limit offset : Nat) :
    Except String (List WorkspaceBuildRecord) :=
  let rows := db.builds.selectOrdered (fun _ row => row.workspaceId = workspaceId)
    fun row => -row.buildNumber
  ((rows.drop offset).take (min limit 1000)).mapM fun e => workspaceBuildRecordFromRow e.1 e.2

def findWorkspaceBuildById (buildId : Uuid) : Except String (Option WorkspaceBuildRecord) :=
  match db.builds.lookup buildId with
  | none => .ok none
  | some row => (workspaceBuildRecordFromRow buildId row).map some

def findWorkspaceBuildByNumber (workspaceId : Uuid) (number : Int) :
    Except String (Option WorkspaceBuildRecord) :=
  match db.builds.selectFirst fun _ row =>
      row.workspaceId = workspaceId && row.buildNumber = number with
  | none => .ok none
  | some (id, row) => (workspaceBuildRecordFromRow id row).map some

def listProvisionerJobLogs (jobId : Uuid) (after : Option Int) :
    List (Int × ProvisionerJobLogRow) :=
  (db.jobLogs.selectAll fun id row => row.jobId = jobId && after.all (· < id)).insertionSort
    fun a b => a.1 ≤ b.1

def listWorkspaceBuildParameters (buildId : Uuid) : List ((Uuid × String) × String) :=
  (db.buildParameters.selectAll fun key _ => key.1 = buildId).insertionSort
    fun a b => a.1.2 ≤ b.1.2

def listProvisionerJobTimings (jobId : Uuid) : List ProvisionerJobTimingRecord :=
  (db.jobTimings.filter (·.jobId = jobId)).insertionSort
    fun a b => a.startedAt.unixNanos ≤ b.startedAt.unixNanos

/-- The script of a timing, if it is one of an agent of the build. -/
def joinScriptTiming (buildId : Uuid) (timing : ScriptTimingRow) :
    Option WorkspaceAgentScriptTimingRow := do
  let script ← db.scripts.lookup timing.scriptId
  let agent ← db.agents.lookup script.workspaceAgentId
  let resource ← db.resources.lookup agent.resourceId
  let build ← db.builds.lookup buildId
  if build.jobId = some resource.jobId then
    some ⟨timing, script.displayName, script.workspaceAgentId, agent.name⟩
  else none

/-- `DISTINCT ON`: the first one of each key. -/
def distinctOn {α κ : Type} [DecidableEq κ] (key : α → κ) : List α → List α
  | [] => []
  | a :: rest => a :: (distinctOn key rest).filter fun b => key b ≠ key a

def listWorkspaceAgentScriptTimingsByBuildId (buildId : Uuid) :
    List WorkspaceAgentScriptTimingRow :=
  distinctOn (·.timing.scriptId) <|
    (db.scriptTimings.filterMap (db.joinScriptTiming buildId)).insertionSort fun a b =>
      a.timing.scriptId.bits < b.timing.scriptId.bits ∨
        (a.timing.scriptId = b.timing.scriptId ∧
          a.timing.startedAt.unixNanos ≤ b.timing.startedAt.unixNanos)

def listWorkspacePortShares (workspaceId : Uuid) : List ((Uuid × String × Int) × PortShareRow) :=
  (db.portShares.selectAll fun key _ => key.1 = workspaceId).insertionSort fun a b =>
    a.1.2.1 < b.1.2.1 ∨ (a.1.2.1 = b.1.2.1 ∧ a.1.2.2 ≤ b.1.2.2)

end ReaderDb

/-! ## Requests and responses -/

structure WorkspacesQuery where
  owner : Option String
  template : Option String
  name : Option String
  dormant : Option Bool
  limit : Option Nat
  offset : Option Nat

/-- What the subscription of a watcher delivers: the workspace that the event is about, if its text
is an event, and what the store returns then. -/
structure WatchedEvent (lower : String → String) where
  workspaceId : Option Uuid
  store : Except String (ReaderDb lower)

inductive Request (lower : String → String) where
  | listWorkspaces (query : WorkspacesQuery)
  | getWorkspace (workspaceId : Uuid)
  | getUserWorkspaceByName (user name : String)
  | getUserWorkspaceBuildByNumber (user name : String) (number : Int)
  | listWorkspaceBuilds (workspaceId : Uuid) (limit offset : Option Nat)
  | getWorkspaceBuild (buildId : Uuid)
  | getWorkspaceBuildLogs (buildId : Uuid) (after : Option Int)
  | getWorkspaceBuildParameters (buildId : Uuid)
  | getWorkspaceBuildState (buildId : Uuid)
  | getWorkspaceTimings (workspaceId : Uuid)
  | listWorkspacePortShares (workspaceId : Uuid)
  | getWorkspaceWatch (workspaceId : Uuid) (events : List (WatchedEvent lower))

inductive Sse where
  | ping
  | data (workspace : WorkspaceRecord)
  | error (message : String)

/-- A response, with the rows that its text is made from. -/
inductive Response where
  | notFound
  | forbidden (message : String)
  | storageError (message : String)
  | workspaces (items : List WorkspaceRecord) (count : Nat)
  | workspace (workspace : WorkspaceRecord)
  | watch (events : List Sse)
  | builds (items : List WorkspaceBuildRecord)
  | build (build : WorkspaceBuildRecord)
  | logs (items : List (Int × ProvisionerJobLogRow))
  | parameters (items : List ((Uuid × String) × String))
  | state (build : WorkspaceBuildRecord) (bytes : List UInt8)
  | timings (provisioner : List ProvisionerJobTimingRecord)
      (agentScript : List WorkspaceAgentScriptTimingRow)
  | shares (items : List ((Uuid × String × Int) × PortShareRow))

structure Config where
  rbacSqlFilterEnabled : Bool

/-! ## Handlers -/

def maxPageLimit : Nat := 1000

def clampPaginationLimit (raw : Nat) : Nat := min raw maxPageLimit

/-- A workspace as an object of the policy. -/
def workspaceObject (id ownerId organizationId : Uuid) : Object :=
  (((Object.new .workspace).withId id).withOwner ownerId).inOrg organizationId

def workspaceFilter (actor : Actor) : SqlFilterBuilder :=
  (((SqlFilterBuilder.new actor .workspace .read).withOrgColumn "w.organization_id").withOwnerColumn
    "w.owner_id").withIdColumn "w.id"

/-- The first instant of the year 1, which stands for no time. -/
def goZero : Int := -62135596800 * 10 ^ 9

section

variable {lower : String → String} (config : Config) (actor : Actor) (db : ReaderDb lower)

def resolveUser (requestedUser : String) : Option Uuid :=
  if requestedUser = "me" then (db.findUserById actor.userId).map fun _ => actor.userId
  else
    match Uuid.parse requestedUser with
    | some userId => (db.findUserById userId).map fun _ => userId
    | none => (db.findUserByUsername requestedUser).map (·.1)

variable [UuidText]

def listFilter (query : WorkspacesQuery) : WorkspaceListFilter where
  ownerId := query.owner.bind fun owner =>
    if owner = "me" then some actor.userId else Uuid.parse owner
  ownerUsername := query.owner.filter fun owner =>
    owner ≠ "me" && (Uuid.parse owner).isNone
  templateName := query.template
  templateIds := []
  name := query.name
  dormant := query.dormant
  organizationId := none
  limit := clampPaginationLimit (query.limit.getD 25)
  offset := query.offset.getD 0
  viewerId := some actor.userId
  authzFilter :=
    if config.rbacSqlFilterEnabled then some (workspaceFilter actor).build else none

def listWorkspaces (query : WorkspacesQuery) : Response :=
  let (workspaces, count) := db.listWorkspaces (listFilter config actor query)
  .workspaces workspaces count

def getUserWorkspaceByName (user name : String) : Response :=
  match resolveUser actor db user with
  | none => .notFound
  | some targetUser =>
    match authorize actor .read ((Object.new .workspace).withOwner targetUser) with
    | .error _ => .forbidden "You are not authorized to view this user's workspaces."
    | .ok () =>
      match db.findWorkspaceRecordByOwnerAndName targetUser name (some actor.userId) with
      | none => .notFound
      | some workspace => .workspace workspace

end

section

variable {lower : String → String} (viewer : Uuid) (db : ReaderDb lower)

/-- What follows of a workspace that is found; nothing is asked of the policy. -/
def withWorkspace (workspaceId : Uuid) (respond : WorkspaceRecord → Response) : Response :=
  match db.findWorkspaceRecordById workspaceId (some viewer) with
  | none => .notFound
  | some workspace => respond workspace

/-- What follows of a build that a query has found. -/
def withBuild (found : Except String (Option WorkspaceBuildRecord))
    (respond : WorkspaceBuildRecord → Response) : Response :=
  match found with
  | .error e => .storageError e
  | .ok none => .notFound
  | .ok (some build) => respond build

def getWorkspace (workspaceId : Uuid) : Response :=
  withWorkspace viewer db workspaceId .workspace

def listWorkspaceBuildsHandler (workspaceId : Uuid) (limit offset : Option Nat) : Response :=
  withWorkspace viewer db workspaceId fun _ =>
    match db.listWorkspaceBuilds workspaceId (clampPaginationLimit (limit.getD 25))
        (offset.getD 0) with
    | .error e => .storageError e
    | .ok builds => .builds builds

def listWorkspacePortShares (workspaceId : Uuid) : Response :=
  withWorkspace viewer db workspaceId fun _ => .shares (db.listWorkspacePortShares workspaceId)

def watchEvents (workspaceId : Uuid) : List (WatchedEvent lower) → List Sse
  | [] => []
  | event :: rest =>
    if event.workspaceId = some workspaceId then
      match event.store with
      | .error _ => .error "Internal error fetching workspace." :: watchEvents workspaceId rest
      | .ok db =>
        match db.findWorkspaceRecordById workspaceId (some viewer) with
        | some workspace => .data workspace :: watchEvents workspaceId rest
        | none => []
    else watchEvents workspaceId rest

def getWorkspaceWatch (workspaceId : Uuid) (events : List (WatchedEvent lower)) : Response :=
  withWorkspace viewer db workspaceId fun workspace =>
    .watch (.ping :: .data workspace :: watchEvents viewer workspaceId events)

def getWorkspaceBuild (buildId : Uuid) : Response :=
  withBuild (db.findWorkspaceBuildById buildId) .build

def getWorkspaceBuildLogs (buildId : Uuid) (after : Option Int) : Response :=
  withBuild (db.findWorkspaceBuildById buildId) fun build =>
    .logs (db.listProvisionerJobLogs build.jobId after)

def getWorkspaceBuildParameters (buildId : Uuid) : Response :=
  withBuild (db.findWorkspaceBuildById buildId) fun _ =>
    .parameters (db.listWorkspaceBuildParameters buildId)

def getWorkspaceBuildState (buildId : Uuid) : Response :=
  withBuild (db.findWorkspaceBuildById buildId) fun build =>
    .state build (build.provisionerState.getD [])

def buildTimingsResponse (build : WorkspaceBuildRecord) : Response :=
  .timings
    ((db.listProvisionerJobTimings build.jobId).filter fun t =>
      t.startedAt.unixNanos ≠ goZero && t.endedAt.unixNanos ≠ goZero)
    ((db.listWorkspaceAgentScriptTimingsByBuildId build.id).filter fun t =>
      t.timing.startedAt.unixNanos ≠ goZero && t.timing.endedAt.unixNanos ≠ goZero)

-- Without a build the timings are empty, also those of a workspace that does not exist.
def getWorkspaceTimings (workspaceId : Uuid) : Response :=
  match db.findLatestWorkspaceBuild workspaceId with
  | .error e => .storageError e
  | .ok none => .timings [] []
  | .ok (some build) => buildTimingsResponse db build

def getUserWorkspaceBuildByNumber (actor : Actor) (user name : String) (number : Int) : Response :=
  match resolveUser actor db user with
  | none => .notFound
  | some targetUser =>
    match db.findWorkspaceRecordByOwnerAndName targetUser name (some actor.userId) with
    | none => .notFound
    | some workspace => withBuild (db.findWorkspaceBuildByNumber workspace.id number) .build

end

def handle [UuidText] {lower : String → String} (config : Config) (actor : Actor)
    (db : ReaderDb lower) : Request lower → Response
  | .listWorkspaces query => listWorkspaces config actor db query
  | .getWorkspace workspaceId => getWorkspace actor.userId db workspaceId
  | .getUserWorkspaceByName user name => getUserWorkspaceByName actor db user name
  | .getUserWorkspaceBuildByNumber user name number =>
    getUserWorkspaceBuildByNumber db actor user name number
  | .listWorkspaceBuilds workspaceId limit offset =>
    listWorkspaceBuildsHandler actor.userId db workspaceId limit offset
  | .getWorkspaceBuild buildId => getWorkspaceBuild db buildId
  | .getWorkspaceBuildLogs buildId after => getWorkspaceBuildLogs db buildId after
  | .getWorkspaceBuildParameters buildId => getWorkspaceBuildParameters db buildId
  | .getWorkspaceBuildState buildId => getWorkspaceBuildState db buildId
  | .getWorkspaceTimings workspaceId => getWorkspaceTimings db workspaceId
  | .listWorkspacePortShares workspaceId => listWorkspacePortShares actor.userId db workspaceId
  | .getWorkspaceWatch workspaceId events => getWorkspaceWatch actor.userId db workspaceId events

end Coderd.Readers
