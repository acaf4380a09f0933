import Coderd.WorkspaceApps.Consistency

namespace Coderd.WorkspaceApps

open Coderd.Foundation Coderd.Catalog
open Coderd.Rbac (eqIgnoreAsciiCase)

/-- What of the caller's request goes on. The body is what was read of it. -/
structure HttpRequest where
  method : String
  query : String
  body : Except String (List UInt8)

/-- The outbound request. -/
structure Upstream where
  resolved : ResolvedApp
  method : String
  path : String
  query : String
  body : List UInt8

inductive Proxied where
  | redirected (location : String)
  | forwarded (upstream : Upstream)

section

variable {lower : String → String}

/-- Nothing is asked of a caller unless the app is shared with the organization. -/
def enforceOrganizationSharing (db : AppDb lower) (sharingLevel : String)
    (workspaceOrganizationId : Uuid) (userId : Option Uuid) : Except WorkspaceAppError Unit :=
  if !eqIgnoreAsciiCase sharingLevel "organization" then .ok ()
  else
    match userId with
    | none => .error .unauthorized
    | some userId =>
      match db.findOrganizationMember workspaceOrganizationId userId with
      | none => .error (.classified .notOrganizationMember)
      | some _ => .ok ()

def validatePort (url : Url) : Except WorkspaceAppError Unit :=
  match url.port with
  | none => .ok ()
  | some port =>
    if port < agentMinimumListeningPort then .error (portNotPermitted "Application port" port)
    else .ok ()

def maxBodyBytes : Nat := 64 * 1024 * 1024

def readBody (http : HttpRequest) : Except WorkspaceAppError (List UInt8) :=
  match http.body with
  | .error e => .error (.proxyError ("failed to read request body: " ++ e))
  | .ok bytes =>
    if maxBodyBytes < bytes.length then
      .error (.proxyError "failed to read request body: length limit exceeded")
    else .ok bytes

variable [DebugText] [UrlParser]

def proxyWorkspaceApp (db : AppDb lower) (userId : Option Uuid) (call : ProxyCall)
    (http : HttpRequest) : Except WorkspaceAppError Proxied :=
  match userId with
  | none => .error .unauthorized
  | some userId => do
    let resolved ← resolveAppContext db call.request call.slugIsPort
    enforceOrganizationSharing db resolved.sharingLevel resolved.workspaceOrganizationId
      (some userId)
    validatePort resolved.url
    if call.appPath.isEmpty then
      return .redirected (trimEndSlashes call.request.basePath ++ "/")
    else
      let body ← readBody http
      return .forwarded
        { resolved
          method := http.method
          path := call.appPath
          query := http.query
          body }

end

/-! ## Who may be let through -/

section

variable {lower : String → String}

/-- The agent is one of a build of the workspace. -/
def AgentOfWorkspace (db : AppDb lower) (agentId workspaceId : Uuid) (row : WorkspaceRow) : Prop :=
  db.workspaces.lookup workspaceId = some row ∧
    ∃ buildId build jobId, db.builds.lookup buildId = some build ∧
      build.workspaceId = workspaceId ∧ build.jobId = some jobId ∧ AgentOfJob db agentId jobId

/-- The app behind the slug; a port is no app. -/
def servedApp (db : AppDb lower) (agentId : Uuid) (slug : String) (slugIsPort : Bool) :
    Option WorkspaceAppRow :=
  match portOf slug slugIsPort with
  | some _ => none
  | none => (db.findWorkspaceAppByAgentAndSlug agentId slug).map (·.2)

/-- The user owns the agent's workspace, or the app is shared with the user. -/
def Admitted (db : AppDb lower) (userId agentId : Uuid) (app : Option WorkspaceAppRow) : Prop :=
  ∃ workspaceId row, AgentOfWorkspace db agentId workspaceId row ∧
    (row.ownerId = userId ∨ ∃ shared, app = some shared ∧
      (shared.sharingLevel = .authenticated ∨ shared.sharingLevel = .public ∨
        shared.sharingLevel = .organization ∧
          (row.organizationId, userId) ∈ db.organizationMembers))

/-- The call gets past everything but the check of the sharing level. -/
structure Reaches [UrlParser] (db : AppDb lower) (call : ProxyCall) (http : HttpRequest)
    (agentId : Uuid) (named : WorkspaceRow) : Prop where
  agent : NamesAgent db call.request agentId
  workspace : ∃ workspaceId, NamesWorkspace db call.request workspaceId named
  target : ∃ agent url level, db.agents.lookup agentId = some agent ∧ agent.deleted = false ∧
    Reporting agent ∧
    Serves db agentId agent call.request.appSlugOrPort call.slugIsPort url level ∧
    ∀ port, url.port = some port → agentMinimumListeningPort ≤ port
  path : call.appPath.isEmpty = false
  body : ∃ bytes, http.body = .ok bytes ∧ bytes.length ≤ maxBodyBytes

/-- The three kinds of target that nothing keeps from a stranger. -/
inductive Trespass (db : AppDb lower) (userId agentId : Uuid) (named : WorkspaceRow)
    (app : Option WorkspaceAppRow) : Prop
  /-- A port, or an app that is shared with nobody, of other users' workspaces. -/
  | unshared (level : ∀ a, app = some a → a.sharingLevel = .owner)
      (foreign : ∀ workspaceId row, AgentOfWorkspace db agentId workspaceId row →
        row.ownerId ≠ userId) :
      Trespass db userId agentId named app
  /-- An app that is shared with an organization, asked for by way of a workspace of another. -/
  | borrowed (a : WorkspaceAppRow) (found : app = some a) (level : a.sharingLevel = .organization)
      (member : (db.findOrganizationMember named.organizationId userId).isSome = true)
      (foreign : ∀ workspaceId row, AgentOfWorkspace db agentId workspaceId row →
        row.ownerId ≠ userId ∧ (row.organizationId, userId) ∉ db.organizationMembers) :
      Trespass db userId agentId named app
  /-- An app of an agent that no workspace has. -/
  | stray (a : WorkspaceAppRow) (found : app = some a)
      (level : a.sharingLevel = .authenticated ∨ a.sharingLevel = .public)
      (nowhere : ∀ workspaceId row, ¬ AgentOfWorkspace db agentId workspaceId row) :
      Trespass db userId agentId named app

/-- The sharing level that is looked at is the one of the app. -/
theorem Serves.level_eq [UrlParser] {db : AppDb lower} {agentId : Uuid} {agent : WorkspaceAgentRow}
    {slug : String} {slugIsPort : Bool} {url : Url} {level : String}
    (h : Serves db agentId agent slug slugIsPort url level) :
    servedApp db agentId slug slugIsPort = none ∧ level = "" ∨
      ∃ a, servedApp db agentId slug slugIsPort = some a ∧ level = a.sharingLevel.asStr := by
  unfold servedApp
  cases h with
  | port protocol port _ hport => exact Or.inl ⟨by rw [hport], rfl⟩
  | app appId app _ hport hfound => exact Or.inr ⟨app, by rw [hport, hfound]; rfl, rfl⟩

theorem enforceOrganizationSharing_ok_iff {db : AppDb lower} {level : String}
    {organizationId userId : Uuid} :
    enforceOrganizationSharing db level organizationId (some userId) = .ok () ↔
      (eqIgnoreAsciiCase level "organization" = true →
        (db.findOrganizationMember organizationId userId).isSome = true) := by
  unfold enforceOrganizationSharing
  by_cases hlevel : eqIgnoreAsciiCase level "organization" = true
  · simp only [hlevel, Bool.not_true, Bool.false_eq_true, if_false, true_implies]
    cases db.findOrganizationMember organizationId userId with
    | none => simp
    | some member => simp
  · simp [hlevel]

theorem validatePort_ok_iff {url : Url} :
    validatePort url = .ok () ↔ ∀ port, url.port = some port → agentMinimumListeningPort ≤ port := by
  unfold validatePort
  cases url.port with
  | none => simp
  | some port =>
    simp only [Option.some.injEq, forall_eq']
    split
    · rename_i hlow
      simp [hlow]
    · rename_i hhigh
      simpa using hhigh

theorem readBody_ok_iff {http : HttpRequest} {bytes : List UInt8} :
    readBody http = .ok bytes ↔ http.body = .ok bytes ∧ bytes.length ≤ maxBodyBytes := by
  unfold readBody
  cases http.body with
  | error e => simp
  | ok read =>
    simp only [Except.ok.injEq]
    split
    · rename_i hlong
      constructor
      · intro h
        cases h
      · rintro ⟨rfl, hshort⟩
        omega
    · rename_i hshort
      simp only [Except.ok.injEq]
      exact ⟨fun h => ⟨h, h ▸ not_lt.mp hshort⟩, fun h => h.1⟩

/-! ## What is forwarded -/

variable [DebugText] [UrlParser] {db : AppDb lower} {userId : Uuid} {call : ProxyCall}
  {http : HttpRequest}

/-- The only check of the caller: an app of the organization's is for its members. -/
def PassesSharing (db : AppDb lower) (userId : Uuid) (named : WorkspaceRow)
    (app : Option WorkspaceAppRow) : Prop :=
  ∀ a, app = some a → a.sharingLevel = .organization →
    (db.findOrganizationMember named.organizationId userId).isSome = true

omit [DebugText] in
theorem Serves.passesSharing_iff {agentId : Uuid} {agent : WorkspaceAgentRow} {slug : String}
    {slugIsPort : Bool} {url : Url} {level : String} {named : WorkspaceRow}
    (h : Serves db agentId agent slug slugIsPort url level) :
    enforceOrganizationSharing db level named.organizationId (some userId) = .ok () ↔
      PassesSharing db userId named (servedApp db agentId slug slugIsPort) := by
  rw [enforceOrganizationSharing_ok_iff, PassesSharing]
  rcases h.level_eq with ⟨hnone, rfl⟩ | ⟨a, hsome, rfl⟩
  · have hport : eqIgnoreAsciiCase "" "organization" = false := by decide
    simp [hnone, hport]
  · rw [AppSharingLevel.isOrganization_asStr]
    simp [hsome]

theorem forwarded_reaches {upstream : Upstream}
    (h : proxyWorkspaceApp db (some userId) call http = .ok (.forwarded upstream)) :
    ∃ named, Reaches db call http upstream.resolved.agentId named ∧
      PassesSharing db userId named
        (servedApp db upstream.resolved.agentId call.request.appSlugOrPort call.slugIsPort) := by
  obtain ⟨resolved, hresolved, h⟩ := Except.bind_eq_ok_iff.mp h
  obtain ⟨⟨⟩, hsharing, h⟩ := Except.bind_eq_ok_iff.mp h
  obtain ⟨⟨⟩, hport, h⟩ := Except.bind_eq_ok_iff.mp h
  split at h
  · cases h
  rename_i hpath
  obtain ⟨bytes, hbody, h⟩ := Except.bind_eq_ok_iff.mp h
  cases h
  have hresolves := resolveAppContext_ok_iff.mp hresolved
  obtain ⟨named, hnamed, horganization⟩ := hresolves.workspace
  obtain ⟨agent, hlookup, hlive, hreporting, hserves⟩ := hresolves.target
  rw [horganization] at hsharing
  exact ⟨named,
    { agent := hresolves.agent
      workspace := ⟨_, hnamed⟩
      target := ⟨agent, _, _, hlookup, hlive, hreporting, hserves, validatePort_ok_iff.mp hport⟩
      path := Bool.eq_false_iff.mpr hpath
      body := ⟨bytes, readBody_ok_iff.mp hbody⟩ },
    hserves.passesSharing_iff.mp hsharing⟩

theorem Reaches.forwarded {agentId : Uuid} {named : WorkspaceRow}
    (h : Reaches db call http agentId named)
    (hsharing : PassesSharing db userId named
      (servedApp db agentId call.request.appSlugOrPort call.slugIsPort)) :
    ∃ upstream, proxyWorkspaceApp db (some userId) call http = .ok (.forwarded upstream) ∧
      upstream.resolved.agentId = agentId := by
  obtain ⟨hagent, ⟨workspaceId, hnamed⟩, ⟨agent, url, level, hlookup, hlive, hreporting, hserves,
    hport⟩, hpath, bytes, hbody⟩ := h
  let resolved : ResolvedApp :=
    { url
      agentId
      workspaceId
      workspaceOrganizationId := named.organizationId
      sharingLevel := level
      slugOrPort := call.request.appSlugOrPort }
  have hresolves : Resolves db call.request call.slugIsPort resolved :=
    ⟨hagent, ⟨named, hnamed, rfl⟩, ⟨agent, hlookup, hlive, hreporting, hserves⟩, rfl⟩
  refine ⟨⟨resolved, http.method, call.appPath, http.query, bytes⟩, ?_, rfl⟩
  refine Except.bind_eq_ok_iff.mpr ⟨resolved, resolveAppContext_ok_iff.mpr hresolves, ?_⟩
  refine Except.bind_eq_ok_iff.mpr ⟨(), hserves.passesSharing_iff.mpr hsharing, ?_⟩
  refine Except.bind_eq_ok_iff.mpr ⟨(), validatePort_ok_iff.mpr hport, ?_⟩
  rw [hpath, if_neg Bool.false_ne_true]
  exact Except.bind_eq_ok_iff.mpr ⟨bytes, readBody_ok_iff.mpr hbody, rfl⟩

omit [DebugText] [UrlParser] in
/-- A caller that passes the check is admitted, unless the target is one of the three kinds. -/
theorem admitted_iff_not_trespass {agentId : Uuid} {named : WorkspaceRow}
    {app : Option WorkspaceAppRow} (hsharing : PassesSharing db userId named app) :
    Admitted db userId agentId app ↔ ¬ Trespass db userId agentId named app := by
  constructor
  · rintro ⟨workspaceId, row, hagent, hadmitted⟩ htrespass
    cases htrespass with
    | unshared hlevel hforeign =>
      rcases hadmitted with howner | ⟨a, hfound, hshared⟩
      · exact hforeign workspaceId row hagent howner
      · simp [hlevel a hfound] at hshared
    | borrowed a hfound hlevel _ hforeign =>
      obtain ⟨howner, hmember⟩ := hforeign workspaceId row hagent
      rcases hadmitted with howner' | ⟨a', hfound', hshared⟩
      · exact howner howner'
      · rw [hfound] at hfound'
        cases hfound'
        simp [hlevel, hmember] at hshared
    | stray _ _ _ hnowhere => exact hnowhere workspaceId row hagent
  · intro htrespass
    by_contra hrefused
    have hforeign : ∀ workspaceId row, AgentOfWorkspace db agentId workspaceId row →
        row.ownerId ≠ userId := by
      intro workspaceId row hagent howner
      exact hrefused ⟨workspaceId, row, hagent, Or.inl howner⟩
    cases happ : app with
    | none => exact htrespass (.unshared (by simp [happ]) hforeign)
    | some a =>
      cases hlevel : a.sharingLevel with
      | owner =>
        refine htrespass (.unshared ?_ hforeign)
        intro a' ha'
        rw [happ] at ha'
        cases ha'
        exact hlevel
      | organization =>
        refine htrespass (.borrowed a happ hlevel (hsharing a happ hlevel) ?_)
        intro workspaceId row hagent
        refine ⟨hforeign workspaceId row hagent, fun hmember => ?_⟩
        exact hrefused ⟨workspaceId, row, hagent, Or.inr ⟨a, happ, by simp [hlevel, hmember]⟩⟩
      | authenticated =>
        refine htrespass (.stray a happ (Or.inl hlevel) fun workspaceId row hagent => ?_)
        exact hrefused ⟨workspaceId, row, hagent, Or.inr ⟨a, happ, Or.inl hlevel⟩⟩
      | «public» =>
        refine htrespass (.stray a happ (Or.inr hlevel) fun workspaceId row hagent => ?_)
        exact hrefused ⟨workspaceId, row, hagent, Or.inr ⟨a, happ, Or.inr (Or.inl hlevel)⟩⟩

/-- Whatever way in a user takes, only what the user is admitted to is forwarded, exactly when the
target that is reached is of none of the three kinds. -/
theorem forwards_admitted_iff (config : Config) (db : AppDb lower) (userId : Uuid)
    (entry : AppEntry) (http : HttpRequest) :
    (∀ call upstream, entry.proxyCall config = .ok call →
      proxyWorkspaceApp db (some userId) call http = .ok (.forwarded upstream) →
      Admitted db userId upstream.resolved.agentId
        (servedApp db upstream.resolved.agentId call.request.appSlugOrPort call.slugIsPort)) ↔
      ∀ call agentId named, entry.proxyCall config = .ok call →
        Reaches db call http agentId named →
        ¬ Trespass db userId agentId named
          (servedApp db agentId call.request.appSlugOrPort call.slugIsPort) := by
  constructor
  · intro h call agentId named hcall hreaches htrespass
    have hsharing : PassesSharing db userId named
        (servedApp db agentId call.request.appSlugOrPort call.slugIsPort) := by
      intro a hfound hlevel
      cases htrespass with
      | unshared howner => simp [howner a hfound] at hlevel
      | borrowed _ _ _ hmember => exact hmember
      | stray a' hfound' hlevel' =>
        rw [hfound] at hfound'
        cases hfound'
        simp [hlevel] at hlevel'
    obtain ⟨upstream, hforwarded, rfl⟩ := hreaches.forwarded hsharing
    exact (admitted_iff_not_trespass hsharing).mp (h call upstream hcall hforwarded) htrespass
  · intro h call upstream hcall hforwarded
    obtain ⟨named, hreaches, hsharing⟩ := forwarded_reaches hforwarded
    exact (admitted_iff_not_trespass hsharing).mpr (h call _ named hcall hreaches)

end

/-! ### The port of somebody else -/

/-- `/@bob/prod/apps/8080`, as Alice asks for it. -/
def bobsPort : AppEntry := .path "bob" "prod" "8080" "/@bob/prod/apps/8080/"

def getRequest : HttpRequest := ⟨"GET", "", .ok []⟩

def bobsPortCall : ProxyCall where
  request :=
    { accessMethod := .path
      basePath := "/@bob/prod/apps/8080/"
      appPrefix := ""
      usernameOrId := "bob"
      workspaceAndAgent := ""
      workspaceNameOrId := "prod"
      agentNameOrId := ""
      appSlugOrPort := "8080" }
  appPath := "/"
  slugIsPort := false

def bobsPortUpstream : Upstream where
  resolved :=
    { url := ⟨"http://main:8080/", some 8080⟩
      agentId := ⟨0x3d⟩
      workspaceId := ⟨12⟩
      workspaceOrganizationId := ⟨22⟩
      sharingLevel := ""
      slugOrPort := "8080" }
  method := "GET"
  path := "/"
  query := ""
  body := []

/-- Alice is let through to the port, though the one workspace of the agent is Bob's. -/
theorem strangersPort_forwarded :
    @AppEntry.proxyCall quotedText ⟨false, "https://coder.example.com"⟩ bobsPort =
        .ok bobsPortCall ∧
      @proxyWorkspaceApp id quotedText agentUrls twoOwners (some aliceId) bobsPortCall getRequest =
        .ok (.forwarded bobsPortUpstream) ∧
      ¬ Admitted twoOwners aliceId bobsPortUpstream.resolved.agentId
        (servedApp twoOwners bobsPortUpstream.resolved.agentId "8080" false) := by
  refine ⟨by rfl, by rfl, ?_⟩
  rintro ⟨workspaceId, row, ⟨hrow, buildId, build, jobId, hbuild, rfl, -⟩, hadmitted⟩
  simp only [twoOwners, HashMap.lookup_insert_ite, AList.lookup_empty] at hbuild hrow
  split at hbuild
  · cases hbuild
    have howner : row.ownerId = bobId := by
      simp only [buildRow] at hrow
      split at hrow <;> grind [workspaceRow]
    rcases hadmitted with h | ⟨a, ha, -⟩
    · rw [howner] at h
      cases h
    · cases ha
  · cases hbuild

end Coderd.WorkspaceApps
