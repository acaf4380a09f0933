import Coderd.Workspaces.Disclosure
import Coderd.Workspaces.Numbers
import Coderd.Workspaces.OneBuild

namespace Coderd.Numbers

open Coderd.Foundation Coderd.Rbac
open Coderd.Builds (Config WorkspaceBody StorageError nanosOfMillis)
open Coderd.Catalog (WorkspaceRow)
open Coderd.Readers (PortShareRow ReaderDb)

/-! ## What is promised -/

inductive Endpoint where
  | putWorkspaceTtl
  | postUserWorkspace
  | postOrgMemberWorkspace
  | postWorkspacePortShare
  | deleteWorkspacePortShare

def Request.endpoint : Request → Endpoint
  | .putWorkspaceTtl _ _ => .putWorkspaceTtl
  | .postUserWorkspace _ _ _ => .postUserWorkspace
  | .postOrgMemberWorkspace _ _ _ _ => .postOrgMemberWorkspace
  | .postWorkspacePortShare _ _ => .postWorkspacePortShare
  | .deleteWorkspacePortShare _ _ => .deleteWorkspacePortShare

/-- What stands in the field for the number. -/
def Request.value : Request → Option Json
  | .putWorkspaceTtl _ ttlMs | .postUserWorkspace _ ttlMs _ | .postOrgMemberWorkspace _ _ ttlMs _ =>
    ttlMs
  | .postWorkspacePortShare _ body | .deleteWorkspacePortShare _ body => body.port

/-- The column holds the number: a `BIGINT` of nanoseconds, an `INTEGER`. -/
def Endpoint.Represents (n : ℤ) : Endpoint → Prop
  | .postWorkspacePortShare | .deleteWorkspacePortShare => Fits 32 n
  | _ => Fits 64 (n * 1000000)

/-- The workspace is there, and wherever it is shown its lifetime is that of so many
milliseconds. -/
structure Store.ShowsTtl (s : Store) (id : Uuid) (n : ℤ) : Prop where
  single : ∃ row, s.findWorkspaceById id = some row ∧
    ∀ favorite, (workspaceToJson ⟨id, row, favorite⟩).ttlMs = some n
  listed : ∀ {lower : String → String} (db : ReaderDb lower),
    db.workspaces = s.builds.workspaces → ∀ filter, ∀ w ∈ (db.listWorkspaces filter).1,
      w.id = id → (workspaceToJson w).ttlMs = some n

/-- What is to be seen of the number once the request is accepted. -/
def Request.Shows (n : ℤ) (before after : Store) : Request → Response → Prop
  | .putWorkspaceTtl workspaceId _, .noContent => after.ShowsTtl workspaceId n
  | .postUserWorkspace _ _ _, .builds (.createdWorkspace id row)
  | .postOrgMemberWorkspace _ _ _ _, .builds (.createdWorkspace id row) =>
    (workspaceToJson ⟨id, row, false⟩).ttlMs = some n ∧ after.ShowsTtl id n
  | .postWorkspacePortShare workspaceId body, .share key row =>
    key = (workspaceId, agentNameOf body, n) ∧
      ∀ key', after.portShares.lookup key' =
        if key' = key then some row else before.portShares.lookup key'
  | .deleteWorkspacePortShare workspaceId body, .noContent =>
    ∀ key, after.portShares.lookup key =
      if key = (workspaceId, agentNameOf body, n) then none else before.portShares.lookup key
  | _, _ => False

def Accepted (e : Ending Op Store (Except StorageError Response)) : Prop :=
  ∃ response, e.result = .ok response ∧ response.accepted = true

/-- The number keeps its value in a run of the request, or the request is turned away. -/
structure KeepsNumber (request : Request) (n : ℤ) (before : Store)
    (e : Ending Op Store (Except StorageError Response)) : Prop where
  shown : ∀ response, e.result = .ok response → response.accepted = true →
    request.Shows n before e.state response
  refused : ¬ request.endpoint.Represents n → e.state = before ∧
    ∀ response, e.result = .ok response → response.accepted = false

/-- A run of a request that sends the number to the endpoint. -/
structure Sent [UuidText] [Builds.QuietHours] [Builds.Collation] (config : Config)
    (endpoint : Endpoint) (n : ℤ) (request : Request) (before : Store)
    (e : Ending Op Store (Except StorageError Response)) : Prop where
  endpoint : request.endpoint = endpoint
  value : request.value = some (.integer n)
  run : ∃ actor choices, (handle actor config request).alone exec before choices = some e

/-! ## Lifetimes -/

variable {n : ℤ}

theorem asI64_of_nanos (h : Fits 64 (n * 1000000)) : (Json.integer n).asI64 = some n := by
  refine Json.asI64_of_fits ?_
  obtain ⟨hle, hlt⟩ := h
  constructor <;> omega

/-- A lifetime that is stored as it is read is shown as it was sent, exactly if its nanoseconds
fit. -/
theorem ttlMs_eq_iff {row : WorkspaceRow} {id : Uuid} {favorite : Bool}
    (hrow : row.ttl = ((Json.integer n).asI64).map nanosOfMillis) :
    (workspaceToJson ⟨id, row, favorite⟩).ttlMs = some n ↔ Fits 64 (n * 1000000) := by
  have hshown : (workspaceToJson ⟨id, row, favorite⟩).ttlMs =
      (((Json.integer n).asI64).map nanosOfMillis).map (Int.tdiv · 1000000) :=
    congrArg (Option.map (Int.tdiv · 1000000)) hrow
  rw [hshown]
  constructor
  · intro h
    obtain ⟨ns, hns, hdiv⟩ := Option.map_eq_some_iff.mp h
    obtain ⟨m, hm, rfl⟩ := Option.map_eq_some_iff.mp hns
    obtain rfl := Json.eq_of_asI64 hm
    exact (tdiv_wrap_mul_eq_iff (by decide) (by decide) (by decide)).mp hdiv
  · intro h
    rw [asI64_of_nanos h, Option.map_some, Option.map_some]
    exact congrArg some ((tdiv_wrap_mul_eq_iff (by decide) (by decide) (by decide)).mpr h)

theorem showsTtl_of_row {s : Store} {id : Uuid} {row : WorkspaceRow}
    (hrow : s.findWorkspaceById id = some row)
    (httl : row.ttl = ((Json.integer n).asI64).map nanosOfMillis)
    (hfits : Fits 64 (n * 1000000)) : s.ShowsTtl id n where
  single := ⟨row, hrow, fun _ => (ttlMs_eq_iff httl).mpr hfits⟩
  listed db hdb filter w hw hid := by
    subst hid
    have hlisted := (Readers.mem_listWorkspaces hw).1
    rw [hdb] at hlisted
    obtain ⟨hstored, -⟩ := Option.filter_eq_some_iff.mp hrow
    rw [hlisted] at hstored
    cases hstored
    exact (ttlMs_eq_iff httl).mpr hfits

theorem findWorkspaceById_updateWorkspaceTtl {s : Store} {id : Uuid} {row : WorkspaceRow}
    {now : CryptoKeys.OffsetDateTime} {ttlNs : Option ℤ}
    (hrow : s.findWorkspaceById id = some row) :
    (s.updateWorkspaceTtl now id ttlNs).2.findWorkspaceById id =
      some { row with ttl := ttlNs, updatedAt := now } := by
  have hlive := (Option.filter_eq_some_iff.mp hrow).2
  rw [Store.updateWorkspaceTtl, hrow]
  simp only [Store.findWorkspaceById, AList.lookup_insert, Option.filter_some]
  exact if_pos hlive

/-! ## Ports -/

theorem portOf_of_fits {body : PortShareBody} (hvalue : body.port = some (.integer n))
    (hfits : Fits 32 n) : portOf body = n := by
  have hwide : Fits 64 n := by
    obtain ⟨hle, hlt⟩ := hfits
    constructor <;> omega
  rw [portOf, hvalue, Option.bind_some, Json.asI64_of_fits hwide]
  exact wrap_of_fits (by decide) hfits

/-! ## The creation of workspaces -/

section

variable {ttl : Option ℤ}

/-- A workspace that is answered has that lifetime, and it is the one that is stored. -/
def CreatesWith (ttl : Option ℤ) (r : Except StorageError Builds.Response) (w : Builds.World) :
    Prop :=
  ∀ response, r = .ok response →
    match response with
    | .createdWorkspace id row =>
      row.ttl = ttl ∧ row.deleted = false ∧ w.workspaces.lookup id = some row
    | .createdBuild _ _ => False
    | _ => True

theorem createsWith_error (e : StorageError) (w : Builds.World) :
    CreatesWith ttl (.error e) w := by
  intro response h
  cases h

theorem createsWith_of_refusal {response : Builds.Response} {w : Builds.World}
    (h : (Response.builds response).accepted = false) : CreatesWith ttl (.ok response) w := by
  intro response' heq
  cases heq
  cases response with
  | createdWorkspace id row => cases h
  | createdBuild id build => cases h
  | _ => trivial

variable [Builds.Collation]

/-- The calls of a build leave the workspaces as they are. -/
theorem workspaces_of_buildsOnly {op : Builds.Op} {w w' : Builds.World} {choice : Builds.Choice}
    {r : op.Response} {workspaceId versionId : Uuid}
    (hop : Builds.BuildsOnly workspaceId versionId op)
    (hexec : Builds.exec op w choice = some (r, w')) : w'.workspaces = w.workspaces := by
  cases Builds.effect_of_exec hexec with
  | insertWorkspace _ => cases hop
  | none => rfl
  | createJob _ => rfl
  | createBuild _ _ _ => rfl
  | parameters _ => rfl
  | acquire _ _ => rfl
  | complete => rfl

/-- A program that makes only such calls leaves a workspace where it is. -/
theorem stored_ensures {α : Type} {p : Builds.Handler α} {id workspaceId versionId : Uuid}
    {row : WorkspaceRow} {w : Builds.World}
    (huses : p.Uses (Builds.BuildsOnly workspaceId versionId))
    (hstored : w.workspaces.lookup id = some row) :
    p.Ensures Builds.exec (fun _ w' => w'.workspaces.lookup id = some row) w :=
  Calls.Ensures.of_uses huses
    (fun _ _ _ _ _ hop hexec hs => (workspaces_of_buildsOnly hop hexec) ▸ hs) hstored

/-- A workspace that is inserted is stored as it is returned. -/
theorem insertWorkspace_ensures {input : Builds.CreateWorkspaceInput} {w : Builds.World} :
    (Builds.ask (.insertWorkspace input)).Ensures Builds.exec
      (fun r w' => ∀ row, r = .ok row → row.ttl = input.ttlNs ∧ row.deleted = false ∧
        w'.workspaces.lookup input.id = some row) w := by
  intro choice r w' hexec row hrow
  subst hrow
  simp only [Builds.exec] at hexec
  split at hexec
  · cases hexec
  · simp only [Builds.perform, Builds.insertWorkspace] at hexec
    split at hexec
    · cases hexec
    · cases hexec
      exact ⟨rfl, rfl, AList.lookup_insert _⟩

variable [Builds.QuietHours] {config : Config} {actor : Actor}

theorem createWorkspace_ensures {targetUser organizationId templateId : Uuid}
    {template : Builds.TemplateRow} {name : String} {body : WorkspaceBody} {w : Builds.World}
    (httl : body.ttlMs.map nanosOfMillis = ttl) :
    (Builds.createWorkspace config actor targetUser organizationId templateId template name
      body).Ensures Builds.exec (CreatesWith ttl) w := by
  intro choice workspaceId w' _
  refine Calls.Ensures.bindOk (insertWorkspace_ensures.mono fun r w₁ hr =>
    ⟨fun e _ => createsWith_error e w₁, fun row hrow => ?_⟩)
  obtain ⟨hkept, hlive, hstored⟩ := hr row hrow
  have hanswer : ∀ w₂ : Builds.World, w₂.workspaces.lookup workspaceId = some row →
      CreatesWith ttl (.ok (.createdWorkspace workspaceId row)) w₂ := by
    intro w₂ hw₂ response hresponse
    cases hresponse
    exact ⟨hkept.trans httl, hlive, hw₂⟩
  refine Calls.Ensures.bindOk ((stored_ensures Builds.startBuild_uses hstored).mono
    fun r w₂ hw₂ => ⟨fun e _ => createsWith_error e w₂, fun build _ => ?_⟩)
  split
  · exact hanswer w₂ hw₂
  · have huses : (Builds.ask (.insertWorkspaceBuildParameters build.1 body.paramPairs)).Uses
        (Builds.BuildsOnly workspaceId ⟨0⟩) :=
      Builds.uses_ask trivial
    exact Calls.Ensures.bindOk ((stored_ensures huses hw₂).mono fun r w₃ hw₃ =>
      ⟨fun e _ => createsWith_error e w₃, fun _ _ => hanswer w₃ hw₃⟩)

variable [UuidText]

theorem postUserWorkspace_ensures {user : String} {body : WorkspaceBody} {w : Builds.World}
    (httl : body.ttlMs.map nanosOfMillis = ttl) :
    (Builds.postUserWorkspace config actor user body).Ensures Builds.exec (CreatesWith ttl) w := by
  refine Calls.Ensures.bindOk_any createsWith_error fun target w₁ => ?_
  split
  · exact createsWith_of_refusal rfl
  · split
    · exact createsWith_of_refusal rfl
    · split
      · exact createsWith_of_refusal rfl
      · refine Calls.Ensures.bindOk_any createsWith_error fun template w₂ => ?_
        split
        · exact createsWith_of_refusal rfl
        · exact createWorkspace_ensures httl

theorem postOrgMemberWorkspace_ensures {organization user : String} {body : WorkspaceBody}
    {w : Builds.World} (httl : body.ttlMs.map nanosOfMillis = ttl) :
    (Builds.postOrgMemberWorkspace config actor organization user body).Ensures Builds.exec
      (CreatesWith ttl) w := by
  refine Calls.Ensures.bindOk_any createsWith_error fun found w₁ => ?_
  split
  · exact createsWith_of_refusal rfl
  · refine Calls.Ensures.bindOk_any createsWith_error fun target w₂ => ?_
    split
    · exact createsWith_of_refusal rfl
    · split
      · exact createsWith_of_refusal rfl
      · split
        · exact createsWith_of_refusal rfl
        · refine Calls.Ensures.bindOk_any createsWith_error fun template w₃ => ?_
          split
          · exact createsWith_of_refusal rfl
          · split
            · exact createsWith_of_refusal rfl
            · exact createWorkspace_ensures httl

end

/-! ## The requests -/

/-- What is asked for of a request whose number fits. -/
def Shown (request : Request) (n : ℤ) (before : Store) (r : Except StorageError Response)
    (after : Store) : Prop :=
  ∀ response, r = .ok response → response.accepted = true →
    request.Shows n before after response

theorem shown_error {request : Request} {before after : Store} (e : StorageError) :
    Shown request n before (.error e) after := by
  intro response h
  cases h

theorem shown_of_refusal {request : Request} {before after : Store} {response : Response}
    (h : response.accepted = false) : Shown request n before (.ok response) after := by
  intro response' heq haccepted
  cases heq
  rw [h] at haccepted
  cases haccepted

section

variable [Builds.Collation]

theorem created_ensures {ttl : Option ℤ} {request : Request} {s : Store}
    {p : Builds.Outcome Builds.Response} (hp : p.Ensures Builds.exec (CreatesWith ttl) s.builds)
    (hshows : ∀ id row (s' : Store), row.ttl = ttl → s'.findWorkspaceById id = some row →
      request.Shows n s s' (.builds (.createdWorkspace id row))) :
    (created p).Ensures exec (Shown request n s) s := by
  have hvia : (p.via Op.builds fun _ r => r : Outcome Builds.Response).Ensures exec
      (fun r s' => CreatesWith ttl r s'.builds) s := by
    refine Calls.Ensures.via Store.builds (fun op s choice r s' hexec => ?_) hp
    obtain ⟨⟨r', w'⟩, hexec', heq⟩ := Option.map_eq_some_iff.mp hexec
    cases heq
    exact hexec'
  refine Calls.Ensures.bindOk (hvia.mono fun r s' hr => ⟨fun e _ => ?_, fun response hok => ?_⟩)
  · intro response h
    cases h
  · intro response' heq haccepted
    cases heq
    have hcreated := hr response hok
    cases response with
    | createdWorkspace id row =>
      obtain ⟨httl, hlive, hstored⟩ := hcreated
      refine hshows id row s' httl ?_
      rw [Store.findWorkspaceById, hstored, Option.filter_some, hlive]
      rfl
    | createdBuild id build => cases hcreated
    | notFound message => cases haccepted
    | forbidden message => cases haccepted
    | validation field detail => cases haccepted

theorem ask_ensures {query : StoreCall} {s : Store}
    {post : Except StorageError query.Response → Store → Prop} (herror : ∀ e, post (.error e) s)
    (hperform : ∀ now, post (s.perform now query).1 (s.perform now query).2) :
    (ask query).Ensures exec post s := by
  intro choice r s' hexec
  simp only [exec] at hexec
  split at hexec
  · cases hexec
    exact herror _
  · have hpair : s.perform choice.now query = (r, s') := Option.some.inj hexec
    have hpost := hperform choice.now
    rw [hpair] at hpost
    exact hpost

variable [UuidText] {actor : Actor}

theorem withUpdatable_ensures {request : Request} {workspaceId : Uuid} {s : Store}
    {next : WorkspaceRow → Outcome Response}
    (hnext : ∀ row, s.findWorkspaceById workspaceId = some row →
      (next row).Ensures exec (Shown request n s) s) :
    (withUpdatable actor workspaceId next).Ensures exec (Shown request n s) s := by
  refine Calls.Ensures.bindOk (ask_ensures (fun e => ⟨fun e' _ => shown_error e', fun _ h => ?_⟩)
    fun now => ⟨fun e h => ?_, fun found h => ?_⟩)
  · cases h
  · cases h
  · have hfound : s.findWorkspaceById workspaceId = found := Except.ok.inj h
    split
    · exact shown_of_refusal rfl
    · split
      · exact shown_of_refusal rfl
      · exact hnext _ hfound

theorem putWorkspaceTtl_ensures {workspaceId : Uuid} {s : Store}
    (hfits : Fits 64 (n * 1000000)) :
    (putWorkspaceTtl actor workspaceId (some (.integer n))).Ensures exec
      (Shown (.putWorkspaceTtl workspaceId (some (.integer n))) n s) s := by
  refine withUpdatable_ensures fun row hrow => ?_
  refine Calls.Ensures.bindOk (ask_ensures (fun e => ⟨fun e' _ => shown_error e', fun _ h => ?_⟩)
    fun now => ⟨fun e h => ?_, fun found h response heq _ => ?_⟩)
  · cases h
  · cases h
  · cases heq
    exact showsTtl_of_row (findWorkspaceById_updateWorkspaceTtl hrow) rfl hfits

theorem postWorkspacePortShare_ensures {workspaceId : Uuid} {body : PortShareBody} {s : Store}
    (hvalue : body.port = some (.integer n)) (hfits : Fits 32 n) :
    (postWorkspacePortShare actor workspaceId body).Ensures exec
      (Shown (.postWorkspacePortShare workspaceId body) n s) s := by
  refine withUpdatable_ensures fun row hrow => ?_
  obtain ⟨hstored, -⟩ := Option.filter_eq_some_iff.mp hrow
  refine Calls.Ensures.bindOk (ask_ensures (fun e => ⟨fun e' _ => shown_error e', fun _ h => ?_⟩)
    fun now => ⟨fun e h => ?_, fun share h response heq _ => ?_⟩)
  · cases h
  · exact shown_error e
  · cases heq
    simp only [Store.perform, Store.upsertWorkspacePortShare, hstored] at h ⊢
    cases h
    rw [← portOf_of_fits hvalue hfits]
    exact ⟨rfl, fun key' => HashMap.lookup_insert_ite s.portShares _ key' _⟩

theorem deleteWorkspacePortShare_ensures {workspaceId : Uuid} {body : PortShareBody} {s : Store}
    (hvalue : body.port = some (.integer n)) (hfits : Fits 32 n) :
    (deleteWorkspacePortShare actor workspaceId body).Ensures exec
      (Shown (.deleteWorkspacePortShare workspaceId body) n s) s := by
  refine withUpdatable_ensures fun row hrow => ?_
  refine Calls.Ensures.bindOk (ask_ensures (fun e => ⟨fun e' _ => shown_error e', fun _ h => ?_⟩)
    fun now => ⟨fun e h => ?_, fun found h response heq _ => ?_⟩)
  · cases h
  · cases h
  · cases heq
    rw [← portOf_of_fits hvalue hfits]
    exact HashMap.lookup_erase_ite s.portShares _

variable [Builds.QuietHours] {config : Config}

/-- A number that fits is shown after the request as it was sent. -/
theorem handle_ensures {request : Request} {s : Store}
    (hvalue : request.value = some (.integer n)) (hfits : request.endpoint.Represents n) :
    (handle actor config request).Ensures exec (Shown request n s) s := by
  cases request with
  | putWorkspaceTtl workspaceId ttlMs =>
    obtain rfl : ttlMs = _ := hvalue
    exact putWorkspaceTtl_ensures hfits
  | postUserWorkspace user ttlMs body =>
    obtain rfl : ttlMs = _ := hvalue
    refine created_ensures (postUserWorkspace_ensures rfl) fun id row s' hrow hstored => ?_
    exact ⟨(ttlMs_eq_iff hrow).mpr hfits, showsTtl_of_row hstored hrow hfits⟩
  | postOrgMemberWorkspace organization user ttlMs body =>
    obtain rfl : ttlMs = _ := hvalue
    refine created_ensures (postOrgMemberWorkspace_ensures rfl) fun id row s' hrow hstored => ?_
    exact ⟨(ttlMs_eq_iff hrow).mpr hfits, showsTtl_of_row hstored hrow hfits⟩
  | postWorkspacePortShare workspaceId body => exact postWorkspacePortShare_ensures hvalue hfits
  | deleteWorkspacePortShare workspaceId body => exact deleteWorkspacePortShare_ensures hvalue hfits

end

/-! ## Requests that are accepted -/

def root : Actor where
  userId := Builds.userId
  username := "alice"
  organizationIds := [Builds.orgId]
  siteRoles := ["owner"]
  orgRoles := []
  groups := []
  scope := none
  scopeOverride := none

/-- A user and a template, and no workspace. -/
def templateOnly : Store where
  builds := Builds.oneTemplate
  portShares := ∅

def workspaceId : Uuid := ⟨20⟩

def workspaceRow : WorkspaceRow where
  createdAt := .unixEpoch
  updatedAt := .unixEpoch
  deleted := false
  ownerId := Builds.userId
  organizationId := Builds.orgId
  templateId := Builds.templateId
  name := "dev"
  autostartSchedule := none
  ttl := none
  lastUsedAt := .unixEpoch
  dormantAt := none
  deletingAt := none
  automaticUpdates := "never"
  nextStartAt := none

/-- A workspace, with a share of the port 8080. -/
def oneShare : Store where
  builds := { Builds.oneTemplate with
    workspaces := HashMap.singleRow workspaceId workspaceRow }
  portShares := HashMap.singleRow (workspaceId, "main", 8080) ⟨"owner", "http"⟩

def shareBody (port : ℤ) : PortShareBody where
  agentName := some (.string "main")
  port := some (.integer port)
  shareLevel := none
  protocol := none

/-- A request to the endpoint, and the store that it is sent to. -/
def requestOf (n : ℤ) : Endpoint → Request × Store
  | .putWorkspaceTtl => (.putWorkspaceTtl workspaceId (some (.integer n)), oneShare)
  | .postUserWorkspace =>
    (.postUserWorkspace "me" (some (.integer n)) (Builds.workspaceBody Builds.templateId none),
      templateOnly)
  | .postOrgMemberWorkspace =>
    (.postOrgMemberWorkspace Builds.orgId.toHyphenated "me" (some (.integer n))
      (Builds.workspaceBody Builds.templateId none), templateOnly)
  | .postWorkspacePortShare => (.postWorkspacePortShare workspaceId (shareBody n), oneShare)
  | .deleteWorkspacePortShare => (.deleteWorkspacePortShare workspaceId (shareBody n), oneShare)

def drawing (k : ℕ) : Builds.Choice := Builds.drawing (20 + k)

section

variable [UuidText] [Builds.QuietHours] [Builds.Collation]

/-- The endpoints accept a number of any size. -/
theorem accepts (config : Config) (n : ℤ) (endpoint : Endpoint) :
    ∃ e, Sent config endpoint n (requestOf n endpoint).1 (requestOf n endpoint).2 e ∧
      Accepted e := by
  cases endpoint with
  | putWorkspaceTtl => exact ⟨_, ⟨rfl, rfl, root, drawing, rfl⟩, _, rfl, rfl⟩
  | postUserWorkspace => exact ⟨_, ⟨rfl, rfl, root, drawing, rfl⟩, _, rfl, rfl⟩
  | postOrgMemberWorkspace => exact ⟨_, ⟨rfl, rfl, root, drawing, rfl⟩, _, rfl, rfl⟩
  | postWorkspacePortShare => exact ⟨_, ⟨rfl, rfl, root, drawing, rfl⟩, _, rfl, rfl⟩
  | deleteWorkspacePortShare => exact ⟨_, ⟨rfl, rfl, root, drawing, rfl⟩, _, rfl, rfl⟩

/-- A number keeps its value in a run of a request that the endpoint accepts, and in every run of
every request that sends it there, exactly if the column holds it. -/
theorem numbers_kept_iff (config : Config) (endpoint : Endpoint) (n : ℤ) :
    (∀ request before e, Sent config endpoint n request before e → Accepted e →
      (KeepsNumber request n before e ↔ endpoint.Represents n)) ∧
    ((∀ request before e, Sent config endpoint n request before e →
      KeepsNumber request n before e) ↔ endpoint.Represents n) := by
  have hfitting : ∀ request before e, Sent config endpoint n request before e →
      endpoint.Represents n → KeepsNumber request n before e := by
    rintro request before e ⟨rfl, hvalue, actor, choices, hrun⟩ hfits
    exact ⟨(handle_ensures hvalue hfits).alone hrun, fun hunfit => absurd hfits hunfit⟩
  have haccepted : ∀ request before e, Sent config endpoint n request before e → Accepted e →
      (KeepsNumber request n before e ↔ endpoint.Represents n) := by
    rintro request before e hsent ⟨response, hresponse, haccepted⟩
    refine ⟨fun hkeeps => ?_, hfitting request before e hsent⟩
    by_contra hunfit
    rw [← hsent.endpoint] at hunfit
    have hrefused := (hkeeps.refused hunfit).2 response hresponse
    rw [haccepted] at hrefused
    cases hrefused
  refine ⟨haccepted, fun h => ?_, fun hfits request before e hsent =>
    hfitting request before e hsent hfits⟩
  obtain ⟨e, hsent, haccepts⟩ := accepts config n endpoint
  exact (haccepted _ _ e hsent haccepts).mp (h _ _ e hsent)

end

/-- The nanoseconds of the lifetime are one too many for 64 bits, and the port has the low bits of
another one. -/
theorem lifetime_and_port_wrap :
    (∃ e, (@handle Uuid.hyphenated root Builds.noQuietHours Builds.defaults
          (.putWorkspaceTtl workspaceId (some (.integer 9223372036855)))).alone
          (@exec Builds.sameCase) oneShare drawing = some e ∧
        e.result.toOption.any (·.accepted) = true ∧
        (e.state.findWorkspaceById workspaceId).map
          (fun row => (workspaceToJson ⟨workspaceId, row, false⟩).ttlMs) =
            some (some (-9223372036854))) ∧
      ∃ e, (@handle Uuid.hyphenated root Builds.noQuietHours Builds.defaults
          (.deleteWorkspacePortShare workspaceId (shareBody 4294975376))).alone
          (@exec Builds.sameCase) oneShare drawing = some e ∧
        e.result.toOption.any (·.accepted) = true ∧
        (oneShare.portShares.lookup (workspaceId, "main", 8080)).isSome = true ∧
        (e.state.portShares.lookup (workspaceId, "main", 8080)).isSome = false :=
  ⟨⟨_, rfl, by decide +kernel, by decide +kernel⟩,
    ⟨_, rfl, by decide +kernel, by decide +kernel, by decide +kernel⟩⟩

end Coderd.Numbers
