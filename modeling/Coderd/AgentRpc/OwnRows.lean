import Coderd.AgentRpc.LiveAgentHandler
import Coderd.Foundation.Guards

namespace Coderd.AgentRpc

open Coderd.Foundation
open Coderd.WorkspaceApps (DebugText)

/-! ## What is claimed -/

namespace AgentDb

def AppOf (db : AgentDb) (a appId : Uuid) : Prop :=
  ∃ app, db.apps.lookup appId = some app ∧ app.agentId = a

def LogSourceOf (db : AgentDb) (a logSourceId : Uuid) : Prop :=
  ∃ source, db.logSources.lookup logSourceId = some source ∧ source.workspaceAgentId = a

def ScriptOf (db : AgentDb) (a scriptId : Uuid) : Prop :=
  ∃ script, db.scripts.lookup scriptId = some script ∧ script.workspaceAgentId = a

end AgentDb

/-- The agent itself, or a sub-agent of it. -/
def OwnAgent (a id : Uuid) (row : WorkspaceAgentRow) : Prop := id = a ∨ row.parentId = some a

/-- Every row that is inserted, changed or marked as deleted belongs to the agent. -/
structure Confined (a : Uuid) (db db' : AgentDb) : Prop where
  agents : HashMap.ChangesOnly (OwnAgent a) db.agents db'.agents
  apps : HashMap.ChangesOnly (fun _ app => app.agentId = a) db.apps db'.apps
  metadata : HashMap.ChangesOnly (fun key _ => key.1 = a) db.metadata db'.metadata
  logs : AppendsOnly (fun log => log.agentId = a ∧ db.LogSourceOf a log.logSourceId) db.logs
    db'.logs
  scriptTimings : AppendsOnly (fun timing => db.ScriptOf a timing.scriptId) db.scriptTimings
    db'.scriptTimings
  appStatuses : HashMap.ChangesOnly (fun _ status => status.agentId = a ∧ db.AppOf a status.appId)
    db.appStatuses db'.appStatuses
  logSources : db'.logSources = db.logSources
  scripts : db'.scripts = db.scripts
  workspaces : db'.workspaces = db.workspaces
  builds : db'.builds = db.builds
  resources : db'.resources = db.resources

/-- A step of the session writes only what belongs to its agent. -/
def Confines [DebugText] (h : LiveAgentHandler) (w : Pool AgentDb (Calls Op Op.Response Unit))
    (move : Move Request Choice Empty) : Prop :=
  Confined h.agentId w.shared ((session h).program.step w move).shared

/-! ## What the agent has to name -/

/-- There are logs, and the database takes them. -/
def AgentDb.InsertsLogs (db : AgentDb) (agentId : Uuid) (logs : List InsertAgentLogInput) : Prop :=
  logs ≠ [] ∧ logs.length < 2 ^ 31 ∧ db.acceptsLogs agentId logs.length = true

/-- The source of logs that are inserted, and the script of a timing that is, are the agent's. -/
def NamesOwn (a : Uuid) (choice : Choice) (db : AgentDb) : StoreCall → Prop
  | .insertWorkspaceAgentLogs agentId logSourceId logs =>
    choice.fails = none → db.InsertsLogs agentId logs → db.LogSourceOf a logSourceId
  | .insertWorkspaceAgentScriptTiming input =>
    choice.fails = none → ∀ script, db.scripts.lookup input.scriptId = some script →
      script.workspaceAgentId = a
  | _ => True

/-- The runs in which the agent names its own log sources and scripts. -/
def namesOwn (a : Uuid) : Regime Op AgentDb Choice Request Empty where
  call
    | .store query, db, choice => NamesOwn a choice db query
    | _, _, _ => True
  spawn _ _ := True
  outside _ _ := True

/-! ## What the handler ties to the agent -/

/-- The ids in a call are the agent's, but for those of a log source or of a script. -/
def StoreCall.Tied (a : Uuid) (db : AgentDb) : StoreCall → Prop
  | .insertWorkspaceAgent input => input.parentId = some a
  | .insertWorkspaceAgentLogs agentId _ _ => agentId = a
  | .updateWorkspaceAgentLifecycleState agentId _ _ _ => agentId = a
  | .updateWorkspaceAgentStartup agentId _ _ _ _ => agentId = a
  | .updateWorkspaceAppHealth appId _ => db.AppOf a appId
  | .upsertWorkspaceAgentMetadata agentId _ => agentId = a
  | .deleteWorkspaceSubAgent subAgentId => ∀ row, db.agents.lookup subAgentId = some row →
    row.deleted = true ∨ row.parentId = some a
  | .insertWorkspaceAppStatus input => input.agentId = a ∧ db.AppOf a input.appId
  | _ => True

def Op.Tied (a : Uuid) (op : Op) (db : AgentDb) : Prop :=
  ∀ query, op = .store query → query.Tied a db

/-- Apps stay with their agents; an agent keeps its parent, and stays deleted, and a new one has the
parent `a`. -/
structure Later (a : Uuid) (db db' : AgentDb) : Prop where
  apps : ∀ id, (db'.apps.lookup id).map (·.agentId) = (db.apps.lookup id).map (·.agentId)
  agents : ∀ id row', db'.agents.lookup id = some row' → row'.parentId = some a ∨
    ∃ row, db.agents.lookup id = some row ∧ row.parentId = row'.parentId ∧
      (row.deleted = true → row'.deleted = true)

section

variable {a : Uuid} {db db' db'' : AgentDb} {choice : Choice} {query : StoreCall}

theorem Later.refl (a : Uuid) (db : AgentDb) : Later a db db where
  apps _ := rfl
  agents _ row' hrow' := .inr ⟨row', hrow', rfl, fun hdeleted => hdeleted⟩

theorem Later.trans (h : Later a db db') (h' : Later a db' db'') : Later a db db'' where
  apps id := (h'.apps id).trans (h.apps id)
  agents id row'' hrow'' := by
    obtain hparent | ⟨row', hrow', hparent', hdeleted'⟩ := h'.agents id row'' hrow''
    · exact .inl hparent
    obtain hparent | ⟨row, hrow, hparent, hdeleted⟩ := h.agents id row' hrow'
    · exact .inl (hparent' ▸ hparent)
    · exact .inr ⟨row, hrow, hparent.trans hparent', fun hrow => hdeleted' (hdeleted hrow)⟩

theorem Later.appOf (h : Later a db db') {appId : Uuid} (happ : db.AppOf a appId) :
    db'.AppOf a appId := by
  obtain ⟨app, hlookup, hagent⟩ := happ
  have hcolumn := h.apps appId
  rw [hlookup] at hcolumn
  obtain ⟨app', hlookup', hagent'⟩ := Option.map_eq_some_iff.mp hcolumn
  exact ⟨app', hlookup', hagent'.trans hagent⟩

/-- An update of an agent leaves its parent, and does not bring it back. -/
theorem agents_modify {id k : Uuid} {f : WorkspaceAgentRow → WorkspaceAgentRow}
    {row' : WorkspaceAgentRow} (hparent : ∀ row, (f row).parentId = row.parentId)
    (hdeleted : ∀ row, row.deleted = true → (f row).deleted = true)
    (hrow' : (db.agents.modify k f).lookup id = some row') :
    ∃ row, db.agents.lookup id = some row ∧ row.parentId = row'.parentId ∧
      (row.deleted = true → row'.deleted = true) := by
  rw [HashMap.lookup_modify] at hrow'
  split at hrow'
  · obtain ⟨row, hrow, rfl⟩ := Option.map_eq_some_iff.mp hrow'
    exact ⟨row, hrow, (hparent row).symm, hdeleted row⟩
  · exact ⟨row', hrow', rfl, fun h => h⟩

theorem later_modify {k : Uuid} {f : WorkspaceAgentRow → WorkspaceAgentRow}
    (hagents : db'.agents = db.agents.modify k f) (happs : db'.apps = db.apps)
    (hparent : ∀ row, (f row).parentId = row.parentId)
    (hdeleted : ∀ row, row.deleted = true → (f row).deleted = true) : Later a db db' where
  apps _ := by rw [happs]
  agents id row' hrow' := .inr (agents_modify hparent hdeleted (hagents ▸ hrow'))

/-- Calls that are tied to the agent take the tables to later ones. -/
theorem later_of_perform (choice : Choice) (htied : query.Tied a db) :
    Later a db (db.perform choice query).2 := by
  cases query with
  | findWorkspaceAgentById agentId => exact .refl a db
  | findWorkspaceByAgentId agentId => exact .refl a db
  | listWorkspaceAppsByAgentId agentId => exact .refl a db
  | findWorkspaceAppByAgentAndSlug agentId slug => exact .refl a db
  | insertWorkspaceAgent input =>
    simp only [AgentDb.perform, AgentDb.insertWorkspaceAgent]
    split
    · exact .refl a db
    · refine ⟨fun _ => rfl, fun id row' hrow' => ?_⟩
      rw [HashMap.lookup_insert_ite] at hrow'
      split at hrow'
      · cases hrow'
        exact .inl htied
      · exact .inr ⟨row', hrow', rfl, fun h => h⟩
  | insertWorkspaceAgentLogs agentId logSourceId logs =>
    simp only [AgentDb.perform, AgentDb.insertWorkspaceAgentLogs]
    split
    · exact .refl a db
    · split
      · exact .refl a db
      · split
        · exact later_modify rfl rfl (fun _ => rfl) fun _ hrow => hrow
        · exact .refl a db
  | updateWorkspaceAgentLifecycleState agentId lifecycleState startedAt readyAt =>
    exact later_modify rfl rfl (fun _ => rfl) fun _ hrow => hrow
  | updateWorkspaceAgentStartup agentId version expandedDirectory subsystems apiVersion =>
    exact later_modify rfl rfl (fun _ => rfl) fun _ hrow => hrow
  | updateWorkspaceAppHealth appId health =>
    refine ⟨fun id => ?_, (Later.refl a db).agents⟩
    exact HashMap.map_lookup_modify db.apps appId id fun _ => rfl
  | upsertWorkspaceAgentMetadata agentId entries =>
    exact ⟨fun _ => rfl, (Later.refl a db).agents⟩
  | insertWorkspaceAgentScriptTiming input =>
    simp only [AgentDb.perform, AgentDb.insertWorkspaceAgentScriptTiming]
    split
    · exact .refl a db
    · exact ⟨fun _ => rfl, (Later.refl a db).agents⟩
  | deleteWorkspaceSubAgent subAgentId =>
    exact later_modify rfl rfl (fun _ => rfl) fun _ _ => rfl
  | insertWorkspaceAppStatus input =>
    simp only [AgentDb.perform, AgentDb.insertWorkspaceAppStatus]
    split
    · exact ⟨fun _ => rfl, (Later.refl a db).agents⟩
    · exact .refl a db

/-! ## What a tied call writes -/

theorem Confined.refl (a : Uuid) (db : AgentDb) : Confined a db db where
  agents := .refl _ _
  apps := .refl _ _
  metadata := .refl _ _
  logs := .refl _ _
  scriptTimings := .refl _ _
  appStatuses := .refl _ _
  logSources := rfl
  scripts := rfl
  workspaces := rfl
  builds := rfl
  resources := rfl

/-- An update of the agent's own row. -/
theorem changes_own {f : WorkspaceAgentRow → WorkspaceAgentRow} :
    HashMap.ChangesOnly (OwnAgent a) db.agents (db.agents.modify a f) :=
  .modify fun _ _ => .inl ⟨.inl rfl, .inl rfl⟩

theorem changes_metadata (entries : List UpsertAgentMetadataEntry)
    (f : UpsertAgentMetadataEntry → WorkspaceAgentMetadataRow → WorkspaceAgentMetadataRow)
    (rows : HashMap (Uuid × String) WorkspaceAgentMetadataRow) :
    HashMap.ChangesOnly (fun key _ => key.1 = a) rows
      (entries.foldl (fun rows entry => rows.modify (a, entry.key) (f entry)) rows) := by
  induction entries generalizing rows with
  | nil => exact .refl _ _
  | cons entry entries ih =>
    have hfirst : HashMap.ChangesOnly (fun key _ => key.1 = a) rows
        (rows.modify (a, entry.key) (f entry)) :=
      .modify fun _ _ => .inl ⟨rfl, rfl⟩
    exact hfirst.trans (ih _)

theorem changes_deleted {subAgentId : Uuid}
    (htied : ∀ row, db.agents.lookup subAgentId = some row →
      row.deleted = true ∨ row.parentId = some a) :
    HashMap.ChangesOnly (OwnAgent a) db.agents
      (db.agents.modify subAgentId fun row => { row with deleted := true }) := by
  refine .modify fun row hrow => ?_
  obtain hdeleted | hparent := htied row hrow
  · right
    cases row
    cases hdeleted
    rfl
  · exact .inl ⟨.inr hparent, .inr hparent⟩

theorem mem_logRows {agentId logSourceId : Uuid} {id : Nat} {logs : List InsertAgentLogInput}
    {row : WorkspaceAgentLogRow} (h : row ∈ AgentDb.logRows agentId logSourceId id logs) :
    row.agentId = agentId ∧ row.logSourceId = logSourceId := by
  induction logs generalizing id with
  | nil => cases h
  | cons log logs ih =>
    cases List.mem_cons.mp h with
    | inl hrow =>
      rw [hrow]
      exact ⟨rfl, rfl⟩
    | inr hrow => exact ih hrow

theorem appends_logs_iff {logSourceId : Uuid} {id : Nat} {logs : List InsertAgentLogInput}
    (hlogs : logs ≠ []) {rows : List WorkspaceAgentLogRow} :
    AppendsOnly (fun log => log.agentId = a ∧ db.LogSourceOf a log.logSourceId) rows
      (rows ++ AgentDb.logRows a logSourceId id logs) ↔ db.LogSourceOf a logSourceId := by
  rw [AppendsOnly.append_iff]
  constructor
  · intro hown
    cases logs with
    | nil => exact absurd rfl hlogs
    | cons log logs => exact (hown _ List.mem_cons_self).2
  · intro hsource row hrow
    obtain ⟨hagent, hnamed⟩ := mem_logRows hrow
    exact ⟨hagent, hnamed ▸ hsource⟩

theorem confined_insertLogs_iff {refusal : String} {logSourceId : Uuid}
    {logs : List InsertAgentLogInput} :
    Confined a db (db.insertWorkspaceAgentLogs refusal a logSourceId logs).2 ↔
      (db.InsertsLogs a logs → db.LogSourceOf a logSourceId) := by
  have hidle : ¬ db.InsertsLogs a logs →
      (Confined a db db ↔ (db.InsertsLogs a logs → db.LogSourceOf a logSourceId)) :=
    fun hnot => ⟨fun _ h => absurd h hnot, fun _ => .refl a db⟩
  unfold AgentDb.insertWorkspaceAgentLogs
  split
  · rename_i hmany
    exact hidle fun h => absurd h.2.1 (Nat.not_lt.mpr hmany)
  · rename_i hfew
    split
    · rename_i hempty
      exact hidle fun h => h.1 (List.isEmpty_iff.mp hempty)
    · rename_i hsome
      have hlogs : logs ≠ [] := fun hnil => hsome (List.isEmpty_iff.mpr hnil)
      split
      · rename_i haccepts
        have hinserts : db.InsertsLogs a logs := ⟨hlogs, Nat.lt_of_not_le hfew, haccepts⟩
        constructor
        · intro h _
          exact (appends_logs_iff hlogs).mp h.logs
        · intro hsource
          exact
            { Confined.refl a db with
              agents := changes_own
              logs := (appends_logs_iff hlogs).mpr (hsource hinserts) }
      · rename_i hrefused
        exact hidle fun h => hrefused h.2.2

theorem confined_insertTiming_iff {refusal : String} {input : InsertAgentScriptTimingInput} :
    Confined a db (db.insertWorkspaceAgentScriptTiming refusal input).2 ↔
      ∀ script, db.scripts.lookup input.scriptId = some script → script.workspaceAgentId = a := by
  unfold AgentDb.insertWorkspaceAgentScriptTiming
  split
  · rename_i hnone
    refine ⟨fun _ script hscript => ?_, fun _ => .refl a db⟩
    rw [hnone] at hscript
    cases hscript
  · rename_i script hscript
    constructor
    · intro h script' hscript'
      have hown := AppendsOnly.append_iff.mp h.scriptTimings input List.mem_cons_self
      obtain ⟨found, hfound, hagent⟩ := hown
      rw [hfound] at hscript'
      cases hscript'
      exact hagent
    · intro hown
      have htiming : db.ScriptOf a input.scriptId := ⟨script, hscript, hown script hscript⟩
      refine { Confined.refl a db with scriptTimings := AppendsOnly.append_iff.mpr ?_ }
      intro row hrow
      rw [List.mem_singleton.mp hrow]
      exact htiming

/-- A call that is tied to the agent writes only what belongs to it, if the log source or the script
that it names does. -/
theorem confined_perform_iff (htied : query.Tied a db) (hfails : choice.fails = none) :
    NamesOwn a choice db query ↔ Confined a db (db.perform choice query).2 := by
  have hquiet : ∀ {db'}, Confined a db db' → (True ↔ Confined a db db') :=
    fun h => ⟨fun _ => h, fun _ => trivial⟩
  cases query with
  | findWorkspaceAgentById agentId => exact hquiet (.refl a db)
  | findWorkspaceByAgentId agentId => exact hquiet (.refl a db)
  | listWorkspaceAppsByAgentId agentId => exact hquiet (.refl a db)
  | findWorkspaceAppByAgentAndSlug agentId slug => exact hquiet (.refl a db)
  | insertWorkspaceAgent input =>
    refine hquiet ?_
    simp only [AgentDb.perform, AgentDb.insertWorkspaceAgent]
    split
    · exact .refl a db
    · rename_i hfree
      refine { Confined.refl a db with agents := .insert (fun row hrow => ?_) (.inr htied) }
      rw [hfree] at hrow
      cases hrow
  | insertWorkspaceAgentLogs agentId logSourceId logs =>
    subst htied
    have hwrite : Confined agentId db
        (db.insertWorkspaceAgentLogs choice.refusal agentId logSourceId logs).2 ↔ _ :=
      confined_insertLogs_iff
    exact ⟨fun h => hwrite.mpr (h hfails), fun h _ => hwrite.mp h⟩
  | updateWorkspaceAgentLifecycleState agentId lifecycleState startedAt readyAt =>
    subst htied
    exact hquiet { Confined.refl agentId db with agents := changes_own }
  | updateWorkspaceAgentStartup agentId version expandedDirectory subsystems apiVersion =>
    subst htied
    exact hquiet { Confined.refl agentId db with agents := changes_own }
  | updateWorkspaceAppHealth appId health =>
    obtain ⟨app, hlookup, hagent⟩ := htied
    refine hquiet { Confined.refl a db with apps := .modify fun app' hlookup' => ?_ }
    rw [hlookup] at hlookup'
    cases hlookup'
    exact .inl ⟨hagent, hagent⟩
  | upsertWorkspaceAgentMetadata agentId entries =>
    subst htied
    exact hquiet { Confined.refl agentId db with metadata := changes_metadata entries _ _ }
  | insertWorkspaceAgentScriptTiming input =>
    have hwrite : Confined a db
        (db.insertWorkspaceAgentScriptTiming choice.refusal input).2 ↔ _ :=
      confined_insertTiming_iff
    exact ⟨fun h => hwrite.mpr (h hfails), fun h _ => hwrite.mp h⟩
  | deleteWorkspaceSubAgent subAgentId =>
    exact hquiet { Confined.refl a db with agents := changes_deleted htied }
  | insertWorkspaceAppStatus input =>
    refine hquiet ?_
    simp only [AgentDb.perform, AgentDb.insertWorkspaceAppStatus]
    split
    · rename_i hfree _
      refine { Confined.refl a db with appStatuses := .insert (fun row hrow => ?_) htied }
      rw [hfree] at hrow
      cases hrow
    · exact .refl a db

end

/-! ## The session -/

section

variable [DebugText] {h : LiveAgentHandler} {seen : AgentDb}

def sessionGuard (h : LiveAgentHandler) : Guard (session h) where
  ok := Op.Tied h.agentId
  Later := Later h.agentId
  refl := .refl h.agentId
  trans := .trans
  exec := by
    intro op db choice r db' hok hexec
    cases op with
    | nowUtc =>
      cases hexec
      exact .refl _ _
    | newUuid =>
      cases hexec
      exact .refl _ _
    | publish channel payload =>
      cases hexec
      exact .refl _ _
    | store query =>
      simp only [session, exec] at hexec
      split at hexec
      · cases hexec
        exact .refl _ _
      · have hlater := later_of_perform choice (hok query rfl)
        rw [Option.some.inj hexec] at hlater
        exact hlater
  outside db _ := .refl h.agentId db

/-- The program ties each of its calls to the agent of the session, from a state on. -/
abbrev Ties {α : Type} (h : LiveAgentHandler) (p : Calls Op Op.Response α) (seen : AgentDb) :
    Prop :=
  (sessionGuard h).Meets (fun _ _ => True) p seen

/-- What does not go to the store is not about rows. -/
theorem ties_call {α : Type} {op : Op} {next : op.Response → Calls Op Op.Response α}
    (hop : ∀ query, op ≠ .store query) (hnext : ∀ r db, Ties h (next r) db) :
    Ties h (.call op next) seen :=
  .call (fun _ _ query heq => absurd heq (hop query)) fun _ _ r db' _ _ => hnext r db'

theorem ties_ask {context : String} {query : StoreCall}
    (htied : ∀ db, Later h.agentId seen db → query.Tied h.agentId db) :
    Ties h (ask context query) seen := by
  refine .call (fun db hseen query' heq => ?_) fun db choice r db' _ _ => ?_
  · cases heq
    exact htied db hseen
  · cases r <;> trivial

/-- A call of the store, and what follows its response. -/
theorem ties_ask_bindOk {α : Type} {context : String} {query : StoreCall}
    {k : query.Response → Outcome α}
    (htied : ∀ db, Later h.agentId seen db → query.Tied h.agentId db)
    (hk : ∀ (db : AgentDb) choice r db', Later h.agentId seen db' →
      db.perform choice query = (.ok r, db') → Ties h (k r) db') :
    Ties h ((ask context query).bindOk k) seen := by
  refine .call (fun db hseen query' heq => ?_) fun db choice r db' hseen hexec => ?_
  · cases heq
    exact htied db hseen
  · cases r with
    | error e => trivial
    | ok r =>
      simp only [session, exec] at hexec
      split at hexec
      · cases hexec
      · have hperform := Option.some.inj hexec
        have hlater := later_of_perform choice (htied db hseen)
        rw [hperform] at hlater
        exact hk db choice r db' (hseen.trans hlater) hperform

theorem ties_bindOk {α β : Type} {p : Outcome α} {k : α → Outcome β} (hp : Ties h p seen)
    (hk : ∀ a db, Ties h (k a) db) : Ties h (p.bindOk k) seen :=
  .bindOk (hp.mono fun db _ _ => ⟨fun _ _ => trivial, fun a _ => hk a db⟩)

theorem ties_publish {channel : String} {payload : Payload} :
    Ties h (h.publish channel payload) seen := by
  unfold LiveAgentHandler.publish
  split
  · exact ties_call (fun _ => nofun) fun _ _ => trivial
  · trivial

theorem ties_publishLogs (rows : List WorkspaceAgentLogRow) : Ties h (h.publishLogs rows) seen := by
  induction rows generalizing seen with
  | nil => trivial
  | cons row rows ih => exact ties_bindOk ties_publish fun _ _ => ih

theorem ties_updateStartup (startup : Option Startup) : Ties h (h.updateStartup startup) seen := by
  unfold LiveAgentHandler.updateStartup
  split
  · trivial
  · split
    · trivial
    · exact ties_ask_bindOk (fun _ _ => rfl) fun _ _ _ _ _ _ => trivial

/-- An app that has been listed is still one of the agent's when its health is written. -/
theorem ties_updateHealths {apps : List (Uuid × WorkspaceAppRow)} {updates : List HealthUpdate}
    (happs : ∀ app ∈ apps, seen.AppOf h.agentId app.1) :
    Ties h (LiveAgentHandler.updateHealths apps updates) seen := by
  induction updates generalizing seen with
  | nil => trivial
  | cons update updates ih =>
    unfold LiveAgentHandler.updateHealths
    split
    · trivial
    · rename_i appId _
      split
      · trivial
      · rename_i id old hfind
        have hid : id = appId := by simpa using List.find?_some hfind
        have happ := happs (id, old) (List.mem_of_find?_eq_some hfind)
        rw [hid] at happ
        simp only
        split
        · trivial
        · split
          · trivial
          · split
            · exact ih happs
            · refine ties_ask_bindOk (fun db hseen => hseen.appOf happ) ?_
              intro db choice r db' hlater _
              exact ih fun app hmem => hlater.appOf (happs app hmem)

theorem ties_batchUpdateAppHealth (updates : List HealthUpdate) :
    Ties h (h.batchUpdateAppHealth updates) seen := by
  unfold LiveAgentHandler.batchUpdateAppHealth
  split
  · trivial
  · refine ties_ask_bindOk (fun _ _ => trivial) fun db choice apps db' _ hperform => ?_
    cases hperform
    refine ties_updateHealths fun app hmem => ?_
    obtain ⟨hlookup, hagent⟩ := HashMap.mem_selectOrdered.mp hmem
    exact ⟨app.2, hlookup, by simpa using hagent⟩

theorem ties_updateLifecycle (lifecycle : Option Lifecycle) :
    Ties h (h.updateLifecycle lifecycle) seen := by
  unfold LiveAgentHandler.updateLifecycle
  split
  · trivial
  · split
    · trivial
    · refine ties_call (fun _ => nofun) fun now db => ?_
      refine ties_ask_bindOk (fun _ _ => rfl) fun _ _ _ _ _ _ => ?_
      exact ties_bindOk ties_publish fun _ _ => trivial

theorem ties_batchCreateLogs (req : BatchCreateLogsRequest) :
    Ties h (h.batchCreateLogs req) seen := by
  unfold LiveAgentHandler.batchCreateLogs
  split
  · trivial
  · refine ties_ask_bindOk (fun _ _ => trivial) fun db choice agentRow db' _ _ => ?_
    cases agentRow with
    | none => trivial
    | some agentRow =>
      simp only
      split
      · trivial
      · split
        · trivial
        · refine ties_call (fun _ => nofun) fun now db => ?_
          refine ties_ask_bindOk (fun _ _ => rfl) fun _ _ inserted _ _ _ => ?_
          exact ties_bindOk (ties_publishLogs inserted) fun _ _ => trivial

theorem ties_batchUpdateMetadata (metadata : List Metadata) :
    Ties h (h.batchUpdateMetadata metadata) seen := by
  unfold LiveAgentHandler.batchUpdateMetadata
  refine ties_call (fun _ => nofun) fun collectedAt db => ties_bindOk ?_ fun _ _ => ?_
  · split
    · trivial
    · exact ties_ask_bindOk (fun _ _ => rfl) fun _ _ _ _ _ _ => ties_publish
  · split <;> trivial

theorem ties_scriptCompleted (timing : Option Timing) :
    Ties h (LiveAgentHandler.scriptCompleted timing) seen := by
  unfold LiveAgentHandler.scriptCompleted
  split
  · trivial
  · split
    · trivial
    · exact ties_ask fun _ _ => trivial

theorem ties_createSubAgent (req : CreateSubAgentRequest) :
    Ties h (h.createSubAgent req) seen := by
  unfold LiveAgentHandler.createSubAgent
  split
  · trivial
  · refine ties_ask_bindOk (fun _ _ => trivial) fun db choice parent db' _ _ => ?_
    cases parent with
    | none => trivial
    | some parent =>
      refine ties_call (fun _ => nofun) fun now _ => ?_
      refine ties_call (fun _ => nofun) fun newId _ => ?_
      refine ties_call (fun _ => nofun) fun authToken _ => ?_
      exact ties_ask_bindOk (fun _ _ => rfl) fun _ _ _ _ _ _ => trivial

/-- The agent that is deleted has been found to be a sub-agent, or has been deleted before, or has
been inserted since by this session. -/
theorem ties_deleteSubAgent (id : List UInt8) : Ties h (h.deleteSubAgent id) seen := by
  unfold LiveAgentHandler.deleteSubAgent
  split
  · trivial
  · rename_i subAgentId _
    split
    · trivial
    · refine ties_ask_bindOk (fun _ _ => trivial) fun db choice found db' _ hperform => ?_
      cases hperform
      split
      · trivial
      · rename_i hown
        refine ties_ask fun db' hlater row' hrow' => ?_
        obtain hparent | ⟨row, hrow, hparent, hdeleted⟩ := hlater.agents subAgentId row' hrow'
        · exact .inr hparent
        · cases hmark : row.deleted with
          | true => exact .inl (hdeleted hmark)
          | false =>
            have hfound : db.findWorkspaceAgentById subAgentId = some row :=
              Option.filter_eq_some_iff.mpr ⟨hrow, by simp [hmark]⟩
            rw [hfound] at hown
            right
            rw [← hparent]
            simpa using hown

theorem ties_updateAppStatus (req : UpdateAppStatusRequest) :
    Ties h (h.updateAppStatus req) seen := by
  unfold LiveAgentHandler.updateAppStatus
  split
  · trivial
  · split
    · trivial
    · refine ties_ask_bindOk (fun _ _ => trivial) fun db choice app db' _ hperform => ?_
      cases app with
      | none => trivial
      | some app =>
        have hselect :
            db.findWorkspaceAppByAgentAndSlug choice.first h.agentId req.slug = some app :=
          Except.ok.inj (Prod.mk.inj hperform).1
        obtain ⟨hlookup, hagent⟩ := HashMap.selectAny_spec hselect
        simp only [Bool.and_eq_true, decide_eq_true_eq] at hagent
        have happ : db'.AppOf h.agentId app.1 :=
          (Prod.mk.inj hperform).2 ▸ ⟨app.2, hlookup, hagent.1⟩
        refine ties_ask_bindOk (fun _ _ => trivial) fun db choice workspace db' hseen hperform => ?_
        cases hperform
        split
        · trivial
        · refine ties_ask_bindOk (fun db hlater => ⟨rfl, ?_⟩) fun _ _ _ _ _ _ => trivial
          exact hlater.appOf (hseen.appOf happ)

theorem ties_handle (request : Request) (seen : AgentDb) : Ties h (h.handle request) seen := by
  cases request with
  | updateStartup startup => exact .bind (ties_updateStartup startup)
  | batchUpdateAppHealth updates => exact .bind (ties_batchUpdateAppHealth updates)
  | updateLifecycle lifecycle => exact .bind (ties_updateLifecycle lifecycle)
  | batchCreateLogs req => exact .bind (ties_batchCreateLogs req)
  | batchUpdateMetadata metadata => exact .bind (ties_batchUpdateMetadata metadata)
  | scriptCompleted timing => exact .bind (ties_scriptCompleted timing)
  | createSubAgent req => exact .bind (ties_createSubAgent req)
  | deleteSubAgent id => exact .bind (ties_deleteSubAgent id)
  | updateAppStatus req => exact .bind (ties_updateAppStatus req)

theorem namesOwn_exact (h : LiveAgentHandler) :
    (sessionGuard h).Exact (namesOwn h.agentId) (Confined h.agentId) where
  refl := .refl h.agentId
  call := by
    intro op db choice r db' hok hexec
    have hquiet : (True ↔ Confined h.agentId db db) :=
      ⟨fun _ => .refl h.agentId db, fun _ => trivial⟩
    cases op with
    | nowUtc =>
      cases hexec
      exact hquiet
    | newUuid =>
      cases hexec
      exact hquiet
    | publish channel payload =>
      cases hexec
      exact hquiet
    | store query =>
      simp only [session, exec] at hexec
      split at hexec
      · rename_i e hfails
        cases hexec
        refine ⟨fun _ => .refl h.agentId db, fun _ => ?_⟩
        have hnames : ∀ query, NamesOwn h.agentId choice db query := by
          intro query
          cases query <;> simp [NamesOwn, hfails]
        exact hnames query
      · rename_i hfails
        have hiff := confined_perform_iff (hok query rfl) hfails
        rw [Option.some.inj hexec] at hiff
        exact hiff
  waits := by
    intro op db choice hnone
    cases op with
    | store query =>
      simp only [session, exec] at hnone
      split at hnone <;> cases hnone
    | nowUtc => cases hnone
    | newUuid => cases hnone
    | publish channel payload => cases hnone
  spawn _ _ := trivial
  outside _ event := event.elim

/-- A session writes only what belongs to its agent, in each step of a run, exactly if the agent
names a log source of its own whenever it adds logs, and a script of its own whenever it adds a
timing. -/
theorem session_writes_own_rows (h : LiveAgentHandler) (db : AgentDb)
    (moves : List (Move Request Choice Empty)) :
    Along (session h).program.step (namesOwn h.agentId).Allows { shared := db, tasks := [] } moves ↔
      Along (session h).program.step (Confines h) { shared := db, tasks := [] } moves :=
  (namesOwn_exact h).along_iff ties_handle db moves

end

/-! ## Rows of another agent -/

@[reducible] def quotes : DebugText := ⟨String.quote⟩

def plainAgent (authToken : Uuid) : WorkspaceAgentRow where
  parentId := none
  createdAt := .unixEpoch
  updatedAt := .unixEpoch
  name := "main"
  resourceId := ⟨9⟩
  authToken := authToken
  authInstanceId := none
  architecture := "amd64"
  operatingSystem := "linux"
  directory := ""
  expandedDirectory := ""
  version := ""
  apiVersion := ""
  connectionTimeoutSeconds := 0
  troubleshootingUrl := ""
  motdFile := ""
  lifecycleState := "ready"
  logsLength := 0
  logsOverflowed := false
  startedAt := none
  readyAt := none
  subsystems := []
  displayApps := []
  displayOrder := 0
  apiKeyScope := "all"
  deleted := false

/-- Agents 1 and 2; the log source and the script are those of agent 2. -/
def twoAgents : AgentDb where
  agents := (HashMap.singleRow ⟨1⟩ (plainAgent ⟨11⟩)).insert ⟨2⟩ (plainAgent ⟨12⟩)
  apps := ∅
  metadata := ∅
  logs := []
  nextLogId := 1
  logSources := HashMap.singleRow ⟨5⟩ ⟨⟨2⟩⟩
  scripts := HashMap.singleRow ⟨6⟩ ⟨⟨2⟩⟩
  scriptTimings := []
  appStatuses := ∅
  workspaces := ∅
  builds := ∅
  resources := ∅

/-- The session of agent 1. -/
def firstAgent : LiveAgentHandler := ⟨⟨1⟩, "2.0", false⟩

def noon : Choice := ⟨⟨43200 * 10 ^ 9, by decide, by decide⟩, ⟨99⟩, ⟨0⟩, "", none⟩

def foreignTiming : List (Move Request Choice Empty) :=
  [.spawn (.scriptCompleted (some
    ⟨Uuid.asBytes ⟨6⟩, some ⟨43100, 0⟩, some ⟨43200, 0⟩, 0, 0, 0⟩)), .run 0 noon]

def foreignLogs : List (Move Request Choice Empty) :=
  [.spawn (.batchCreateLogs ⟨Uuid.asBytes ⟨5⟩, [⟨none, "hello", 3⟩]⟩), .run 0 noon, .run 0 noon,
    .run 0 noon]

/-- The pool after a run of the session. -/
def firstAgentPool (moves : List (Move Request Choice Empty)) :
    Pool AgentDb (Calls Op Op.Response Unit) :=
  (@session quotes firstAgent).program.run ⟨twoAgents, []⟩ moves

/-- The agent adds a timing to a script, and logs to a log source, of another agent. -/
theorem foreign_rows_written :
    ¬ Along (@session quotes firstAgent).program.step (@Confines quotes firstAgent)
        { shared := twoAgents, tasks := [] } foreignTiming ∧
      ¬ Along (@session quotes firstAgent).program.step (@Confines quotes firstAgent)
        { shared := twoAgents, tasks := [] } foreignLogs := by
  constructor
  · intro h
    have hwrite : AppendsOnly (fun timing => twoAgents.ScriptOf ⟨1⟩ timing.scriptId) []
        (firstAgentPool foreignTiming).shared.scriptTimings := h.2.1.scriptTimings
    have hmem : (⟨6⟩ : Uuid) ∈
        (firstAgentPool foreignTiming).shared.scriptTimings.map (·.scriptId) := by decide +kernel
    obtain ⟨timing, htiming, hid⟩ := List.mem_map.mp hmem
    obtain ⟨script, hlookup, hagent⟩ := hwrite.of_nil timing htiming
    rw [hid] at hlookup
    obtain ⟨-, rfl⟩ := HashMap.lookup_singleRow.mp hlookup
    exact absurd hagent (by decide)
  · intro h
    have hwrite : AppendsOnly (fun log => log.agentId = ⟨1⟩ ∧
        twoAgents.LogSourceOf ⟨1⟩ log.logSourceId) [] (firstAgentPool foreignLogs).shared.logs :=
      h.2.2.2.1.logs
    have hmem : (⟨5⟩ : Uuid) ∈ (firstAgentPool foreignLogs).shared.logs.map (·.logSourceId) := by
      decide +kernel
    obtain ⟨log, hlog, hid⟩ := List.mem_map.mp hmem
    obtain ⟨-, source, hlookup, hagent⟩ := hwrite.of_nil log hlog
    rw [hid] at hlookup
    obtain ⟨-, rfl⟩ := HashMap.lookup_singleRow.mp hlookup
    exact absurd hagent (by decide)

end Coderd.AgentRpc
