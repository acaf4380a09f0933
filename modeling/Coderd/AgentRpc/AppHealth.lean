import Mathlib.Data.List.Induction
import Coderd.AgentRpc.OwnRows
import Coderd.Foundation.Alone

namespace Coderd.AgentRpc

open Coderd.Foundation

/-! ## Which updates are accepted -/

namespace AgentDb

variable (db : AgentDb) (agentId : Uuid)

/-- The health that is stored of an app. -/
def health (appId : Uuid) : Option String := (db.apps.lookup appId).map (·.health)

/-- The update is for an app of the agent that has a healthcheck, and its health is known. -/
structure Accepts (update : HealthUpdate) (appId : Uuid) (row : WorkspaceAppRow)
    (newHealth : String) : Prop where
  names : Uuid.fromSlice update.id = .ok appId
  stored : db.apps.lookup appId = some row
  own : row.agentId = agentId
  healthcheck : row.healthcheckUrl.isEmpty = false
  known : appHealthProtoToDb update.health = some newHealth

def Refuses (update : HealthUpdate) : Prop :=
  ∀ appId row newHealth, ¬ db.Accepts agentId update appId row newHealth

/-- The update is accepted, and names another health than the app has. -/
def Changes (update : HealthUpdate) (appId : Uuid) : Prop :=
  ∃ row newHealth, db.Accepts agentId update appId row newHealth ∧ row.health ≠ newHealth

end AgentDb

/-- The last update for the app. -/
def lastUpdate (updates : List HealthUpdate) (appId : Uuid) : Option HealthUpdate :=
  (updates.filter fun update => (Uuid.fromSlice update.id).toOption = some appId).getLast?

/-- An error leaves every health as it was; otherwise each app has that of the last update for it,
or the one it had. -/
structure AllOrNothing (updates : List HealthUpdate) (db : AgentDb) (result : Except RpcError Unit)
    (db' : AgentDb) : Prop where
  nothing : ∀ e, result = .error e → ∀ appId, db'.health appId = db.health appId
  all : result = .ok () → ∀ appId, db'.health appId =
    (lastUpdate updates appId).elim (db.health appId) fun update => appHealthProtoToDb update.health

/-- No update comes to be written that the batch does not stand by: none before the first that is
refused, and, where none is refused, none for an app whose last update names the health that the
app has had from the start. -/
structure Harmless (db : AgentDb) (agentId : Uuid) (updates : List HealthUpdate) : Prop where
  refused : ∀ before update rest, updates = before ++ update :: rest →
    db.Refuses agentId update → (∀ earlier ∈ before, ¬ db.Refuses agentId earlier) →
    ∀ earlier ∈ before, ∀ appId, ¬ db.Changes agentId earlier appId
  repeated : (∀ update ∈ updates, ¬ db.Refuses agentId update) →
    ∀ update ∈ updates, ∀ appId, db.Changes agentId update appId →
      ∀ last, lastUpdate updates appId = some last → db.Changes agentId last appId

/-! ## The loop -/

/-- What an update is checked for before it is written: its app, the health of the app in the
snapshot, and the new one. -/
def checkUpdate (apps : List (Uuid × WorkspaceAppRow)) (update : HealthUpdate) :
    Except RpcError (Uuid × WorkspaceAppRow × String) :=
  match Uuid.fromSlice update.id with
  | .error e => .error (.invalidArgument ("parse workspace app ID: " ++ e))
  | .ok id =>
    match apps.find? fun app => app.1 = id with
    | none => .error (.invalidArgument ("workspace app ID " ++ id.toHyphenated ++ " not found"))
    | some (_, old) =>
      let named := id.toHyphenated ++ " (" ++ old.slug ++ ")"
      if old.healthcheckUrl.isEmpty then
        .error (.invalidArgument
          ("workspace app " ++ named ++ " does not have healthchecks enabled"))
      else
        match appHealthProtoToDb update.health with
        | none => .error (.invalidArgument ("unknown health status for app " ++ named))
        | some newHealth => .ok (id, old, newHealth)

open LiveAgentHandler

theorem updateHealths_cons (apps : List (Uuid × WorkspaceAppRow)) (update : HealthUpdate)
    (rest : List HealthUpdate) :
    updateHealths apps (update :: rest) =
      match checkUpdate apps update with
      | .error e => .done (.error e)
      | .ok (id, old, newHealth) =>
        if old.health = newHealth then updateHealths apps rest
        else
          (ask ("update workspace app health for " ++ id.toHyphenated)
            (.updateWorkspaceAppHealth id newHealth)).bindOk fun _ => updateHealths apps rest := by
  rw [updateHealths, checkUpdate]
  cases Uuid.fromSlice update.id with
  | error e => rfl
  | ok id =>
    simp only
    cases apps.find? fun app => app.1 = id with
    | none => rfl
    | some app =>
      simp only
      split
      · rfl
      · cases appHealthProtoToDb update.health <;> rfl

variable {db : AgentDb} {agentId : Uuid} {update : HealthUpdate} {updates : List HealthUpdate}
  {appId : Uuid} {row : WorkspaceAppRow} {newHealth : String}

/-- An app is found in the snapshot under its id, if it is one of the agent's. -/
theorem find_listed_iff : ((db.listWorkspaceAppsByAgentId agentId).find? fun app => app.1 = appId)
      = some (appId, row) ↔ db.apps.lookup appId = some row ∧ row.agentId = agentId := by
  have hmem : ∀ {id : Uuid} {row : WorkspaceAppRow},
      (id, row) ∈ db.listWorkspaceAppsByAgentId agentId ↔
        db.apps.lookup id = some row ∧ row.agentId = agentId := by
    intro id row
    rw [AgentDb.listWorkspaceAppsByAgentId, HashMap.mem_selectOrdered, decide_eq_true_eq]
  constructor
  · intro h
    exact hmem.mp (List.mem_of_find?_eq_some h)
  · intro h
    cases hfind : (db.listWorkspaceAppsByAgentId agentId).find? fun app => app.1 = appId with
    | none =>
      have hne := List.find?_eq_none.mp hfind (appId, row) (hmem.mpr h)
      simp at hne
    | some app =>
      obtain ⟨id, row'⟩ := app
      have hid := List.find?_some hfind
      simp only [decide_eq_true_eq] at hid
      subst hid
      have hrow := hmem.mp (List.mem_of_find?_eq_some hfind)
      rw [h.1, Option.some.injEq] at hrow
      rw [hrow.1]

theorem checkUpdate_ok_iff :
    checkUpdate (db.listWorkspaceAppsByAgentId agentId) update = .ok (appId, row, newHealth) ↔
      db.Accepts agentId update appId row newHealth := by
  constructor
  · intro h
    rw [checkUpdate] at h
    cases hid : Uuid.fromSlice update.id with
    | error e => simp [hid] at h
    | ok id =>
      simp only [hid] at h
      cases hfind : (db.listWorkspaceAppsByAgentId agentId).find? fun app => app.1 = id with
      | none => simp [hfind] at h
      | some app =>
        obtain ⟨id', old⟩ := app
        have hid' := List.find?_some hfind
        simp only [decide_eq_true_eq] at hid'
        subst hid'
        obtain ⟨hrow, hown⟩ := find_listed_iff.mp hfind
        simp only [hfind] at h
        split at h
        · cases h
        · rename_i hcheck
          cases hhealth : appHealthProtoToDb update.health with
          | none => simp [hhealth] at h
          | some health =>
            simp only [hhealth, Except.ok.injEq, Prod.mk.injEq] at h
            obtain ⟨rfl, rfl, rfl⟩ := h
            exact ⟨hid, hrow, hown, by simpa using hcheck, hhealth⟩
  · intro h
    have hfind := find_listed_iff.mpr ⟨h.stored, h.own⟩
    simp only [checkUpdate, h.names, hfind, h.healthcheck, h.known, Bool.false_eq_true, if_false]

theorem refuses_iff : db.Refuses agentId update ↔
    ∃ e, checkUpdate (db.listWorkspaceAppsByAgentId agentId) update = .error e := by
  constructor
  · intro h
    cases hcheck : checkUpdate (db.listWorkspaceAppsByAgentId agentId) update with
    | error e => exact ⟨e, rfl⟩
    | ok found => exact absurd (checkUpdate_ok_iff.mp hcheck) (h _ _ _)
  · rintro ⟨e, hcheck⟩ appId row newHealth haccepts
    rw [checkUpdate_ok_iff.mpr haccepts] at hcheck
    cases hcheck

/-! ## What the loop writes -/

/-- The healths that are written: up to the first update that is refused, those that differ from
the health in the snapshot. -/
def healthWrites (apps : List (Uuid × WorkspaceAppRow)) : List HealthUpdate → List (Uuid × String)
  | [] => []
  | update :: rest =>
    match checkUpdate apps update with
    | .error _ => []
    | .ok (id, old, newHealth) =>
      if old.health = newHealth then healthWrites apps rest
      else (id, newHealth) :: healthWrites apps rest

/-- The first error, if there is one. -/
def healthResult (apps : List (Uuid × WorkspaceAppRow)) : List HealthUpdate → Except RpcError Unit
  | [] => .ok ()
  | update :: rest =>
    match checkUpdate apps update with
    | .error e => .error e
    | .ok _ => healthResult apps rest

def AgentDb.writeHealths (db : AgentDb) (writes : List (Uuid × String)) : AgentDb :=
  writes.foldl (fun db write => db.updateWorkspaceAppHealth write.1 write.2) db

variable {choices : ℕ → Choice}

theorem ask_alone {context : String} {query : StoreCall} {r : query.Response} {db' : AgentDb}
    (hfails : (choices 0).fails = none)
    (hperform : db.perform (choices 0) query = (.ok r, db')) :
    (ask context query).alone exec db choices = some ⟨[.store query], .ok r, db'⟩ := by
  have hexec : exec (.store query) db (choices 0) = some (.ok r, db') := by
    simp only [exec, hfails, hperform]
  rw [ask, Calls.alone_call hexec]
  rfl

/-- The loop goes on from the snapshot that it has, whatever it has written since. -/
theorem updateHealths_alone (apps : List (Uuid × WorkspaceAppRow)) (updates : List HealthUpdate)
    (db : AgentDb) (choices : ℕ → Choice) (hfails : ∀ n, (choices n).fails = none) :
    ∃ e, (updateHealths apps updates).alone exec db choices = some e ∧
      e.result = healthResult apps updates ∧
      e.state = db.writeHealths (healthWrites apps updates) := by
  induction updates generalizing db choices with
  | nil => exact ⟨_, rfl, rfl, rfl⟩
  | cons update rest ih =>
    rw [updateHealths_cons, healthResult, healthWrites]
    cases hcheck : checkUpdate apps update with
    | error e => exact ⟨_, rfl, rfl, rfl⟩
    | ok found =>
      obtain ⟨id, old, newHealth⟩ := found
      simp only
      split
      · exact ih db choices hfails
      · have hask : (ask ("update workspace app health for " ++ id.toHyphenated)
            (.updateWorkspaceAppHealth id newHealth)).alone exec db choices =
            some ⟨[_], .ok (), db.updateWorkspaceAppHealth id newHealth⟩ :=
          ask_alone (hfails 0) rfl
        obtain ⟨e, halone, hresult, hstate⟩ := ih (db.updateWorkspaceAppHealth id newHealth)
          (fun n => choices (n + 1)) fun n => hfails (n + 1)
        refine ⟨e.after [.store (.updateWorkspaceAppHealth id newHealth)], ?_, hresult, hstate⟩
        rw [Calls.alone_bindOk hask, List.length_singleton, halone]
        rfl

theorem batchUpdateAppHealth_alone (h : LiveAgentHandler) (updates : List HealthUpdate)
    (db : AgentDb) (choices : ℕ → Choice) (hfails : ∀ n, (choices n).fails = none) :
    ∃ e, (h.batchUpdateAppHealth updates).alone exec db choices = some e ∧
      e.result = healthResult (db.listWorkspaceAppsByAgentId h.agentId) updates ∧
      e.state =
        db.writeHealths (healthWrites (db.listWorkspaceAppsByAgentId h.agentId) updates) := by
  rw [batchUpdateAppHealth]
  split
  · rename_i hempty
    rw [List.isEmpty_iff.mp hempty]
    exact ⟨_, rfl, rfl, rfl⟩
  · have hask : (ask "list apps" (.listWorkspaceAppsByAgentId h.agentId)).alone exec db choices =
        some ⟨[_], .ok (db.listWorkspaceAppsByAgentId h.agentId), db⟩ :=
      ask_alone (hfails 0) rfl
    obtain ⟨e, halone, hresult, hstate⟩ := updateHealths_alone
      (db.listWorkspaceAppsByAgentId h.agentId) updates db (fun n => choices (n + 1))
      fun n => hfails (n + 1)
    refine ⟨e.after [.store (.listWorkspaceAppsByAgentId h.agentId)], ?_, hresult, hstate⟩
    rw [Calls.alone_bindOk hask, List.length_singleton, halone]
    rfl

/-- The last of the writes for an app stays. -/
theorem health_writeHealths (db : AgentDb) (writes : List (Uuid × String)) (appId : Uuid) :
    (db.writeHealths writes).health appId = (db.health appId).map fun old =>
      ((writes.filter fun write => write.1 = appId).getLast?.map (·.2)).getD old := by
  induction writes generalizing db with
  | nil => simp [AgentDb.writeHealths]
  | cons write writes ih =>
    have hstep : (db.updateWorkspaceAppHealth write.1 write.2).health appId =
        (db.health appId).map fun old => if write.1 = appId then write.2 else old := by
      simp only [AgentDb.health, AgentDb.updateWorkspaceAppHealth, HashMap.lookup_modify,
        Option.map_map]
      by_cases happ : write.1 = appId
      · simp [happ, Function.comp_def]
      · simp [happ, Ne.symm happ, Function.comp_def]
    rw [AgentDb.writeHealths, List.foldl_cons]
    refine (ih _).trans ?_
    rw [hstep, Option.map_map]
    congr 1
    funext old
    by_cases happ : write.1 = appId
    · simp only [Function.comp_apply, happ, List.filter_cons, decide_true, if_true,
        List.getLast?_cons, Option.map_some, Option.getD_some]
      cases (writes.filter fun write => write.1 = appId).getLast? <;> rfl
    · simp [happ]

/-! ## Batches in which an update is refused -/

theorem accepts_of_not_refuses (h : ¬ db.Refuses agentId update) :
    ∃ appId row newHealth, db.Accepts agentId update appId row newHealth := by
  simpa [AgentDb.Refuses] using h

theorem AgentDb.Accepts.unique (h : db.Accepts agentId update appId row newHealth) {appId' : Uuid}
    {row' : WorkspaceAppRow} {newHealth' : String}
    (h' : db.Accepts agentId update appId' row' newHealth') :
    appId' = appId ∧ row' = row ∧ newHealth' = newHealth := by
  have heq := (checkUpdate_ok_iff.mpr h').symm.trans (checkUpdate_ok_iff.mpr h)
  simpa using heq

theorem changes_iff (h : db.Accepts agentId update appId row newHealth) :
    db.Changes agentId update appId ↔ row.health ≠ newHealth := by
  constructor
  · rintro ⟨row', newHealth', h', hne⟩
    obtain ⟨-, rfl, rfl⟩ := h.unique h'
    exact hne
  · exact fun hne => ⟨row, newHealth, h, hne⟩

theorem healthResult_ok_iff :
    healthResult (db.listWorkspaceAppsByAgentId agentId) updates = .ok () ↔
      ∀ update ∈ updates, ¬ db.Refuses agentId update := by
  induction updates with
  | nil => simp [healthResult]
  | cons update rest ih =>
    rw [healthResult, List.forall_mem_cons, refuses_iff, ← ih]
    cases checkUpdate (db.listWorkspaceAppsByAgentId agentId) update with
    | error e => simp
    | ok found => simp

/-- The loop stops at the first update that is refused. -/
theorem healthWrites_append {before : List HealthUpdate} {rest : List HealthUpdate}
    (hbefore : ∀ earlier ∈ before, ¬ db.Refuses agentId earlier)
    (hrefused : db.Refuses agentId update) :
    healthWrites (db.listWorkspaceAppsByAgentId agentId) (before ++ update :: rest) =
      healthWrites (db.listWorkspaceAppsByAgentId agentId) before := by
  induction before with
  | nil =>
    obtain ⟨e, hcheck⟩ := refuses_iff.mp hrefused
    simp only [List.nil_append, healthWrites, hcheck]
  | cons earlier before ih =>
    obtain ⟨hearlier, hbefore⟩ := List.forall_mem_cons.mp hbefore
    obtain ⟨appId, row, newHealth, haccepts⟩ := accepts_of_not_refuses hearlier
    rw [List.cons_append, healthWrites, healthWrites, checkUpdate_ok_iff.mpr haccepts]
    simp only [ih hbefore]

theorem exists_first_refused {update : HealthUpdate} (hmem : update ∈ updates)
    (hrefused : db.Refuses agentId update) :
    ∃ before update rest, updates = before ++ update :: rest ∧ db.Refuses agentId update ∧
      ∀ earlier ∈ before, ¬ db.Refuses agentId earlier := by
  induction updates with
  | nil => cases hmem
  | cons first rest ih =>
    by_cases hfirst : db.Refuses agentId first
    · exact ⟨[], first, rest, rfl, hfirst, by simp⟩
    · obtain rfl | hmem := List.mem_cons.mp hmem
      · exact absurd hrefused hfirst
      · obtain ⟨before, update, rest', rfl, hupdate, hbefore⟩ := ih hmem
        exact ⟨first :: before, update, rest', rfl, hupdate,
          List.forall_mem_cons.mpr ⟨hfirst, hbefore⟩⟩

/-- Every write is of an update that changes the health of its app. -/
theorem mem_healthWrites_iff (haccepted : ∀ update ∈ updates, ¬ db.Refuses agentId update)
    {write : Uuid × String} :
    write ∈ healthWrites (db.listWorkspaceAppsByAgentId agentId) updates ↔
      ∃ update ∈ updates, ∃ row, db.Accepts agentId update write.1 row write.2 ∧
        row.health ≠ write.2 := by
  induction updates with
  | nil => simp [healthWrites]
  | cons update rest ih =>
    obtain ⟨hupdate, haccepted⟩ := List.forall_mem_cons.mp haccepted
    obtain ⟨appId, row, newHealth, haccepts⟩ := accepts_of_not_refuses hupdate
    have hown : (∃ row, db.Accepts agentId update write.1 row write.2 ∧ row.health ≠ write.2) ↔
        write = (appId, newHealth) ∧ row.health ≠ newHealth := by
      constructor
      · rintro ⟨row', haccepts', hne⟩
        obtain ⟨happ, rfl, hnew⟩ := haccepts.unique haccepts'
        exact ⟨Prod.ext happ hnew, hnew ▸ hne⟩
      · rintro ⟨rfl, hne⟩
        exact ⟨row, haccepts, hne⟩
    rw [List.exists_mem_cons_iff, hown, ← ih haccepted, healthWrites,
      checkUpdate_ok_iff.mpr haccepts]
    by_cases hsame : row.health = newHealth
    · simp [hsame]
    · simp [hsame]

/-- What is written is not what was stored, so that some health is another once anything is. -/
theorem unchanged_iff {before : List HealthUpdate}
    (hbefore : ∀ earlier ∈ before, ¬ db.Refuses agentId earlier) :
    (∀ appId, (db.writeHealths (healthWrites (db.listWorkspaceAppsByAgentId agentId) before)).health
        appId = db.health appId) ↔
      ∀ earlier ∈ before, ∀ appId, ¬ db.Changes agentId earlier appId := by
  generalize hwrites : healthWrites (db.listWorkspaceAppsByAgentId agentId) before = writes
  constructor
  · rintro hsame earlier hmem appId ⟨row, newHealth, haccepts, hne⟩
    have hwritten : (appId, newHealth) ∈ writes.filter fun write => write.1 = appId := by
      rw [List.mem_filter, ← hwrites, mem_healthWrites_iff hbefore]
      exact ⟨⟨earlier, hmem, row, haccepts, hne⟩, by simp⟩
    obtain ⟨last, hlast⟩ := Option.isSome_iff_exists.mp
      (List.getLast?_isSome.mpr (List.ne_nil_of_mem hwritten))
    have hlastMem := List.mem_filter.mp (List.mem_of_getLast? hlast)
    rw [← hwrites, mem_healthWrites_iff hbefore] at hlastMem
    obtain ⟨⟨update, -, row', haccepts', hne'⟩, happ⟩ := hlastMem
    obtain rfl : last.1 = appId := by simpa using happ
    have hhealth := hsame last.1
    rw [health_writeHealths, hlast] at hhealth
    simp only [AgentDb.health, haccepts'.stored, Option.map_some, Option.getD_some,
      Option.some.injEq] at hhealth
    exact hne' hhealth.symm
  · intro hquiet appId
    have hnil : writes = [] := by
      rw [← hwrites, List.eq_nil_iff_forall_not_mem]
      intro write hmem
      obtain ⟨update, hmem, row, haccepts, hne⟩ := (mem_healthWrites_iff hbefore).mp hmem
      exact hquiet update hmem write.1 ⟨row, write.2, haccepts, hne⟩
    rw [hnil]
    rfl

/-! ## Batches that are accepted -/

/-- What differs from `a` in a list ends as the list does, unless that ends with `a`. -/
theorem getLast?_filter_ne_iff {α : Type} [DecidableEq α] (a : α) (l : List α) :
    (l.filter fun x => x ≠ a).getLast?.getD a = l.getLast?.getD a ↔
      ((∃ x ∈ l, x ≠ a) → ∀ last, l.getLast? = some last → last ≠ a) := by
  induction l using List.reverseRecOn with
  | nil => simp
  | append_singleton l last =>
    by_cases hlast : last = a
    · subst hlast
      have hfilter : (l.filter fun x => x ≠ last).getLast?.getD last = last ↔
          ∀ x ∈ l, x = last := by
        constructor
        · intro h x hx
          by_contra hne
          have hmem : x ∈ l.filter fun x => x ≠ last := List.mem_filter.mpr ⟨hx, by simpa using hne⟩
          obtain ⟨y, hy⟩ := Option.isSome_iff_exists.mp
            (List.getLast?_isSome.mpr (List.ne_nil_of_mem hmem))
          have hyne := (List.mem_filter.mp (List.mem_of_getLast? hy)).2
          rw [hy, Option.getD_some] at h
          simp [h] at hyne
        · intro h
          have hnil : l.filter (fun x => x ≠ last) = [] :=
            List.filter_eq_nil_iff.mpr fun x hx => by simp [h x hx]
          rw [hnil]
          rfl
      simpa [List.filter_append] using hfilter
    · simp [List.filter_append, hlast]

/-- The healths that the updates name for the app. -/
def namedHealths (updates : List HealthUpdate) (appId : Uuid) : List String :=
  (updates.filter fun update => (Uuid.fromSlice update.id).toOption = some appId).map fun update =>
    (appHealthProtoToDb update.health).getD ""

theorem getLast?_namedHealths :
    (namedHealths updates appId).getLast? =
      (lastUpdate updates appId).map fun update => (appHealthProtoToDb update.health).getD "" :=
  List.getLast?_map

theorem names_iff (h : db.Accepts agentId update appId row newHealth) {appId' : Uuid} :
    (Uuid.fromSlice update.id).toOption = some appId' ↔ appId = appId' := by
  rw [h.names, Except.toOption, Option.some.injEq]

/-- Of the healths that are named for an app, those are written that it does not have. -/
theorem healthWrites_of_app (haccepted : ∀ update ∈ updates, ¬ db.Refuses agentId update)
    (hrow : db.apps.lookup appId = some row) :
    ((healthWrites (db.listWorkspaceAppsByAgentId agentId) updates).filter fun write =>
        write.1 = appId).map (·.2) =
      (namedHealths updates appId).filter fun health => health ≠ row.health := by
  induction updates with
  | nil => rfl
  | cons update rest ih =>
    obtain ⟨hupdate, haccepted⟩ := List.forall_mem_cons.mp haccepted
    obtain ⟨appId', row', newHealth, haccepts⟩ := accepts_of_not_refuses hupdate
    have ih := ih haccepted
    rw [namedHealths] at ih ⊢
    simp only [healthWrites, checkUpdate_ok_iff.mpr haccepts, List.filter_cons,
      decide_eq_true_eq, names_iff haccepts]
    by_cases happ : appId' = appId
    · subst happ
      obtain rfl : row' = row := Option.some.inj (haccepts.stored.symm.trans hrow)
      by_cases hsame : row'.health = newHealth
      · subst hsame
        simp [haccepts.known, ih]
      · simp [hsame, haccepts.known, Ne.symm hsame, ih]
    · by_cases hsame : row'.health = newHealth
      · simp [hsame, happ, ih]
      · simp [hsame, happ, ih]

theorem lastUpdate_mem (h : lastUpdate updates appId = some update) :
    update ∈ updates ∧ (Uuid.fromSlice update.id).toOption = some appId := by
  have hmem := List.mem_filter.mp (List.mem_of_getLast? h)
  exact ⟨hmem.1, by simpa using hmem.2⟩

/-- An app has the health of its last update, unless that is the one it had and another has been
written. -/
theorem lastWord_iff (haccepted : ∀ update ∈ updates, ¬ db.Refuses agentId update) :
    (db.writeHealths (healthWrites (db.listWorkspaceAppsByAgentId agentId) updates)).health appId =
        (lastUpdate updates appId).elim (db.health appId)
          (fun update => appHealthProtoToDb update.health) ↔
      ∀ update ∈ updates, db.Changes agentId update appId →
        ∀ last, lastUpdate updates appId = some last → db.Changes agentId last appId := by
  cases hlast : lastUpdate updates appId with
  | none =>
    have hnone : ∀ write ∈ healthWrites (db.listWorkspaceAppsByAgentId agentId) updates,
        write.1 ≠ appId := by
      rintro write hmem rfl
      obtain ⟨update, hupdate, row, haccepts, -⟩ := (mem_healthWrites_iff haccepted).mp hmem
      have hfilter := List.filter_eq_nil_iff.mp (List.getLast?_eq_none_iff.mp hlast) update hupdate
      simp [(names_iff haccepts).mpr rfl] at hfilter
    have hfilter : (healthWrites (db.listWorkspaceAppsByAgentId agentId) updates).filter
        (fun write => write.1 = appId) = [] :=
      List.filter_eq_nil_iff.mpr fun write hmem => by simpa using hnone write hmem
    simp [health_writeHealths, hfilter]
  | some last =>
    obtain ⟨hmem, hnames⟩ := lastUpdate_mem hlast
    obtain ⟨appId', row, newHealth, haccepts⟩ := accepts_of_not_refuses (haccepted last hmem)
    obtain rfl := (names_iff haccepts).mp hnames
    have hnamed : (namedHealths updates appId').getLast? = some newHealth := by
      rw [getLast?_namedHealths, hlast, Option.map_some, haccepts.known, Option.getD_some]
    have hchanges : (∃ update ∈ updates, db.Changes agentId update appId') ↔
        ∃ health ∈ namedHealths updates appId', health ≠ row.health := by
      constructor
      · rintro ⟨update, hmem, row', health, haccepts', hne⟩
        obtain rfl : row' = row :=
          Option.some.inj (haccepts'.stored.symm.trans haccepts.stored)
        refine ⟨health, List.mem_map.mpr ⟨update, ?_, ?_⟩, Ne.symm hne⟩
        · exact List.mem_filter.mpr ⟨hmem, by simpa using (names_iff haccepts').mpr rfl⟩
        · rw [haccepts'.known, Option.getD_some]
      · rintro ⟨health, hhealth, hne⟩
        obtain ⟨update, hfilter, rfl⟩ := List.mem_map.mp hhealth
        obtain ⟨hmem, hnames⟩ := List.mem_filter.mp hfilter
        obtain ⟨appId'', row', health, haccepts'⟩ := accepts_of_not_refuses (haccepted update hmem)
        obtain rfl := (names_iff haccepts').mp (by simpa using hnames)
        obtain rfl : row' = row :=
          Option.some.inj (haccepts'.stored.symm.trans haccepts.stored)
        rw [haccepts'.known, Option.getD_some] at hne
        exact ⟨update, hmem, row', health, haccepts', Ne.symm hne⟩
    have hlist := getLast?_filter_ne_iff row.health (namedHealths updates appId')
    rw [hnamed, ← hchanges, ← healthWrites_of_app haccepted haccepts.stored, List.getLast?_map]
      at hlist
    rw [health_writeHealths, AgentDb.health, haccepts.stored, Option.map_some, Option.map_some,
      Option.elim_some, haccepts.known, Option.some.injEq]
    refine hlist.trans ?_
    simp [changes_iff haccepts, ne_comm]

/-! ## The batch -/

/-- A batch of healths is all or nothing, and its last word counts, exactly if it is harmless. -/
theorem batchUpdateAppHealth_allOrNothing_iff (h : LiveAgentHandler) (db : AgentDb)
    (updates : List HealthUpdate) (choices : ℕ → Choice) (hfails : ∀ n, (choices n).fails = none) :
    (∃ e, (h.batchUpdateAppHealth updates).alone exec db choices = some e ∧
      AllOrNothing updates db e.result e.state) ↔ Harmless db h.agentId updates := by
  obtain ⟨e, halone, hresult, hstate⟩ := batchUpdateAppHealth_alone h updates db choices hfails
  have hthe : (∃ e, (h.batchUpdateAppHealth updates).alone exec db choices = some e ∧
      AllOrNothing updates db e.result e.state) ↔ AllOrNothing updates db e.result e.state := by
    rw [halone]
    simp
  rw [hthe, hresult, hstate]
  by_cases haccepted : ∀ update ∈ updates, ¬ db.Refuses h.agentId update
  · have hok := healthResult_ok_iff.mpr haccepted
    constructor
    · intro hall
      constructor
      · rintro before update rest rfl hrefused
        exact absurd hrefused (haccepted update (by simp))
      · intro _ update hmem appId
        exact (lastWord_iff haccepted).mp (hall.all hok appId) update hmem
    · intro hharmless
      constructor
      · intro error herror
        rw [hok] at herror
        cases herror
      · intro _ appId
        exact (lastWord_iff haccepted).mpr fun update hmem =>
          hharmless.repeated haccepted update hmem appId
  · obtain ⟨error, herror⟩ : ∃ error, healthResult (db.listWorkspaceAppsByAgentId h.agentId) updates
        = .error error := by
      cases hcase : healthResult (db.listWorkspaceAppsByAgentId h.agentId) updates with
      | error error => exact ⟨error, rfl⟩
      | ok _ => exact absurd (healthResult_ok_iff.mp hcase) haccepted
    constructor
    · intro hall
      constructor
      · rintro before update rest rfl hrefused hbefore
        have hsame := hall.nothing error herror
        rw [healthWrites_append hbefore hrefused] at hsame
        exact (unchanged_iff hbefore).mp hsame
      · exact fun hall' => absurd hall' haccepted
    · intro hharmless
      push Not at haccepted
      obtain ⟨update, hmem, hrefused⟩ := haccepted
      obtain ⟨before, first, rest, rfl, hfirst, hbefore⟩ := exists_first_refused hmem hrefused
      constructor
      · intro _ _
        rw [healthWrites_append hbefore hfirst]
        exact (unchanged_iff hbefore).mpr (hharmless.refused before first rest rfl hfirst hbefore)
      · intro hok
        rw [herror] at hok
        cases hok

/-- App 5 of agent 1, with a healthcheck, and app 6 without one. -/
def twoApps : AgentDb :=
  { twoAgents with
    apps := (HashMap.singleRow ⟨5⟩ ⟨⟨1⟩, "web", "http://localhost/healthz", "healthy", 0⟩).insert
      ⟨6⟩ ⟨⟨1⟩, "shell", "", "disabled", 1⟩ }

def healthUpdate (appId : Uuid) (health : Int) : HealthUpdate := ⟨appId.asBytes, health⟩

theorem batchUpdateAppHealth_allOrNothing_iff_one :
    ∃ e, (firstAgent.batchUpdateAppHealth [healthUpdate ⟨5⟩ 4]).alone exec twoApps (fun _ => noon) =
        some e ∧
      AllOrNothing [healthUpdate ⟨5⟩ 4] twoApps e.result e.state := by
  refine (batchUpdateAppHealth_allOrNothing_iff firstAgent twoApps [healthUpdate ⟨5⟩ 4]
    (fun _ => noon) fun _ => rfl).mpr ⟨?_, ?_⟩
  · intro before update rest hsplit _ _ earlier hmem
    obtain _ | ⟨first, before⟩ := before
    · cases hmem
    · simp at hsplit
  · intro _ update hmem appId hchanges last hlast
    have hlastMem := (lastUpdate_mem hlast).1
    rw [List.mem_singleton] at hmem hlastMem
    rw [hlastMem, ← hmem]
    exact hchanges

/-- The app is told to be unhealthy and then to be healthy again; and it is told to be unhealthy
before an app without a healthcheck comes. It is left unhealthy both times. -/
theorem unhealthy_after_all :
    ¬ (∃ e, (firstAgent.batchUpdateAppHealth [healthUpdate ⟨5⟩ 4, healthUpdate ⟨5⟩ 3]).alone exec
          twoApps (fun _ => noon) = some e ∧
        AllOrNothing [healthUpdate ⟨5⟩ 4, healthUpdate ⟨5⟩ 3] twoApps e.result e.state) ∧
      ¬ ∃ e, (firstAgent.batchUpdateAppHealth [healthUpdate ⟨5⟩ 4, healthUpdate ⟨6⟩ 3]).alone exec
          twoApps (fun _ => noon) = some e ∧
        AllOrNothing [healthUpdate ⟨5⟩ 4, healthUpdate ⟨6⟩ 3] twoApps e.result e.state := by
  have hhealth : twoApps.health ⟨5⟩ = some "healthy" := by decide +kernel
  constructor
  · rintro ⟨e, halone, hall⟩
    have hends : ((firstAgent.batchUpdateAppHealth [healthUpdate ⟨5⟩ 4, healthUpdate ⟨5⟩ 3]).alone
        exec twoApps fun _ => noon).map (fun e => (e.result.isOk, e.state.health ⟨5⟩)) =
        some (true, some "unhealthy") := by decide +kernel
    rw [halone, Option.map_some, Option.some.injEq, Prod.mk.injEq] at hends
    have hok : e.result = .ok () := by
      cases hresult : e.result with
      | error error => simp [hresult, Except.isOk, Except.toBool] at hends
      | ok _ => rfl
    have hlast := hall.all hok ⟨5⟩
    have hnamed : (lastUpdate [healthUpdate ⟨5⟩ 4, healthUpdate ⟨5⟩ 3] ⟨5⟩).map (·.health) =
        some 3 := by decide +kernel
    obtain ⟨last, hupdate, hthree⟩ := Option.map_eq_some_iff.mp hnamed
    rw [hends.2, hupdate, Option.elim_some, hthree] at hlast
    exact absurd hlast (by decide)
  · rintro ⟨e, halone, hall⟩
    have hends : ((firstAgent.batchUpdateAppHealth [healthUpdate ⟨5⟩ 4, healthUpdate ⟨6⟩ 3]).alone
        exec twoApps fun _ => noon).map (fun e => (e.result.isOk, e.state.health ⟨5⟩)) =
        some (false, some "unhealthy") := by decide +kernel
    rw [halone, Option.map_some, Option.some.injEq, Prod.mk.injEq] at hends
    cases hresult : e.result with
    | ok _ => simp [hresult, Except.isOk, Except.toBool] at hends
    | error error =>
      have hsame := hall.nothing error hresult ⟨5⟩
      rw [hends.2, hhealth] at hsame
      exact absurd hsame (by decide)

end Coderd.AgentRpc
