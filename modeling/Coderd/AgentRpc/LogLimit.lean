import Mathlib.Data.List.Count
import Coderd.AgentRpc.MetadataLimits

namespace Coderd.AgentRpc

open Coderd.Foundation
open Coderd.CryptoKeys (OffsetDateTime)
open LiveAgentHandler

/-! ## What the limit promises -/

/-- The number of rows that are stored of an agent's logs. -/
def AgentDb.logCount (db : AgentDb) (agentId : Uuid) : ℕ :=
  db.logs.countP fun row => row.agentId = agentId

structure LogLimit (agentId : Uuid) (db : AgentDb) : Prop where
  rows : (db.logCount agentId : Int) ≤ maxLogsLength
  counted : ∀ row, db.agents.lookup agentId = some row → row.logsOverflowed = false →
    row.logsLength = db.logCount agentId

/-- A request, and what it is answered. -/
abbrev Answer := BatchCreateLogsRequest × Except RpcError BatchCreateLogsResponse

/-- The batches of logs of one agent, over the store, in any order and at any time. -/
def logSession (h : LiveAgentHandler) :
    Service Op Op.Response Answer AgentDb Choice BatchCreateLogsRequest Empty where
  exec := exec
  enter req := (h.batchCreateLogs req).bind fun r => .done (req, r)
  outside db _ := db

/-- The rows are those of all the entries of the request. -/
def Stores (agentId : Uuid) (req : BatchCreateLogsRequest) (rows : List WorkspaceAgentLogRow) :
    Prop :=
  ∃ logSourceId id now,
    rows = AgentDb.logRows agentId logSourceId id (req.logs.map fun log => Log.input log now)

/-- Each call has its own rows among those that are stored, and where it has not answered that the
limit is exceeded, they are those of all its entries. -/
structure Honest (agentId : Uuid) (w : Pool AgentDb (Calls Op Op.Response Answer))
    (stored : List (List WorkspaceAgentLogRow)) : Prop where
  length : stored.length = w.tasks.length
  rows : ∀ rows ∈ stored, ∀ row ∈ rows, row ∈ w.shared.logs
  apart : stored.Pairwise List.Disjoint
  answers : ∀ (i : ℕ) req resp rows, w.tasks[i]? = some (.done (req, .ok resp)) →
    stored[i]? = some rows → resp.logLimitExceeded = false → Stores agentId req rows

/-! ## The condition -/

/-- Where logs are inserted, the flag is not set, and they fit into what the counter leaves. -/
def FitsLogs : Op → AgentDb → Choice → Prop
  | .store (.insertWorkspaceAgentLogs agentId _ logs), db, choice =>
    choice.fails = none → db.InsertsLogs agentId logs → ∀ row, db.agents.lookup agentId = some row →
      row.logsOverflowed = false ∧ row.logsLength + logs.length ≤ maxLogsLength
  | _, _, _ => True

def fitsLogs : Regime Op AgentDb Choice BatchCreateLogsRequest Empty where
  call := FitsLogs
  spawn _ _ := True
  outside _ _ := True

/-! ## The insert -/

variable {db db' : AgentDb} {agentId logSourceId : Uuid} {refusal : String}
  {logs : List InsertAgentLogInput} {rows : List WorkspaceAgentLogRow}

theorem length_logRows (agentId logSourceId : Uuid) (id : ℕ) (logs : List InsertAgentLogInput) :
    (AgentDb.logRows agentId logSourceId id logs).length = logs.length := by
  induction logs generalizing id with
  | nil => rfl
  | cons log logs ih => simp [AgentDb.logRows, ih]

/-- The ids of the rows follow one another. -/
theorem id_of_mem_logRows {id : ℕ} {row : WorkspaceAgentLogRow}
    (h : row ∈ AgentDb.logRows agentId logSourceId id logs) :
    id ≤ row.id ∧ row.id < id + logs.length := by
  induction logs generalizing id with
  | nil => cases h
  | cons log logs ih =>
    rw [List.length_cons]
    cases List.mem_cons.mp h with
    | inl hrow =>
      rw [hrow]
      exact ⟨le_refl id, by simp⟩
    | inr hrow =>
      have hrest := ih hrow
      omega

/-- The logs are stored, whatever room the counter has for them. -/
def AgentDb.withLogs (db : AgentDb) (agentId logSourceId : Uuid) (logs : List InsertAgentLogInput) :
    AgentDb :=
  { db with
    agents := db.agents.modify agentId fun row => row.addLogs logs.length
    logs := db.logs ++ AgentDb.logRows agentId logSourceId db.nextLogId logs
    nextLogId := db.nextLogId + logs.length }

theorem insertWorkspaceAgentLogs_eq (refusal : String) (logSourceId : Uuid)
    (h : db.InsertsLogs agentId logs) :
    db.insertWorkspaceAgentLogs refusal agentId logSourceId logs =
      (.ok (AgentDb.logRows agentId logSourceId db.nextLogId logs),
        db.withLogs agentId logSourceId logs) := by
  have hsome : ¬ logs.isEmpty = true := fun hempty => h.1 (List.isEmpty_iff.mp hempty)
  rw [AgentDb.insertWorkspaceAgentLogs, if_neg (Nat.not_le.mpr h.2.1), if_neg hsome, if_pos h.2.2]
  rfl

/-- An insert is refused without effect, or the logs are stored. -/
theorem insertWorkspaceAgentLogs_cases (db : AgentDb) (refusal : String)
    (agentId logSourceId : Uuid) (logs : List InsertAgentLogInput) :
    (db.insertWorkspaceAgentLogs refusal agentId logSourceId logs).2 = db ∧
        (∀ rows, (db.insertWorkspaceAgentLogs refusal agentId logSourceId logs).1 = .ok rows →
          rows = [] ∧ logs = []) ∨
      db.InsertsLogs agentId logs ∧
        db.insertWorkspaceAgentLogs refusal agentId logSourceId logs =
          (.ok (AgentDb.logRows agentId logSourceId db.nextLogId logs),
            db.withLogs agentId logSourceId logs) := by
  by_cases hinserts : db.InsertsLogs agentId logs
  · exact .inr ⟨hinserts, insertWorkspaceAgentLogs_eq refusal logSourceId hinserts⟩
  · left
    unfold AgentDb.insertWorkspaceAgentLogs
    split
    · exact ⟨rfl, fun rows h => by cases h⟩
    · rename_i hfew
      split
      · rename_i hempty
        refine ⟨rfl, fun rows h => ?_⟩
        cases h
        exact ⟨rfl, List.isEmpty_iff.mp hempty⟩
      · rename_i hsome
        split
        · rename_i haccepts
          exact absurd ⟨fun hnil => hsome (List.isEmpty_iff.mpr hnil), Nat.lt_of_not_le hfew,
            haccepts⟩ hinserts
        · exact ⟨rfl, fun rows h => by cases h⟩

theorem logCount_withLogs (db : AgentDb) (agentId logSourceId : Uuid)
    (logs : List InsertAgentLogInput) :
    (db.withLogs agentId logSourceId logs).logCount agentId =
      db.logCount agentId + logs.length := by
  have hall : (AgentDb.logRows agentId logSourceId db.nextLogId logs).countP
      (fun row => row.agentId = agentId) = logs.length := by
    rw [← length_logRows agentId logSourceId db.nextLogId logs]
    exact List.countP_eq_length.mpr fun row hmem => by simpa using (mem_logRows hmem).1
  rw [AgentDb.logCount, AgentDb.withLogs, List.countP_append, hall, AgentDb.logCount]

/-- The counter goes up with the rows, as long as it is not cut. -/
theorem LogLimit.insert (h : LogLimit agentId db) (hinserts : db.InsertsLogs agentId logs)
    (hfits : ∀ row, db.agents.lookup agentId = some row →
      row.logsOverflowed = false ∧ row.logsLength + logs.length ≤ maxLogsLength) :
    LogLimit agentId (db.withLogs agentId logSourceId logs) := by
  have haccepts := hinserts.2.2
  have hcount := logCount_withLogs db agentId logSourceId logs
  rw [AgentDb.acceptsLogs] at haccepts
  cases hrow : db.agents.lookup agentId with
  | none => simp [hrow] at haccepts
  | some row =>
    obtain ⟨hflag, hroom⟩ := hfits row hrow
    have hcounted := h.counted row hrow hflag
    constructor
    · rw [hcount]
      push_cast
      omega
    · intro row' hrow' _
      rw [AgentDb.withLogs, HashMap.lookup_modify, if_pos rfl, hrow, Option.map_some,
        Option.some.injEq] at hrow'
      rw [← hrow', hcount, WorkspaceAgentRow.addLogs, min_eq_left hroom, hcounted]
      push_cast
      rfl

/-! ## The calls -/

/-- Nothing need be known of the past. -/
def logGrowth (h : LiveAgentHandler) : Growth (logSession h) where
  Later _ _ := True
  refl _ := trivial
  trans _ _ := trivial
  exec _ := trivial
  outside _ _ := trivial

/-- A call plays the part of the rows that it has stored. -/
def logMethod (h : LiveAgentHandler) :
    Method (logGrowth h) fitsLogs (List WorkspaceAgentLogRow) where
  inv := Ensemble (LogLimit h.agentId)
    (fun db rows => ∀ row ∈ rows, row ∈ db.logs ∧ row.id < db.nextLogId) List.Disjoint
  perm := Ensemble.perm fun hdisjoint => hdisjoint.symm

/-- What a call has stored when it answers. -/
def Told (agentId : Uuid) (req : BatchCreateLogsRequest) (_ : AgentDb)
    (rows : List WorkspaceAgentLogRow) (answer : Except RpcError BatchCreateLogsResponse) : Prop :=
  ∀ resp, answer = .ok resp → resp.logLimitExceeded = false → Stores agentId req rows

/-- The calls that do not insert. -/
def Op.Peeks : Op → Prop
  | nowUtc | publish _ _ | store (.findWorkspaceAgentById _) => True
  | _ => False

variable {h : LiveAgentHandler}

theorem logMethod_keeps : (logMethod h).Keeps Op.Peeks where
  keeps {op s _ _ choice r s'} hop hinv _ hexec := by
    have hexec : exec op s choice = some (r, s') := hexec
    have hsame : s' = s := by
      cases op with
      | nowUtc =>
        cases hexec
        rfl
      | newUuid => exact hop.elim
      | publish channel payload =>
        cases hexec
        rfl
      | store query =>
        simp only [exec] at hexec
        cases query with
        | findWorkspaceAgentById id =>
          split at hexec <;> cases hexec <;> rfl
        | _ => exact hop.elim
    rw [hsame]
    exact hinv

theorem ask_uses {context : String} {query : StoreCall} (hquery : (Op.store query).Peeks) :
    (ask context query).Uses Op.Peeks := by
  refine ⟨hquery, fun r => ?_⟩
  cases r <;> trivial

theorem publish_uses (channel : String) (payload : Payload) :
    (h.publish channel payload).Uses Op.Peeks := by
  unfold LiveAgentHandler.publish
  split
  · exact ⟨trivial, fun _ => trivial⟩
  · trivial

theorem publishLogs_uses (rows : List WorkspaceAgentLogRow) :
    (h.publishLogs rows).Uses Op.Peeks := by
  induction rows with
  | nil => trivial
  | cons row rows ih => exact (publish_uses _ _).bindOk fun _ => ih

variable {seen : AgentDb}

/-- The rows of the insert become those of the call. -/
theorem insertLogs_plays {context : String} :
    (logMethod h).Plays (fun _ stored r => ∀ rows, r = .ok rows →
        ∃ id, stored = AgentDb.logRows h.agentId logSourceId id logs)
      (ask context (.insertWorkspaceAgentLogs h.agentId logSourceId logs)) seen [] := by
  intro s others choice r s' _ hinv hfits hexec
  have hexec : exec (.store (.insertWorkspaceAgentLogs h.agentId logSourceId logs)) s choice =
    some (r, s') := hexec
  have hinv : Ensemble (LogLimit h.agentId) _ List.Disjoint s ([] :: others) := hinv
  simp only [exec] at hexec
  split at hexec
  · cases hexec
    exact ⟨[], hinv, fun rows h => by cases h⟩
  · rename_i hfails
    have hperform : s.insertWorkspaceAgentLogs choice.refusal h.agentId logSourceId logs =
        (r, s') := Option.some.inj hexec
    obtain ⟨hsame, hnothing⟩ | ⟨hinserts, hinsert⟩ :=
      insertWorkspaceAgentLogs_cases s choice.refusal h.agentId logSourceId logs
    · rw [hperform] at hsame hnothing
      obtain rfl : s' = s := hsame
      refine ⟨[], hinv, ?_⟩
      cases r with
      | error e => exact fun rows h => by cases h
      | ok rows =>
        obtain ⟨-, rfl⟩ := hnothing rows rfl
        exact fun _ _ => ⟨0, rfl⟩
    · rw [hinsert] at hperform
      cases hperform
      refine ⟨AgentDb.logRows h.agentId logSourceId s.nextLogId logs, ?_, fun _ _ => ⟨_, rfl⟩⟩
      refine hinv.step (hinv.shared.insert hinserts (hfits hfails hinserts)) ?_ ?_
      · intro row hmem
        exact ⟨List.mem_append_right _ hmem, (id_of_mem_logRows hmem).2⟩
      · intro other _ hother _
        refine ⟨fun row hmem => ?_, fun row hmem hother' => ?_⟩
        · exact ⟨List.mem_append_left _ (hother row hmem).1,
            Nat.lt_add_right _ (hother row hmem).2⟩
        · -- the ids of the new rows have not been given out before
          exact absurd (hother row hother').2 (Nat.not_lt.mpr (id_of_mem_logRows hmem).1)

theorem batchCreateLogs_plays (req : BatchCreateLogsRequest) :
    (logMethod h).Plays (Told h.agentId req) (h.batchCreateLogs req) seen [] := by
  unfold LiveAgentHandler.batchCreateLogs
  split
  · rename_i hempty
    intro resp _ _
    exact ⟨.nil, 0, .unixEpoch, by rw [List.isEmpty_iff.mp hempty]; rfl⟩
  · refine Method.Plays.bindOk (logMethod_keeps.uses (ask_uses trivial) fun seen' found _ =>
      ⟨fun e _ resp hresp => (by cases hresp), fun found _ => ?_⟩)
    cases found with
    | none => exact fun resp hresp => by cases hresp
    | some agentRow =>
      simp only
      split
      · intro resp hresp hfalse
        cases hresp
        cases hfalse
      · split
        · exact fun resp hresp => by cases hresp
        · refine logMethod_keeps.call trivial fun s choice now s' _ _ => ?_
          refine Method.Plays.bindOk (insertLogs_plays.mono fun seen' stored r _ hstored =>
            ⟨fun e _ resp hresp => (by cases hresp), fun rows hrows => ?_⟩)
          obtain ⟨id, hid⟩ := hstored rows hrows
          refine Method.Plays.bindOk (logMethod_keeps.uses (publishLogs_uses rows)
            fun seen'' _ _ => ⟨fun e _ resp hresp => (by cases hresp), fun _ _ => ?_⟩)
          exact fun resp _ _ => ⟨_, id, now, hid⟩

theorem logMethod_sound :
    (logMethod h).Sound fun seen rows answer => Told h.agentId answer.1 seen rows answer.2 where
  spawn s stored req hinv _ := by
    have hinv : Ensemble (LogLimit h.agentId) _ List.Disjoint s stored := hinv
    refine ⟨[], hinv.join (by simp) (by simp), ?_⟩
    exact Method.Plays.bind ((batchCreateLogs_plays req).mono fun _ _ _ _ htold => htold)
  outside _ _ event := event.elim

/-! ## Every run -/

/-- The session after a run, no call being in progress at its start. -/
def logPool (h : LiveAgentHandler) (db : AgentDb)
    (moves : List (Move BatchCreateLogsRequest Choice Empty)) :
    Pool AgentDb (Calls Op Op.Response Answer) :=
  (logSession h).program.run { shared := db, tasks := [] } moves

/-- In a run whose batches fit, the limit holds in every state, and every call answers for what it
has stored. -/
theorem log_limit_of_fits (h : LiveAgentHandler) (db : AgentDb) (hstart : LogLimit h.agentId db)
    (moves : List (Move BatchCreateLogsRequest Choice Empty))
    (hfits : Along (logSession h).program.step fitsLogs.Allows { shared := db, tasks := [] }
      moves) :
    ∀ first, first <+: moves → LogLimit h.agentId (logPool h db first).shared ∧
      ∃ stored, Honest h.agentId (logPool h db first) stored := by
  rintro first ⟨rest, rfl⟩
  obtain ⟨hfirst, -⟩ := (along_append _ _ _).mp hfits
  have hinv : Ensemble (LogLimit h.agentId)
      (fun db rows => ∀ row ∈ rows, row ∈ db.logs ∧ row.id < db.nextLogId) List.Disjoint db [] :=
    ⟨hstart, by simp, .nil⟩
  obtain ⟨roles, hcast⟩ := (Method.Cast.start (m := logMethod h) hinv).along logMethod_sound hfirst
  have hends : Ensemble (LogLimit h.agentId)
      (fun db rows => ∀ row ∈ rows, row ∈ db.logs ∧ row.id < db.nextLogId) List.Disjoint
      (logPool h db first).shared (roles.map (·.2)) := hcast.inv
  refine ⟨hends.shared, roles.map (·.2), ?_, ?_, hends.apart, ?_⟩
  · rw [List.length_map]
    exact hcast.length
  · exact fun rows hrows row hrow => (hends.valid rows hrows row hrow).1
  · intro i req resp rows htask hrows hfalse
    rw [List.getElem?_map, Option.map_eq_some_iff] at hrows
    obtain ⟨role, hrole, rfl⟩ := hrows
    have htold : Told h.agentId req role.1 role.2 (.ok resp) :=
      hcast.plays i (.done (req, .ok resp)) role htask hrole
    exact htold resp rfl hfalse

def oneLog : BatchCreateLogsRequest := ⟨Uuid.asBytes ⟨5⟩, [⟨none, "hello", 3⟩]⟩

/-- A batch of one log, up to its answer. -/
def oneLogRun : List (Move BatchCreateLogsRequest Choice Empty) :=
  .spawn oneLog :: List.replicate 3 (.run 0 noon)

/-- A test that is passed where the logs of an insert fit. -/
def fitsTest : Op → AgentDb → Choice → Bool
  | .store (.insertWorkspaceAgentLogs agentId _ logs), db, _ =>
    (db.agents.lookup agentId).all fun row =>
      !row.logsOverflowed && decide (row.logsLength + logs.length ≤ maxLogsLength)
  | _, _, _ => true

theorem fitsLogs_of_test {op : Op} {db : AgentDb} {choice : Choice}
    (h : fitsTest op db choice = true) : fitsLogs.call op db choice := by
  cases op with
  | store query =>
    cases query with
    | insertWorkspaceAgentLogs agentId logSourceId logs =>
      intro _ _ row hrow
      simpa [fitsTest, hrow] using h
    | _ => trivial
  | _ => trivial

theorem log_limit_of_fits_oneLog :
    (logPool firstAgent twoAgents oneLogRun).shared.logCount ⟨1⟩ = 1 ∧
      LogLimit ⟨1⟩ (logPool firstAgent twoAgents oneLogRun).shared ∧
      ∃ stored, Honest ⟨1⟩ (logPool firstAgent twoAgents oneLogRun) stored := by
  have hstart : LogLimit ⟨1⟩ twoAgents := by
    refine ⟨by decide +kernel, fun row hrow _ => ?_⟩
    have hlength : (twoAgents.agents.lookup ⟨1⟩).map (·.logsLength) = some 0 := by decide +kernel
    rw [hrow] at hlength
    exact Option.some.inj hlength
  refine ⟨by decide +kernel, log_limit_of_fits firstAgent twoAgents hstart oneLogRun ?_ oneLogRun
    List.prefix_rfl⟩
  exact Regime.along_of_checks (fun _ _ => trivial) (fun _ event => event.elim)
    (fun _ _ _ h => fitsLogs_of_test h) (by decide +kernel : Regime.checks (logSession firstAgent)
      fitsTest { shared := twoAgents, tasks := [] } oneLogRun = true)

/-! ## A batch that does not fit -/

theorem publishLogs_alone (h : LiveAgentHandler) (rows : List WorkspaceAgentLogRow) (db : AgentDb)
    (choices : ℕ → Choice) :
    ∃ calls, (h.publishLogs rows).alone exec db choices = some ⟨calls, .ok (), db⟩ := by
  induction rows generalizing choices with
  | nil => exact ⟨[], rfl⟩
  | cons row rows ih =>
    obtain ⟨calls, -, hpublish⟩ := publish_alone h
      ("workspace_agent_logs:" ++ h.agentId.toHyphenated)
      (.log ⟨row.id, row.createdAt, row.output, row.level, row.logSourceId⟩) db choices
    obtain ⟨calls', hrest⟩ := ih fun n => choices (n + calls.length)
    refine ⟨calls ++ calls', ?_⟩
    rw [LiveAgentHandler.publishLogs, Calls.alone_bindOk hpublish, hrest]
    rfl

/-- As long as the flag is not set, every batch is stored as a whole, and answered so. -/
theorem batchCreateLogs_alone (h : LiveAgentHandler) {req : BatchCreateLogsRequest}
    (choices : ℕ → Choice) (hfails : ∀ n, (choices n).fails = none) {row : WorkspaceAgentRow}
    (hlogs : req.logs.isEmpty = false) (hrow : db.findWorkspaceAgentById h.agentId = some row)
    (hflag : row.logsOverflowed = false)
    (hsource : Uuid.fromSlice req.logSourceId = .ok logSourceId)
    (hinsert : db.insertWorkspaceAgentLogs (choices 2).refusal h.agentId logSourceId
      (req.logs.map fun log => Log.input log (choices 1).now) = (.ok rows, db')) :
    ∃ calls, (h.batchCreateLogs req).alone exec db choices = some ⟨calls, .ok ⟨false⟩, db'⟩ := by
  have hfind : (ask "find agent" (.findWorkspaceAgentById h.agentId)).alone exec db choices =
      some ⟨[.store (.findWorkspaceAgentById h.agentId)], .ok (some row), db⟩ :=
    ask_alone (hfails 0) (by rw [← hrow]; rfl)
  have hask : (ask "insert agent logs" (.insertWorkspaceAgentLogs h.agentId logSourceId
      (req.logs.map fun log => Log.input log (choices 1).now))).alone exec db
      (fun n => choices (n + 1 + 1)) = some ⟨[_], .ok rows, db'⟩ :=
    ask_alone (hfails 2) hinsert
  obtain ⟨calls, hpublish⟩ := publishLogs_alone h rows db' fun n => choices (n + 1 + 1 + 1)
  have hanswer : ((h.publishLogs rows).bindOk fun _ =>
      .done (.ok (⟨false⟩ : BatchCreateLogsResponse))).alone exec db'
        (fun n => choices (n + 1 + 1 + 1)) = some ⟨calls, .ok ⟨false⟩, db'⟩ := by
    rw [Calls.alone_bindOk hpublish]
    simp [Calls.alone, Ending.after]
  have hnow := Calls.alone_bindOk (k := fun rows => (h.publishLogs rows).bindOk fun _ =>
    .done (.ok (⟨false⟩ : BatchCreateLogsResponse))) hask
  rw [List.length_singleton, hanswer] at hnow
  refine ⟨.store (.findWorkspaceAgentById h.agentId) :: .nowUtc ::
    .store (.insertWorkspaceAgentLogs h.agentId logSourceId
      (req.logs.map fun log => Log.input log (choices 1).now)) :: calls, ?_⟩
  rw [LiveAgentHandler.batchCreateLogs, hlogs, if_neg (by decide), Calls.alone_bindOk hfind]
  simp only [hflag, hsource, Bool.false_eq_true, if_false, List.length_singleton]
  rw [Calls.alone_call (r := (choices 1).now) rfl, hnow]
  rfl

/-- Agent 1 with rows of its logs, as many as the limit allows. -/
def fullDb (rows : List WorkspaceAgentLogRow) : AgentDb :=
  { twoAgents with
    agents := HashMap.singleRow ⟨1⟩ { plainAgent ⟨11⟩ with logsLength := maxLogsLength }
    logs := rows
    nextLogId := 1048577 }

def fullRows : List WorkspaceAgentLogRow :=
  AgentDb.logRows ⟨1⟩ ⟨5⟩ 1 (List.replicate 1048576 ⟨.unixEpoch, "hello", "info"⟩)

theorem logCount_fullDb : (fullDb fullRows).logCount ⟨1⟩ = 1048576 := by
  have hall : fullRows.countP (fun row => row.agentId = ⟨1⟩) = fullRows.length :=
    List.countP_eq_length.mpr fun row hmem => by simpa using (mem_logRows hmem).1
  exact hall.trans ((length_logRows _ _ _ _).trans List.length_replicate)

/-- One more log is stored, and the answer is that the limit is not exceeded. -/
theorem one_log_too_many : ∃ moves, LogLimit ⟨1⟩ (fullDb fullRows) ∧
    (logPool firstAgent (fullDb fullRows) moves).tasks = [.done (oneLog, .ok ⟨false⟩)] ∧
    ¬ LogLimit ⟨1⟩ (logPool firstAgent (fullDb fullRows) moves).shared := by
  have haccepts : (fullDb fullRows).acceptsLogs ⟨1⟩ 1 = true := by
    rw [AgentDb.acceptsLogs, fullDb, HashMap.lookup_singleRow_self]
    rfl
  have hinserts : (fullDb fullRows).InsertsLogs ⟨1⟩
      (oneLog.logs.map fun log => Log.input log noon.now) := ⟨by decide, by decide, haccepts⟩
  have hrow : (fullDb fullRows).findWorkspaceAgentById ⟨1⟩ =
      some { plainAgent ⟨11⟩ with logsLength := maxLogsLength } := by
    rw [AgentDb.findWorkspaceAgentById, fullDb, HashMap.lookup_singleRow_self]
    rfl
  obtain ⟨calls, halone⟩ := batchCreateLogs_alone firstAgent (fun _ => noon) (fun _ => rfl) rfl hrow
    rfl (by decide +kernel) (insertWorkspaceAgentLogs_eq noon.refusal ⟨5⟩ hinserts)
  obtain ⟨moves, hpool⟩ : ∃ moves, logPool firstAgent (fullDb fullRows) moves =
      { shared := (fullDb fullRows).withLogs ⟨1⟩ ⟨5⟩
          (oneLog.logs.map fun log => Log.input log noon.now)
        tasks := [.done (oneLog, .ok ⟨false⟩)] } :=
    ⟨.spawn oneLog :: _, Calls.run_of_alone (logSession firstAgent)
      (Calls.alone_bind (k := fun r => .done (oneLog, r)) halone)⟩
  refine ⟨moves, ⟨?_, fun row hrow' _ => ?_⟩, by rw [hpool], ?_⟩
  · rw [logCount_fullDb]
    decide
  · rw [fullDb, HashMap.lookup_singleRow_self, Option.some.injEq] at hrow'
    rw [logCount_fullDb, ← hrow']
    rfl
  · intro hlimit
    have hrows := hlimit.rows
    rw [hpool, logCount_withLogs, logCount_fullDb] at hrows
    exact absurd hrows (by decide)

end Coderd.AgentRpc
