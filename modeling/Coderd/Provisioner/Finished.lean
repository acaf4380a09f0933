import Coderd.Provisioner.Writers

namespace Coderd.Provisioner

open Coderd.Foundation
open Coderd.CryptoKeys (OffsetDateTime)

/-! ## What is claimed -/

/-- How a job ended. -/
structure Outcome where
  completedAt : Option OffsetDateTime
  error : String
  errorCode : String
  jobStatus : ProvisionerJobStatus

def ProvisionerJobRow.outcome (row : ProvisionerJobRow) : Outcome where
  completedAt := row.completedAt
  error := row.error
  errorCode := row.errorCode
  jobStatus := row.jobStatus

/-- The finished rows of one table are in the other, and ended in the same way. -/
def Keeps (jobs jobs' : JobTable) : Prop :=
  ∀ id row, jobs.lookup id = some row → row.completedAt.isSome = true →
    ∃ row', jobs'.lookup id = some row' ∧ row'.outcome = row.outcome

/-- A job that is finished at some point of the run is finished in the same way at every later
one. -/
def StaysFinished (world : World) (moves : List (Move WriterOp WriterChoice TableEvent)) : Prop :=
  ∀ before after rest, moves = before ++ (after ++ rest) →
    Keeps (writers.run (idle world) before).shared.jobs
      (writers.run (idle world) (before ++ after)).shared.jobs

/-! ## The statements that finish a job -/

/-- One of the two updates that can set `completed_at`. -/
inductive Finishing where
  | complete (input : CompleteProvisionerJobInput)
  | cancel (input : CancelProvisionerJobInput)

namespace Finishing

def id : Finishing → Uuid
  | complete input => input.id
  | cancel input => input.id

def set : Finishing → ProvisionerJobRow → ProvisionerJobRow
  | complete input => input.set
  | cancel input => input.set

def apply (f : Finishing) (jobs : JobTable) : JobTable := jobs.update f.id f.set

/-- The row is not finished yet, or it already has all that the statement would write: the same
end of the job, or a cancellation that came before. -/
def spares : Finishing → ProvisionerJobRow → Bool
  | complete input, row =>
    row.completedAt.isNone ||
      (decide (row.completedAt = some input.completedAt) && decide (row.error = input.error) &&
        decide (row.errorCode = input.errorCode))
  | cancel input, row =>
    row.completedAt.isNone ||
      (row.canceledAt.isSome &&
        (input.completedAt.isNone || decide (input.completedAt = row.completedAt)))

theorem jobStatus_eq_canceled {row : ProvisionerJobRow} (h : row.completedAt.isSome = true) :
    row.jobStatus = .canceled ↔ row.canceledAt.isSome = true := by
  unfold ProvisionerJobRow.jobStatus
  by_cases hcanceled : row.canceledAt.isSome = true
  · simp [h, hcanceled]
  · rw [if_neg fun hboth => hcanceled hboth.2]
    simp only [h, hcanceled, true_and, if_true]
    split <;> simp

theorem outcome_complete {row : ProvisionerJobRow} {input : CompleteProvisionerJobInput}
    (h : row.completedAt.isSome = true) :
    (input.set row).outcome = row.outcome ↔ (complete input).spares row = true := by
  have hsome : row.completedAt.isNone = false := by simpa using h
  simp only [spares, hsome, Bool.false_or, Bool.and_eq_true, decide_eq_true_eq]
  constructor
  · intro heq
    simp only [ProvisionerJobRow.outcome, CompleteProvisionerJobInput.set,
      Outcome.mk.injEq] at heq
    obtain ⟨hcompleted, herror, hcode, -⟩ := heq
    exact ⟨⟨hcompleted.symm, herror.symm⟩, hcode.symm⟩
  · rintro ⟨⟨hcompleted, herror⟩, hcode⟩
    have hset : input.set row = { row with updatedAt := input.updatedAt } := by
      rw [CompleteProvisionerJobInput.set, ← hcompleted, ← herror, ← hcode]
    rw [hset]
    rfl

theorem outcome_cancel {row : ProvisionerJobRow} {input : CancelProvisionerJobInput}
    (h : row.completedAt.isSome = true) :
    (input.set row).outcome = row.outcome ↔ (cancel input).spares row = true := by
  have hsome : row.completedAt.isNone = false := by simpa using h
  have hset : (input.set row).completedAt.isSome = true := by
    cases hinput : input.completedAt <;> simp [CancelProvisionerJobInput.set, hinput, h]
  have hcanceled : (input.set row).jobStatus = .canceled := (jobStatus_eq_canceled hset).mpr rfl
  have hcompleted : (input.set row).completedAt = row.completedAt ↔
      (input.completedAt.isNone || decide (input.completedAt = row.completedAt)) = true := by
    cases hinput : input.completedAt <;> simp [CancelProvisionerJobInput.set, hinput]
  simp only [spares, hsome, Bool.false_or, Bool.and_eq_true]
  rw [← hcompleted, ← jobStatus_eq_canceled h]
  constructor
  · intro heq
    simp only [ProvisionerJobRow.outcome, Outcome.mk.injEq] at heq
    obtain ⟨hcompletedAt, -, -, hstatus⟩ := heq
    exact ⟨hstatus.symm.trans hcanceled, hcompletedAt⟩
  · rintro ⟨hstatus, hcompletedAt⟩
    simp only [ProvisionerJobRow.outcome, Outcome.mk.injEq]
    exact ⟨hcompletedAt, rfl, rfl, hcanceled.trans hstatus.symm⟩

theorem outcome_set {f : Finishing} {row : ProvisionerJobRow}
    (h : row.completedAt.isSome = true) :
    (f.set row).outcome = row.outcome ↔ f.spares row = true := by
  cases f with
  | complete input => exact outcome_complete h
  | cancel input => exact outcome_cancel h

theorem spares_of_unfinished {f : Finishing} {row : ProvisionerJobRow}
    (h : row.completedAt.isSome = false) : f.spares row = true := by
  have hnone : row.completedAt.isNone = true := by simpa using h
  cases f <;> simp [spares, hnone]

end Finishing

/-! ## Tables that keep their finished rows -/

namespace Keeps

variable {jobs jobs' jobs'' : JobTable}

theorem refl (jobs : JobTable) : Keeps jobs jobs := fun _ row hrow _ => ⟨row, hrow, rfl⟩

theorem trans (h : Keeps jobs jobs') (h' : Keeps jobs' jobs'') : Keeps jobs jobs'' := by
  intro id row hrow hfinished
  obtain ⟨row', hrow', houtcome⟩ := h id row hrow hfinished
  have hcompleted : row'.completedAt = row.completedAt := congrArg Outcome.completedAt houtcome
  obtain ⟨row'', hrow'', houtcome'⟩ := h' id row' hrow' (hcompleted ▸ hfinished)
  exact ⟨row'', hrow'', houtcome'.trans houtcome⟩

/-- An update is harmless exactly when it is to the row it finds. -/
theorem update_iff {id : Uuid} {set : ProvisionerJobRow → ProvisionerJobRow} :
    Keeps jobs (jobs.update id set) ↔
      ∀ row, jobs.lookup id = some row → row.completedAt.isSome = true →
        (set row).outcome = row.outcome := by
  constructor
  · intro h row hrow hfinished
    obtain ⟨row', hrow', houtcome⟩ := h id row hrow hfinished
    rw [JobTable.lookup_update, if_pos rfl, hrow] at hrow'
    cases hrow'
    exact houtcome
  · intro h id' row hrow hfinished
    by_cases hid : id' = id
    · subst hid
      exact ⟨set row, by rw [JobTable.lookup_update, if_pos rfl, hrow]; rfl, h row hrow hfinished⟩
    · exact ⟨row, by rw [JobTable.lookup_update, if_neg hid, hrow], rfl⟩

theorem insert (jobs : JobTable) (input : InsertProvisionerJobInput) :
    Keeps jobs (jobs.insertProvisionerJob input) := by
  intro id row hrow hfinished
  exact ⟨row, JobTable.lookup_insertProvisionerJob hrow input, rfl⟩

end Keeps

/-! ## What a store call does to the table -/

inductive Effect (jobs : JobTable) : Option Finishing → JobTable → Prop where
  | same : Effect jobs none jobs
  | touched (id : Uuid) (updatedAt : OffsetDateTime) :
    Effect jobs none (jobs.updateProvisionerJobById id updatedAt)
  | acquired (input : AcquireProvisionerJobInput) (id : Uuid) (row : ProvisionerJobRow)
      (hrow : jobs.lookup id = some row) (haccepts : input.accepts row = true) :
    Effect jobs none (jobs.update id input.set)
  | finished (f : Finishing) : Effect jobs (some f) (f.apply jobs)

/-- A call without such a statement keeps all finished rows; one with it has to spare the row
it names. -/
theorem Effect.keeps_iff {jobs jobs' : JobTable} {f : Option Finishing}
    (h : Effect jobs f jobs') :
    Keeps jobs jobs' ↔
      ∀ f', f = some f' → ∀ row, jobs.lookup f'.id = some row → f'.spares row = true := by
  cases h with
  | same => exact ⟨by simp, fun _ => Keeps.refl jobs⟩
  | touched id updatedAt =>
    exact ⟨by simp, fun _ => Keeps.update_iff.mpr fun _ _ _ => rfl⟩
  | acquired input id row hrow haccepts =>
    refine ⟨by simp, fun _ => Keeps.update_iff.mpr ?_⟩
    intro row' hrow' hfinished
    rw [hrow] at hrow'
    cases hrow'
    rw [AcquireProvisionerJobInput.completedAt_of_accepts haccepts] at hfinished
    cases hfinished
  | finished f =>
    rw [Finishing.apply, Keeps.update_iff]
    constructor
    · rintro h f' heq row hrow
      cases heq
      by_cases hfinished : row.completedAt.isSome = true
      · exact (Finishing.outcome_set hfinished).mp (h row hrow hfinished)
      · exact Finishing.spares_of_unfinished (by simpa using hfinished)
    · intro h row hrow hfinished
      exact (Finishing.outcome_set hfinished).mpr (h f rfl row hrow)

theorem Effect.acquire (jobs : JobTable) (input : AcquireProvisionerJobInput)
    (locked : List Uuid) : Effect jobs none (jobs.acquireProvisionerJob input locked).2 := by
  obtain heq | ⟨id, row, hrow, haccepts, heq⟩ := jobs.acquireProvisionerJob_cases input locked
  · rw [heq]
    exact .same
  · rw [heq]
    exact .acquired input id row hrow haccepts

/-! ## The statement a writer is about to make -/

namespace Session

/-- The job that the session ends when it is told to, unless the store fails. -/
def ending (session : Session) (choice : StoreChoice) : Option ProvisionerJobRecord :=
  match choice.fault with
  | none => session.currentJob
  | some _ => none

def finishing (session : Session) (world : World) (choice : StoreChoice) :
    SessionEvent → Option Finishing
  | .message (.completeJob error errorCode) =>
    (session.ending choice).map fun job =>
      .complete (completeInput job world.clock error errorCode)
  | .message .cancelComplete =>
    (session.ending choice).map fun job => .cancel (cancelInput job world.clock)
  | _ => none

variable {session : Session} {world : World} {choice : StoreChoice}

theorem acquireJob_effect : Effect world.jobs none (session.acquireJob world choice).1 := by
  unfold acquireJob
  split
  · exact .same
  · split
    · exact .same
    · have heffect := Effect.acquire world.jobs (session.acquireInput world.clock) choice.locked
      split <;> rename_i heq <;> rwa [heq] at heffect

theorem heartbeatJob_effect : Effect world.jobs none (session.heartbeatJob world choice) := by
  unfold heartbeatJob
  split
  · exact .touched _ _
  · exact .same

theorem finishJob_effect (noJob : String) {update : ProvisionerJobRecord → JobTable}
    {f : ProvisionerJobRecord → Finishing}
    (hupdate : ∀ job, update job = (f job).apply world.jobs) :
    Effect world.jobs ((session.ending choice).map f)
      (session.finishJob world choice noJob update).1 := by
  cases hjob : session.currentJob with
  | none =>
    cases hfault : choice.fault <;> simp only [finishJob, ending, hjob, hfault] <;> exact .same
  | some job =>
    cases hfault : choice.fault with
    | some e =>
      simp only [finishJob, ending, hjob, hfault]
      exact .same
    | none =>
      simp only [finishJob, ending, hjob, hfault, Option.map_some, hupdate job]
      exact .finished (f job)

theorem turn_effect (event : SessionEvent) :
    Effect world.jobs (session.finishing world choice event)
      (session.turn world choice event).1 := by
  cases event with
  | heartbeatTick => exact heartbeatJob_effect
  | cancelCheckTick => exact .same
  | message message =>
    cases message with
    | acquireJob => exact acquireJob_effect
    | heartbeat => exact heartbeatJob_effect
    | jobLogs count => exact .same
    | jobTimings count => exact .same
    | completeJob error errorCode => exact finishJob_effect _ fun _ => rfl
    | cancelComplete => exact finishJob_effect _ fun _ => rfl

end Session

def RpcCall.finishing (call : RpcCall) (world : World) (choice : StoreChoice) : Option Finishing :=
  match call.phase, call.request, choice.fault with
  | .writing _, .failJob jobId error errorCode, none =>
    some (.complete (completeInput jobId world.clock error errorCode))
  | .writing _, .completeJob jobId, none =>
    some (.complete (completeInput jobId world.clock "" ""))
  | _, _, _ => none

/-- All that the next store call of a call over DRPC does to the table. -/
theorem RpcCall.advance_effect {call call' : RpcCall} {world : World} {choice : StoreChoice}
    {jobs : JobTable} (h : call.advance world choice = some (jobs, call')) :
    Effect world.jobs (call.finishing world choice) jobs := by
  obtain ⟨request, phase⟩ := call
  cases phase with
  | finished result => cases h
  | started =>
    show Effect world.jobs none jobs
    cases request with
    | acquireJob =>
      cases hfault : choice.fault with
      | some e =>
        simp only [advance, hfault] at h
        cases h
        exact .same
      | none =>
        have heffect := Effect.acquire world.jobs (acquireInput world.clock) choice.locked
        simp only [advance, hfault] at h
        split at h <;> rename_i heq <;> rw [heq] at heffect <;> cases h <;> exact heffect
    | _ =>
      cases hfault : choice.fault <;> simp only [advance, hfault] at h <;> cases h <;> exact .same
  | writing job =>
    cases request with
    | acquireJob => cases h
    | updateJob jobId =>
      cases hfault : choice.fault with
      | some e =>
        simp only [advance, hfault] at h
        cases h
        exact .same
      | none =>
        simp only [advance, hfault] at h
        cases h
        exact .touched jobId world.clock
    | failJob jobId error errorCode =>
      cases hfault : choice.fault with
      | some e =>
        simp only [advance, finishing, hfault] at h ⊢
        cases h
        exact .same
      | none =>
        simp only [advance, finishing, hfault] at h ⊢
        cases h
        exact .finished (.complete (completeInput jobId world.clock error errorCode))
    | completeJob jobId =>
      cases hfault : choice.fault with
      | some e =>
        simp only [advance, finishing, hfault] at h ⊢
        cases h
        exact .same
      | none =>
        simp only [advance, finishing, hfault] at h ⊢
        cases h
        exact .finished (.complete (completeInput jobId world.clock "" ""))

def Cancellation.finishing (cancellation : Cancellation) (choice : StoreChoice) :
    Option Finishing :=
  match cancellation.result, choice.fault with
  | none, none => some (.cancel cancellation.input)
  | _, _ => none

theorem Cancellation.cancelJob_effect {c c' : Cancellation} {world : World}
    {choice : StoreChoice} {jobs : JobTable} (h : c.cancelJob world choice = some (jobs, c')) :
    Effect world.jobs (c.finishing choice) jobs := by
  unfold cancelJob at h
  unfold finishing
  split at h
  · cases h
  · rename_i hresult hfault
    cases h
    rw [hresult, hfault]
    exact .same
  · rename_i hresult hfault
    cases h
    rw [hresult, hfault]
    exact .finished (.cancel c.input)

def Reaper.finishing (reaper : Reaper) (choice : StoreChoice) : Option Finishing :=
  match reaper.phase, choice.fault with
  | .reaping (job :: _) _, none => some (.complete (completeInput reaper.now job))
  | _, _ => none

theorem Reaper.advance_effect {r r' : Reaper} {world : World} {choice : StoreChoice}
    {jobs : JobTable} (h : r.advance world choice = some (jobs, r')) :
    Effect world.jobs (r.finishing choice) jobs := by
  obtain ⟨now, phase⟩ := r
  cases phase with
  | finished result => cases h
  | panicked => cases h
  | selecting =>
    show Effect world.jobs none jobs
    simp only [advance] at h
    split at h <;> cases h <;> exact .same
  | reaping stale reaped =>
    cases stale with
    | nil =>
      cases h
      exact .same
    | cons job stale =>
      cases hfault : choice.fault with
      | some e =>
        simp only [advance, finishing, hfault] at h ⊢
        cases h
        exact .same
      | none =>
        simp only [advance, finishing, hfault] at h ⊢
        cases h
        exact .finished (.complete (completeInput now job))

namespace Writer

def finishing (world : World) (writer : Writer) (choice : WriterChoice) : Option Finishing :=
  match writer with
  | .session s => s.finishing world choice.toStoreChoice choice.event
  | .rpc call => call.finishing world choice.toStoreChoice
  | .cancel c => c.finishing choice.toStoreChoice
  | .reaper r => r.finishing choice.toStoreChoice

theorem advance_effect {writer writer' : Writer} {world : World} {choice : WriterChoice}
    {jobs : JobTable} (h : writer.advance world choice = some (jobs, writer')) :
    Effect world.jobs (writer.finishing world choice) jobs := by
  cases writer with
  | session s =>
    cases h
    exact s.turn_effect choice.event
  | rpc call =>
    obtain ⟨⟨jobs, call'⟩, hcall, heq⟩ := Option.map_eq_some_iff.mp h
    cases heq
    exact RpcCall.advance_effect hcall
  | cancel c =>
    obtain ⟨⟨jobs, c'⟩, hcancel, heq⟩ := Option.map_eq_some_iff.mp h
    cases heq
    exact Cancellation.cancelJob_effect hcancel
  | reaper r =>
    obtain ⟨⟨jobs, r'⟩, hreap, heq⟩ := Option.map_eq_some_iff.mp h
    cases heq
    exact Reaper.advance_effect hreap

/-- A writer that has returned makes no statement. -/
theorem finishing_of_returned {writer : Writer} {world : World} {choice : WriterChoice}
    (h : writer.advance world choice = none) : writer.finishing world choice = none := by
  cases writer with
  | session s => cases h
  | rpc call =>
    have hcall := Option.map_eq_none_iff.mp h
    show call.finishing world choice.toStoreChoice = none
    unfold RpcCall.finishing
    split
    · rename_i hphase hrequest hfault
      simp [RpcCall.advance, hphase, hrequest, hfault] at hcall
    · rename_i hphase hrequest hfault
      simp [RpcCall.advance, hphase, hrequest, hfault] at hcall
    · rfl
  | cancel c =>
    have hcancel := Option.map_eq_none_iff.mp h
    show c.finishing choice.toStoreChoice = none
    unfold Cancellation.finishing
    split
    · rename_i hresult hfault
      simp [Cancellation.cancelJob, hresult, hfault] at hcancel
    · rfl
  | reaper r =>
    have hreap := Option.map_eq_none_iff.mp h
    show r.finishing choice.toStoreChoice = none
    unfold Reaper.finishing
    split
    · rename_i hphase hfault
      simp [Reaper.advance, hphase, hfault] at hreap
    · rfl

end Writer

/-! ## Every run -/

/-- The statement that finishes or cancels a job, if the step makes one, spares the row it
names. -/
def undisturbed (w : Pool World Writer) : Move WriterOp WriterChoice TableEvent → Bool
  | .run i choice =>
    match (w.tasks[i]?).bind fun writer => writer.finishing w.shared choice with
    | none => true
    | some f =>
      match w.shared.jobs.lookup f.id with
      | none => true
      | some row => f.spares row
  | _ => true

theorem undisturbed_run {w : Pool World Writer} {i : Nat} {choice : WriterChoice}
    {writer : Writer} (htask : w.tasks[i]? = some writer) :
    undisturbed w (.run i choice) = true ↔
      ∀ f, writer.finishing w.shared choice = some f →
        ∀ row, w.shared.jobs.lookup f.id = some row → f.spares row = true := by
  simp only [undisturbed, htask, Option.bind_some]
  cases hf : writer.finishing w.shared choice with
  | none => simp
  | some f =>
    cases hrow : w.shared.jobs.lookup f.id with
    | none => simp [hrow]
    | some row => simp [hrow]

theorem keeps_step_iff (w : Pool World Writer) (move : Move WriterOp WriterChoice TableEvent) :
    Keeps w.shared.jobs (writers.step w move).shared.jobs ↔ undisturbed w move = true := by
  cases move with
  | spawn op => exact iff_of_true (Keeps.refl _) rfl
  | outside event =>
    cases event with
    | insertJob input => exact iff_of_true (Keeps.insert _ input) rfl
    | setClock time => exact iff_of_true (Keeps.refl _) rfl
  | run i choice =>
    cases htask : w.tasks[i]? with
    | none =>
      simp only [Program.step, undisturbed, htask, Option.bind_none]
      exact iff_of_true (Keeps.refl _) trivial
    | some writer =>
      rw [undisturbed_run htask]
      cases hadvance : writer.advance w.shared choice with
      | none =>
        rw [Writer.finishing_of_returned hadvance]
        simp only [Program.step, writers, htask, hadvance, Option.map_none]
        exact iff_of_true (Keeps.refl _) (by simp)
      | some next =>
        obtain ⟨jobs, writer'⟩ := next
        simp only [Program.step, writers, htask, hadvance, Option.map_some]
        exact (Writer.advance_effect hadvance).keeps_iff

theorem keeps_of_undisturbed {w : Pool World Writer}
    {moves : List (Move WriterOp WriterChoice TableEvent)}
    (h : Along writers.step (fun w move => undisturbed w move = true) w moves) :
    Keeps w.shared.jobs (writers.run w moves).shared.jobs := by
  induction moves generalizing w with
  | nil => exact Keeps.refl _
  | cons move moves ih => exact ((keeps_step_iff w move).mpr h.1).trans (ih h.2)

theorem staysFinished_of_undisturbed {world : World}
    {moves : List (Move WriterOp WriterChoice TableEvent)}
    (h : Along writers.step (fun w move => undisturbed w move = true) (idle world) moves) :
    StaysFinished world moves := by
  rintro before after rest rfl
  obtain ⟨-, hrest⟩ := (along_append _ _ _).mp h
  obtain ⟨hafter, -⟩ := (along_append _ _ _).mp hrest
  have hkeeps : Keeps _ (writers.run (writers.run (idle world) before) after).shared.jobs :=
    keeps_of_undisturbed hafter
  rwa [Program.run_append]

/-- The finished jobs of a run stay as they are exactly when every statement that finishes or
cancels a job comes to a row that is not finished, or that already says the same. -/
theorem staysFinished_iff (world : World)
    (moves : List (Move WriterOp WriterChoice TableEvent)) :
    StaysFinished world moves ↔
      Along writers.step (fun w move => undisturbed w move = true) (idle world) moves := by
  constructor
  · intro h
    rw [along_iff]
    intro before move rest hsplit
    rw [← keeps_step_iff]
    have hkeeps := h before [move] rest hsplit
    simpa [Program.run] using hkeeps
  · exact staysFinished_of_undisturbed

/-! ## A job that the reaper failed and the daemon completes -/

/-- One job waits for a daemon of its organization. -/
def queuedWorld : World where
  jobs := (∅ : JobTable).insertProvisionerJob
    { id := ⟨7⟩
      createdAt := .unixEpoch
      organizationId := ⟨1⟩
      provisioner := .terraform
      tags := untagged }
  clock := .unixEpoch

def halfMinuteLater : OffsetDateTime := ⟨31 * 10 ^ 9, by decide, by decide⟩

/-- A daemon takes the job and is silent for 31 seconds, and the reaper fails it. -/
def reapedWhileRunning : List (Move WriterOp WriterChoice TableEvent) :=
  [.spawn (.session ⟨9⟩
      { provisioners := ["terraform"], tags := untagged, organizationId := ⟨1⟩ }),
    .run 0 { event := .message .acquireJob },
    .outside (.setClock halfMinuteLater),
    .spawn (.reap halfMinuteLater),
    .run 1 { order := [⟨7⟩] },
    .run 1 {}]

/-- The daemon then says that the job is done, and a failed job becomes one that succeeded. -/
theorem not_staysFinished_reapedWhileRunning :
    ¬ StaysFinished queuedWorld
      (reapedWhileRunning ++ [.run 0 { event := .message (.completeJob "" "") }]) := by
  intro h
  obtain ⟨row, hrow, houtcome⟩ := h reapedWhileRunning
    [.run 0 { event := .message (.completeJob "" "") }] [] rfl ⟨7⟩
    { createdAt := .unixEpoch
      updatedAt := halfMinuteLater
      startedAt := some .unixEpoch
      canceledAt := none
      completedAt := some halfMinuteLater
      error := "Coder: Build has been detected as hung for 0 minutes and has been " ++
        "terminated by the reaper."
      errorCode := ""
      organizationId := ⟨1⟩
      provisioner := .terraform
      tags := untagged
      workerId := some ⟨9⟩ } rfl rfl
  have hsucceeded : (writers.run (idle queuedWorld) (reapedWhileRunning ++
      [.run 0 { event := .message (.completeJob "" "") }])).shared.jobs.lookup ⟨7⟩ =
        some
          { createdAt := .unixEpoch
            updatedAt := halfMinuteLater
            startedAt := some .unixEpoch
            canceledAt := none
            completedAt := some halfMinuteLater
            error := ""
            errorCode := ""
            organizationId := ⟨1⟩
            provisioner := .terraform
            tags := untagged
            workerId := some ⟨9⟩ } := rfl
  rw [hsucceeded] at hrow
  cases hrow
  have hstatus := congrArg Outcome.jobStatus houtcome
  exact absurd hstatus (by decide)

end Coderd.Provisioner
