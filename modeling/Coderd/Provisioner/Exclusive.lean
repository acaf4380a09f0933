import Mathlib.Data.List.Dedup
import Coderd.Provisioner.Finished

namespace Coderd.Provisioner

open Coderd.Foundation
open Coderd.CryptoKeys (OffsetDateTime)

/-! ## Jobs that a writer has looked at -/

def Unfinished (jobs : JobTable) (id : Uuid) : Prop :=
  ∀ row, jobs.lookup id = some row → row.completedAt = none

def Session.holds (session : Session) : List Uuid := (session.currentJob.map (·.id)).toList

def RpcCall.holds (call : RpcCall) : List Uuid :=
  match call.phase, call.request with
  | .writing _, .failJob jobId _ _ => [jobId]
  | .writing _, .completeJob jobId => [jobId]
  | _, _ => []

def Reaper.holds (reaper : Reaper) : List Uuid :=
  match reaper.phase with
  | .reaping stale _ => stale.map (·.id)
  | _ => []

/-- The jobs that a writer found unfinished and may still finish. -/
def Writer.holds : Writer → List Uuid
  | .session s => s.holds
  | .rpc call => call.holds
  | .cancel _ => []
  | .reaper r => r.holds

/-- Whether the statement sets `completed_at`. -/
def Finishing.ends : Finishing → Bool
  | complete _ => true
  | cancel input => input.completedAt.isSome

/-- Nobody else has looked at a job that is about to be finished, and a request to cancel is
made for a job that is not. -/
def exclusive (w : Pool World Writer) : Move WriterOp WriterChoice TableEvent → Bool
  | .run i choice =>
    match w.tasks[i]? with
    | none => true
    | some writer =>
      match writer.finishing w.shared choice with
      | none => true
      | some f =>
        (!f.ends || (w.others i).all fun other => !other.holds.contains f.id) &&
          (writer.holds.contains f.id ||
            (w.shared.jobs.lookup f.id).all fun row => row.completedAt.isNone)
  | _ => true

/-- All jobs that are held are unfinished, and no writer holds one twice. -/
structure Held (w : Pool World Writer) : Prop where
  unfinished : ∀ (i : Nat) (writer : Writer), w.tasks[i]? = some writer →
    ∀ id ∈ writer.holds, Unfinished w.shared.jobs id
  distinct : ∀ (i : Nat) (writer : Writer), w.tasks[i]? = some writer → writer.holds.Nodup

/-! ## One step of a writer -/

theorem Unfinished.update {jobs : JobTable} {id id' : Uuid}
    {set : ProvisionerJobRow → ProvisionerJobRow} (h : Unfinished jobs id')
    (hset : id' = id → ∀ row, row.completedAt = none → (set row).completedAt = none) :
    Unfinished (jobs.update id set) id' := by
  intro row hrow
  rw [JobTable.lookup_update] at hrow
  by_cases hid : id' = id
  · rw [if_pos hid] at hrow
    obtain ⟨before, hbefore, rfl⟩ := Option.map_eq_some_iff.mp hrow
    exact hset hid before (h before (hid ▸ hbefore))
  · rw [if_neg hid] at hrow
    exact h row hrow

theorem Unfinished.insert {jobs : JobTable} {id : Uuid} (h : Unfinished jobs id)
    (input : InsertProvisionerJobInput) : Unfinished (jobs.insertProvisionerJob input) id := by
  unfold JobTable.insertProvisionerJob
  split
  · exact h
  · intro row hrow
    rw [HashMap.lookup_insert_ite] at hrow
    split at hrow
    · cases hrow
      rfl
    · exact h row hrow

/-- Only a statement that sets `completed_at` of the job finishes it. -/
theorem Effect.unfinished {jobs jobs' : JobTable} {f : Option Finishing} {id : Uuid}
    (heffect : Effect jobs f jobs') (h : Unfinished jobs id)
    (hother : ∀ f', f = some f' → f'.ends = true → f'.id ≠ id) : Unfinished jobs' id := by
  cases heffect with
  | same => exact h
  | touched id' updatedAt => exact h.update fun _ _ hrow => hrow
  | acquired input id' row hrow haccepts => exact h.update fun _ _ hrow => hrow
  | finished f =>
    refine h.update fun hid row hrow => ?_
    cases f with
    | complete input => exact absurd hid.symm (hother _ rfl rfl)
    | cancel input =>
      cases hcompleted : input.completedAt with
      | none => simp [Finishing.set, CancelProvisionerJobInput.set, hcompleted, hrow]
      | some time =>
        exact absurd hid.symm (hother _ rfl (by simp [Finishing.ends, hcompleted]))

/-- What a writer holds after a step: it held it before or has just found it unfinished, and it
is not the job that the step finished. -/
def Holding (before : List Uuid) (jobs : JobTable) (f : Option Finishing) (after : List Uuid) :
    Prop :=
  after.Nodup ∧ ∀ id ∈ after, (id ∈ before ∨ Unfinished jobs id) ∧ ∀ f', f = some f' → f'.id ≠ id

namespace Holding

variable {jobs : JobTable} {before after : List Uuid} {f : Option Finishing}

theorem nil : Holding before jobs f [] := ⟨.nil, by simp⟩

theorem keep (h : before.Nodup) : Holding before jobs none before :=
  ⟨h, fun _ hid => ⟨.inl hid, by simp⟩⟩

theorem found {id : Uuid} (h : Unfinished jobs id) : Holding before jobs none [id] := by
  refine ⟨List.nodup_singleton id, fun id' hid => ⟨.inr ?_, by simp⟩⟩
  rwa [List.mem_singleton.mp hid]

end Holding

namespace Session

variable {session : Session} {world : World} {choice : StoreChoice}

theorem nodup_holds (session : Session) : session.holds.Nodup := by
  unfold holds
  cases session.currentJob with
  | none => exact .nil
  | some job => exact List.nodup_singleton job.id

theorem acquireJob_holding :
    Holding session.holds world.jobs none (session.acquireJob world choice).2.holds := by
  have hkeep : Holding session.holds world.jobs none session.holds := .keep session.nodup_holds
  unfold acquireJob
  split
  · exact hkeep
  · split
    · exact hkeep
    · obtain heq | ⟨id, row, hrow, haccepts, heq⟩ :=
        world.jobs.acquireProvisionerJob_cases (session.acquireInput world.clock) choice.locked
      · rw [heq]
        exact hkeep
      · rw [heq]
        refine Holding.found fun row' hrow' => ?_
        rw [hrow] at hrow'
        cases hrow'
        exact AcquireProvisionerJobInput.completedAt_of_accepts haccepts

theorem finishJob_holding (noJob : String) (update : ProvisionerJobRecord → JobTable)
    (f : ProvisionerJobRecord → Finishing) :
    Holding session.holds world.jobs ((session.ending choice).map f)
      (session.finishJob world choice noJob update).2.holds := by
  have hkeep : Holding session.holds world.jobs none session.holds := .keep session.nodup_holds
  cases hjob : session.currentJob with
  | none =>
    cases hfault : choice.fault <;> simp only [finishJob, ending, hjob, hfault] <;> exact hkeep
  | some job =>
    cases hfault : choice.fault with
    | some e =>
      simp only [finishJob, ending, hjob, hfault]
      exact hkeep
    | none =>
      simp only [finishJob, ending, hjob, hfault]
      exact .nil

theorem report_holds (noJob : String) (accepted : ServerMessage) :
    (session.report choice noJob accepted).holds = session.holds := by
  unfold report
  split <;> rfl

theorem checkCancel_holding :
    Holding session.holds world.jobs none (session.checkCancel world choice).holds := by
  have hkeep : Holding session.holds world.jobs none session.holds := .keep session.nodup_holds
  unfold checkCancel
  split
  · split
    · split
      · exact hkeep
      · exact hkeep
    · exact .nil
  · exact hkeep

theorem turn_holding (event : SessionEvent) :
    Holding session.holds world.jobs (session.finishing world choice event)
      (session.turn world choice event).2.holds := by
  have hkeep : Holding session.holds world.jobs none session.holds := .keep session.nodup_holds
  cases event with
  | heartbeatTick => exact hkeep
  | cancelCheckTick => exact checkCancel_holding
  | message message =>
    cases message with
    | acquireJob => exact acquireJob_holding
    | heartbeat => exact hkeep
    | jobLogs count =>
      show Holding _ _ none (session.report choice _ _).holds
      rwa [report_holds]
    | jobTimings count =>
      show Holding _ _ none (session.report choice _ _).holds
      rwa [report_holds]
    | completeJob error errorCode => exact finishJob_holding _ _ _
    | cancelComplete => exact finishJob_holding _ _ _

end Session

/-- The check that both calls make when they read the row. -/
theorem RpcCall.look_holding {call : RpcCall} {jobs : JobTable} {jobId : Uuid}
    (hrequest : (∃ error errorCode, call.request = .failJob jobId error errorCode) ∨
      call.request = .completeJob jobId) (before : List Uuid) :
    Holding before jobs none (call.look jobs jobId true).holds := by
  unfold look
  split
  · exact .nil
  · rename_i job hjob
    split
    · exact .nil
    · split
      · exact .nil
      · rename_i hunfinished
        have hfound : Unfinished jobs jobId := by
          intro row hrow
          obtain ⟨-, hlookup⟩ := JobTable.getProvisionerJobById_eq_some hjob
          rw [hlookup] at hrow
          cases hrow
          simpa using hunfinished
        obtain ⟨error, errorCode, hrequest⟩ | hrequest := hrequest
        · simp only [holds, hrequest]
          exact .found hfound
        · simp only [holds, hrequest]
          exact .found hfound

theorem RpcCall.advance_holding {call call' : RpcCall} {world : World} {choice : StoreChoice}
    {jobs : JobTable} (h : call.advance world choice = some (jobs, call')) :
    Holding call.holds world.jobs (call.finishing world choice) call'.holds := by
  obtain ⟨request, phase⟩ := call
  cases phase with
  | finished result => cases h
  | started =>
    show Holding _ _ none _
    cases request with
    | acquireJob =>
      cases hfault : choice.fault with
      | some e =>
        simp only [advance, hfault] at h
        cases h
        exact .nil
      | none =>
        simp only [advance, hfault] at h
        split at h <;> cases h <;> exact .nil
    | updateJob jobId =>
      cases hfault : choice.fault with
      | some e =>
        simp only [advance, hfault] at h
        cases h
        exact .nil
      | none =>
        simp only [advance, hfault, look] at h
        cases h
        split
        · exact .nil
        · split
          · exact .nil
          · split <;> exact .nil
    | failJob jobId error errorCode =>
      cases hfault : choice.fault with
      | some e =>
        simp only [advance, hfault] at h
        cases h
        exact .nil
      | none =>
        simp only [advance, hfault] at h
        cases h
        exact look_holding (.inl ⟨error, errorCode, rfl⟩) _
    | completeJob jobId =>
      cases hfault : choice.fault with
      | some e =>
        simp only [advance, hfault] at h
        cases h
        exact .nil
      | none =>
        simp only [advance, hfault] at h
        cases h
        exact look_holding (.inr rfl) _
  | writing job =>
    -- a call that has written has returned
    have hreturned : call'.holds = [] := by
      cases request <;> cases hfault : choice.fault <;> simp only [advance, hfault] at h <;>
        cases h <;> rfl
    rw [hreturned]
    exact .nil

/-- The ids of the rows that come back are those that were asked for. -/
theorem JobTable.nodup_jobsToBeReaped (jobs : JobTable) (input : GetJobsToBeReapedInput)
    (order : List Uuid) :
    ((jobs.getProvisionerJobsToBeReaped input order).map (·.id)).Nodup := by
  have hids : ∀ ids : List Uuid,
      ((ids.filterMap jobs.getProvisionerJobById).map (·.id)).Sublist ids := by
    intro ids
    induction ids with
    | nil => exact .slnil
    | cons id ids ih =>
      cases hjob : jobs.getProvisionerJobById id with
      | none =>
        rw [List.filterMap_cons_none hjob]
        exact ih.cons id
      | some job =>
        rw [List.filterMap_cons_some hjob, List.map_cons,
          (JobTable.getProvisionerJobById_eq_some hjob).1]
        exact ih.cons_cons id
  have hsub : (jobs.getProvisionerJobsToBeReaped input order).Sublist
      (order.dedup.filterMap jobs.getProvisionerJobById) :=
    (List.take_sublist _ _).trans List.filter_sublist
  exact ((hsub.map _).trans (hids _)).nodup (List.nodup_dedup order)

theorem GetJobsToBeReapedInput.completedAt_of_isStale {input : GetJobsToBeReapedInput}
    {row : ProvisionerJobRow} (h : input.isStale row = true) : row.completedAt = none := by
  simp only [isStale, Bool.or_eq_true, Bool.and_eq_true, Option.isNone_iff_eq_none] at h
  obtain ⟨-, hnone⟩ | ⟨-, hnone⟩ := h <;> exact hnone

theorem Reaper.advance_holding {r r' : Reaper} {world : World} {choice : StoreChoice}
    {jobs : JobTable} (h : r.advance world choice = some (jobs, r')) (hnodup : r.holds.Nodup) :
    Holding r.holds world.jobs (r.finishing choice) r'.holds := by
  obtain ⟨now, phase⟩ := r
  cases phase with
  | finished result => cases h
  | panicked => cases h
  | selecting =>
    show Holding _ _ none _
    simp only [advance] at h
    split at h
    · cases h
      exact .nil
    · cases h
      exact .nil
    · cases h
      refine ⟨JobTable.nodup_jobsToBeReaped _ _ _, fun id hid => ⟨.inr ?_, by simp⟩⟩
      obtain ⟨job, hjob, rfl⟩ := List.mem_map.mp hid
      obtain ⟨hlookup, hstale⟩ := JobTable.mem_getProvisionerJobsToBeReaped hjob
      intro row hrow
      rw [hlookup] at hrow
      cases hrow
      exact GetJobsToBeReapedInput.completedAt_of_isStale hstale
  | reaping stale reaped =>
    cases stale with
    | nil =>
      cases h
      exact .nil
    | cons job stale =>
      obtain ⟨hnew, hrest⟩ := List.nodup_cons.mp hnodup
      have hmem : ∀ id ∈ stale.map (·.id), id ∈ (job :: stale).map (·.id) :=
        fun id hid => List.mem_cons_of_mem _ hid
      cases hfault : choice.fault with
      | some e =>
        simp only [advance, finishing, hfault] at h ⊢
        cases h
        exact ⟨hrest, fun id hid => ⟨.inl (hmem id hid), by simp⟩⟩
      | none =>
        simp only [advance, finishing, hfault] at h ⊢
        cases h
        refine ⟨hrest, fun id hid => ⟨.inl (hmem id hid), ?_⟩⟩
        rintro f' heq rfl
        cases heq
        exact hnew hid

theorem Writer.advance_holding {writer writer' : Writer} {world : World} {choice : WriterChoice}
    {jobs : JobTable} (h : writer.advance world choice = some (jobs, writer'))
    (hnodup : writer.holds.Nodup) :
    Holding writer.holds world.jobs (writer.finishing world choice) writer'.holds := by
  cases writer with
  | session s =>
    cases h
    exact s.turn_holding choice.event
  | rpc call =>
    obtain ⟨⟨jobs, call'⟩, hcall, heq⟩ := Option.map_eq_some_iff.mp h
    cases heq
    exact RpcCall.advance_holding hcall
  | cancel c =>
    obtain ⟨⟨jobs, c'⟩, -, heq⟩ := Option.map_eq_some_iff.mp h
    cases heq
    exact .nil
  | reaper r =>
    obtain ⟨⟨jobs, r'⟩, hreap, heq⟩ := Option.map_eq_some_iff.mp h
    cases heq
    exact Reaper.advance_holding hreap hnodup

/-! ## Every run -/

variable {w : Pool World Writer}

/-- The two halves of the condition, for a step that finishes or cancels a job. -/
theorem exclusive_run {i : Nat} {choice : WriterChoice} {writer : Writer} {f : Finishing}
    (htask : w.tasks[i]? = some writer) (hf : writer.finishing w.shared choice = some f)
    (h : exclusive w (.run i choice) = true) :
    (f.ends = true → ∀ other ∈ w.others i, f.id ∉ other.holds) ∧
      (f.id ∈ writer.holds ∨ Unfinished w.shared.jobs f.id) := by
  simp only [exclusive, htask, hf, Bool.and_eq_true, Bool.or_eq_true] at h
  obtain ⟨hothers, hrow⟩ := h
  constructor
  · intro hends other hother
    rw [hends] at hothers
    have hall := List.all_eq_true.mp (hothers.resolve_left (by simp)) other hother
    simpa using hall
  · obtain hheld | hnone := hrow
    · exact .inl (by simpa using hheld)
    · refine .inr fun row hlookup => ?_
      rw [hlookup] at hnone
      simpa using hnone

/-- A job that is held, or that is found unfinished, may be finished. -/
theorem Held.undisturbed (h : Held w) {move : Move WriterOp WriterChoice TableEvent}
    (hok : exclusive w move = true) : undisturbed w move = true := by
  cases move with
  | spawn op => rfl
  | outside event => rfl
  | run i choice =>
    cases htask : w.tasks[i]? with
    | none => simp [Provisioner.undisturbed, htask]
    | some writer =>
      rw [undisturbed_run htask]
      intro f hf row hrow
      have hunfinished : Unfinished w.shared.jobs f.id := by
        obtain ⟨-, hheld | hunfinished⟩ := exclusive_run htask hf hok
        · exact h.unfinished i writer htask f.id hheld
        · exact hunfinished
      exact Finishing.spares_of_unfinished (by rw [hunfinished row hrow]; rfl)

theorem Held.run (h : Held w) {i : Nat} {choice : WriterChoice} {writer writer' : Writer}
    {jobs : JobTable} (hok : exclusive w (.run i choice) = true)
    (htask : w.tasks[i]? = some writer)
    (hadvance : writer.advance w.shared choice = some (jobs, writer')) :
    Held { shared := { w.shared with jobs }, tasks := w.tasks.set i writer' } := by
  have heffect := Writer.advance_effect hadvance
  obtain ⟨hnodup, hholds⟩ := Writer.advance_holding hadvance (h.distinct i writer htask)
  constructor
  · intro j other hother id hid
    obtain ⟨-, rfl⟩ | ⟨hj, hbefore⟩ := Pool.getElem?_set_cases hother
    · obtain ⟨hheld, hfinished⟩ := hholds id hid
      refine heffect.unfinished ?_ fun f hf _ => hfinished f hf
      obtain hheld | hfound := hheld
      · exact h.unfinished i writer htask id hheld
      · exact hfound
    · refine heffect.unfinished (h.unfinished j other hbefore id hid) fun f hf hends => ?_
      rintro rfl
      obtain ⟨hothers, -⟩ := exclusive_run htask hf hok
      exact hothers hends other (Pool.mem_others.mpr ⟨j, hj, hbefore⟩) hid
  · intro j other hother
    obtain ⟨-, rfl⟩ | ⟨-, hbefore⟩ := Pool.getElem?_set_cases hother
    · exact hnodup
    · exact h.distinct j other hbefore

theorem holds_enter (op : WriterOp) : (Writer.enter op).holds = [] := by
  cases op <;> rfl

theorem Held.step (h : Held w) {move : Move WriterOp WriterChoice TableEvent}
    (hok : exclusive w move = true) : Held (writers.step w move) := by
  have hsteps := writers.steps_step w move
  generalize writers.step w move = w' at hsteps
  cases hsteps with
  | idle => exact h
  | spawn op =>
    have hcases : ∀ (j : Nat) (other : Writer), (w.tasks ++ [Writer.enter op])[j]? = some other →
        w.tasks[j]? = some other ∨ other.holds = [] := by
      intro j other hother
      by_cases hj : j < w.tasks.length
      · exact .inl (by rwa [List.getElem?_append_left hj] at hother)
      · rw [List.getElem?_append_right (Nat.le_of_not_lt hj)] at hother
        rw [List.mem_singleton.mp (List.mem_of_getElem? hother)]
        exact .inr (holds_enter op)
    constructor
    · intro j other hother id hid
      obtain hbefore | hnil := hcases j other hother
      · exact h.unfinished j other hbefore id hid
      · simp [hnil] at hid
    · intro j other hother
      obtain hbefore | hnil := hcases j other hother
      · exact h.distinct j other hbefore
      · rw [hnil]
        exact .nil
  | outside event =>
    cases event with
    | insertJob input =>
      exact ⟨fun j other hother id hid => (h.unfinished j other hother id hid).insert input,
        h.distinct⟩
    | setClock time => exact ⟨h.unfinished, h.distinct⟩
  | run htask hadvance =>
    obtain ⟨⟨jobs, writer'⟩, hwriter, heq⟩ := Option.map_eq_some_iff.mp hadvance
    cases heq
    exact h.run hok htask hwriter

theorem undisturbed_of_exclusive (h : Held w)
    {moves : List (Move WriterOp WriterChoice TableEvent)}
    (hrun : Along writers.step (fun w move => exclusive w move = true) w moves) :
    Along writers.step (fun w move => undisturbed w move = true) w moves := by
  induction moves generalizing w with
  | nil => trivial
  | cons move moves ih => exact ⟨h.undisturbed hrun.1, ih (h.step hrun.1) hrun.2⟩

/-- The checks that the writers make are enough as long as no two of them are at one job. -/
theorem staysFinished_of_exclusive (world : World)
    (moves : List (Move WriterOp WriterChoice TableEvent))
    (hrun : Along writers.step (fun w move => exclusive w move = true) (idle world) moves) :
    StaysFinished world moves := by
  have hheld : Held (idle world) := ⟨by simp [idle], by simp [idle]⟩
  exact staysFinished_of_undisturbed (undisturbed_of_exclusive hheld hrun)

/-- A daemon that has its job to itself: it is asked to cancel it while it runs, and does. -/
example : Along writers.step (fun w move => exclusive w move = true) (idle queuedWorld)
    [.spawn (.session ⟨9⟩
        { provisioners := ["terraform"], tags := untagged, organizationId := ⟨1⟩ }),
      .run 0 { event := .message .acquireJob },
      .spawn (.cancelJob { id := ⟨7⟩, canceledAt := halfMinuteLater, completedAt := none }),
      .run 1 {},
      .run 0 { event := .message .cancelComplete }] := by
  decide +kernel

end Coderd.Provisioner
