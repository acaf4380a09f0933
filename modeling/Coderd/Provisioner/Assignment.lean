import Mathlib.Data.List.Induction
import Coderd.Provisioner.Finished

namespace Coderd.Provisioner

open Coderd.Foundation
open Coderd.CryptoKeys (OffsetDateTime)

/-! ## Jobs that are handed out -/

def ServerMessage.assignment : ServerMessage → Option JobInfo
  | jobAssigned job => some job
  | _ => none

/-- The jobs that a session has given to its daemon, in the order of the messages. -/
def Session.assignments (session : Session) : List JobInfo :=
  session.outgoing.filterMap (·.assignment)

/-- The job in the response to an acquisition over DRPC. -/
def RpcCall.handedOut (call : RpcCall) : List Uuid :=
  match call.phase with
  | .finished (.ok (.acquiredJob job)) => (Uuid.parse job.jobId).toList
  | _ => []

def Writer.handedOut : Writer → List Uuid
  | .session s => s.assignments.map (·.id)
  | .rpc call => call.handedOut
  | _ => []

def handedOut (w : Pool World Writer) : List Uuid := w.tasks.flatMap (·.handedOut)

/-- A job that a daemon may work on. -/
structure DaemonRegistration.Entitled (registration : DaemonRegistration)
    (row : ProvisionerJobRow) : Prop where
  canceledAt : row.canceledAt = none
  completedAt : row.completedAt = none
  organizationId : row.organizationId = registration.organizationId
  provisioner : row.provisioner.asStr ∈ registration.provisioners
  tags : tagsMatch row.tags registration.tags = true

/-- The move makes the session send its `k`-th assignment, of a job that its daemon may work
on at that moment. -/
def Sends (w : Pool World Writer) (move : Move WriterOp WriterChoice TableEvent) (i k : Nat)
    (registration : DaemonRegistration) (job : JobInfo) : Prop :=
  ∃ session session' row, w.tasks[i]? = some (.session session) ∧
    (writers.step w move).tasks[i]? = some (.session session') ∧
    session.registration = registration ∧ session.assignments.length = k ∧
    session'.assignments = session.assignments ++ [job] ∧
    w.shared.jobs.lookup job.id = some row ∧ registration.Entitled row

/-- The session was given the job, and it is not finished. -/
def Session.WorksOn (session : Session) (jobs : JobTable) (id : Uuid) : Prop :=
  id ∈ session.assignments.map (·.id) ∧
    ∃ row, jobs.lookup id = some row ∧ row.completedAt = none

structure HandsOutOnce (world : World)
    (moves : List (Move WriterOp WriterChoice TableEvent)) : Prop where
  once : (handedOut (writers.run (idle world) moves)).Nodup
  entitled : ∀ (i k : Nat) (session : Session) (job : JobInfo),
    (writers.run (idle world) moves).tasks[i]? = some (.session session) →
      session.assignments[k]? = some job →
        ∃ before move rest, moves = before ++ move :: rest ∧
          Sends (writers.run (idle world) before) move i k session.registration job
  single : ∀ (i : Nat) (session : Session) (id id' : Uuid),
    (writers.run (idle world) moves).tasks[i]? = some (.session session) →
      session.WorksOn (writers.run (idle world) moves).shared.jobs id →
        session.WorksOn (writers.run (idle world) moves).shared.jobs id' → id = id'

/-! ## What stays in the table -/

def Started (jobs : JobTable) (id : Uuid) : Prop :=
  ∃ row, jobs.lookup id = some row ∧ row.startedAt.isSome = true

def Finished (jobs : JobTable) (id : Uuid) : Prop :=
  ∃ row, jobs.lookup id = some row ∧ row.completedAt.isSome = true

/-- The rows are still there, and neither `started_at` nor `completed_at` is taken back. -/
def Grows (jobs jobs' : JobTable) : Prop :=
  ∀ id row, jobs.lookup id = some row → ∃ row', jobs'.lookup id = some row' ∧
    (row.startedAt.isSome = true → row'.startedAt.isSome = true) ∧
    (row.completedAt.isSome = true → row'.completedAt.isSome = true)

namespace Grows

variable {jobs jobs' : JobTable} {id : Uuid}

theorem refl (jobs : JobTable) : Grows jobs jobs :=
  fun _ row hrow => ⟨row, hrow, fun h => h, fun h => h⟩

theorem update (jobs : JobTable) (id : Uuid) {set : ProvisionerJobRow → ProvisionerJobRow}
    (hstarted : ∀ row, row.startedAt.isSome = true → (set row).startedAt.isSome = true)
    (hcompleted : ∀ row, row.completedAt.isSome = true → (set row).completedAt.isSome = true) :
    Grows jobs (jobs.update id set) := by
  intro id' row hrow
  by_cases hid : id' = id
  · refine ⟨set row, ?_, hstarted row, hcompleted row⟩
    rw [JobTable.lookup_update, if_pos hid, ← hid, hrow]
    rfl
  · refine ⟨row, ?_, fun h => h, fun h => h⟩
    rw [JobTable.lookup_update, if_neg hid, hrow]

theorem insert (jobs : JobTable) (input : InsertProvisionerJobInput) :
    Grows jobs (jobs.insertProvisionerJob input) := by
  intro id row hrow
  exact ⟨row, JobTable.lookup_insertProvisionerJob hrow input, fun h => h, fun h => h⟩

theorem started (h : Grows jobs jobs') (hid : Started jobs id) : Started jobs' id := by
  obtain ⟨row, hrow, hstarted⟩ := hid
  obtain ⟨row', hrow', hkeeps, -⟩ := h id row hrow
  exact ⟨row', hrow', hkeeps hstarted⟩

theorem finished (h : Grows jobs jobs') (hid : Finished jobs id) : Finished jobs' id := by
  obtain ⟨row, hrow, hfinished⟩ := hid
  obtain ⟨row', hrow', -, hkeeps⟩ := h id row hrow
  exact ⟨row', hrow', hkeeps hfinished⟩

end Grows

theorem Effect.grows {jobs jobs' : JobTable} {f : Option Finishing} (h : Effect jobs f jobs') :
    Grows jobs jobs' := by
  cases h with
  | same => exact .refl jobs
  | touched id updatedAt => exact .update jobs id (fun _ h => h) fun _ h => h
  | acquired input id row hrow haccepts => exact .update jobs id (fun _ _ => rfl) fun _ h => h
  | finished f =>
    refine .update jobs f.id ?_ ?_
    · intro row hstarted
      cases f <;> exact hstarted
    · intro row hcompleted
      cases f with
      | complete input => rfl
      | cancel input =>
        cases hinput : input.completedAt <;>
          simp [Finishing.set, CancelProvisionerJobInput.set, hinput, hcompleted]

theorem AcquireProvisionerJobInput.startedAt_of_accepts {input : AcquireProvisionerJobInput}
    {row : ProvisionerJobRow} (h : input.accepts row = true) : row.startedAt = none := by
  simp only [accepts, Bool.and_eq_true, Option.isNone_iff_eq_none] at h
  exact h.1.1.1.1.1

theorem started_acquired {jobs : JobTable} {id : Uuid} {row : ProvisionerJobRow}
    (hrow : jobs.lookup id = some row) (input : AcquireProvisionerJobInput) :
    Started (jobs.update id input.set) id :=
  ⟨input.set row, by rw [JobTable.lookup_update, if_pos rfl, hrow]; rfl, rfl⟩

theorem mem_provisionerTypes {registration : DaemonRegistration} {type : ProvisionerType}
    (h : type ∈ registration.provisionerTypes) : type.asStr ∈ registration.provisioners := by
  obtain ⟨name, hname, htype⟩ := List.mem_filterMap.mp h
  split at htype <;> cases htype <;> exact hname

theorem Session.entitled_of_accepts {session : Session} {now : OffsetDateTime}
    {row : ProvisionerJobRow} (h : (session.acquireInput now).accepts row = true) :
    session.registration.Entitled row := by
  simp only [AcquireProvisionerJobInput.accepts, Bool.and_eq_true, Option.isNone_iff_eq_none,
    decide_eq_true_eq, List.contains_iff_mem] at h
  obtain ⟨⟨⟨⟨⟨-, hcompleted⟩, hcanceled⟩, horganization⟩, htype⟩, htags⟩ := h
  exact
    { canceledAt := hcanceled
      completedAt := hcompleted
      organizationId := horganization
      provisioner := mem_provisionerTypes htype
      tags := htags }

/-! ## One turn of a session -/

/-- All that a turn does to the jobs of its session. -/
inductive Session.Turn (world : World) (session : Session) (jobs' : JobTable)
    (session' : Session) : Prop where
  | same (hassignments : session'.assignments = session.assignments)
      (hcurrent : session'.currentJob = session.currentJob)
  | assigned (id : Uuid) (row : ProvisionerJobRow) (hidle : session.currentJob = none)
      (hrow : world.jobs.lookup id = some row)
      (haccepts : (session.acquireInput world.clock).accepts row = true)
      (hjobs : jobs' = world.jobs.update id (session.acquireInput world.clock).set)
      (hassignments : session'.assignments =
        session.assignments ++ [.ofRecord { row with id }])
      (hcurrent : session'.currentJob.map (·.id) = some id)
  | ended (job : ProvisionerJobRecord) (hjob : session.currentJob = some job)
      (hassignments : session'.assignments = session.assignments)
      (hcurrent : session'.currentJob = none)
      (hended : ∀ row, jobs'.lookup job.id = some row → row.completedAt.isSome = true)

namespace Session

variable {session : Session} {world : World} {choice : StoreChoice}

theorem assignments_sendMsg (session : Session) (message : ServerMessage) :
    (session.sendMsg message).assignments = session.assignments ++ message.assignment.toList := by
  cases hmessage : message.assignment <;> simp [assignments, sendMsg, hmessage]

theorem assignments_quiet {message : ServerMessage} (h : message.assignment = none) :
    (session.sendMsg message).assignments = session.assignments := by
  rw [assignments_sendMsg, h]
  exact List.append_nil _

theorem acquireJob_turn :
    Turn world session (session.acquireJob world choice).1
      (session.acquireJob world choice).2 := by
  unfold acquireJob
  split
  · exact .same (assignments_quiet rfl) rfl
  · rename_i hidle
    split
    · exact .same (assignments_quiet rfl) rfl
    · obtain heq | ⟨id, row, hrow, haccepts, heq⟩ :=
        world.jobs.acquireProvisionerJob_cases (session.acquireInput world.clock) choice.locked
      · rw [heq]
        exact .same (assignments_quiet rfl) rfl
      · rw [heq]
        exact .assigned id row (by simpa using hidle) hrow haccepts rfl
          (assignments_sendMsg _ _) rfl

theorem report_turn {jobs' : JobTable} (noJob : String) {accepted : ServerMessage}
    (haccepted : accepted.assignment = none) :
    Turn world session jobs' (session.report choice noJob accepted) := by
  unfold report
  split
  · exact .same (assignments_quiet rfl) rfl
  · exact .same (assignments_quiet rfl) rfl
  · exact .same (assignments_quiet haccepted) rfl

/-- Whichever statement ends the active job, its row is finished afterwards. -/
theorem finishJob_turn (noJob : String) {update : ProvisionerJobRecord → JobTable}
    (hupdate : ∀ job row, (update job).lookup job.id = some row →
      row.completedAt.isSome = true) :
    Turn world session (session.finishJob world choice noJob update).1
      (session.finishJob world choice noJob update).2 := by
  cases hjob : session.currentJob with
  | none =>
    cases hfault : choice.fault <;> simp only [finishJob, hjob, hfault] <;>
      exact .same (assignments_quiet rfl) rfl
  | some job =>
    cases hfault : choice.fault with
    | some e =>
      simp only [finishJob, hjob, hfault]
      exact .same (assignments_quiet rfl) rfl
    | none =>
      simp only [finishJob, hjob, hfault]
      exact .ended job hjob (assignments_quiet rfl) rfl (hupdate job)

/-- A job that is gone is forgotten without a word to the daemon. -/
theorem checkCancel_turn : Turn world session world.jobs (session.checkCancel world choice) := by
  unfold checkCancel
  split
  · rename_i job hjob hfault
    split
    · split
      · exact .same (assignments_quiet rfl) rfl
      · exact .same rfl rfl
    · rename_i hgone
      refine .ended job hjob rfl rfl fun row hrow => ?_
      rw [JobTable.getProvisionerJobById, hrow] at hgone
      cases hgone
  · exact .same rfl rfl

theorem completedAt_of_update {jobs : JobTable} {id : Uuid} {row : ProvisionerJobRow}
    {set : ProvisionerJobRow → ProvisionerJobRow}
    (hset : ∀ row, (set row).completedAt.isSome = true)
    (hrow : (jobs.update id set).lookup id = some row) : row.completedAt.isSome = true := by
  rw [JobTable.lookup_update, if_pos rfl] at hrow
  obtain ⟨before, -, rfl⟩ := Option.map_eq_some_iff.mp hrow
  exact hset before

theorem turn_turn (event : SessionEvent) :
    Turn world session (session.turn world choice event).1
      (session.turn world choice event).2 := by
  cases event with
  | heartbeatTick => exact .same rfl rfl
  | cancelCheckTick => exact checkCancel_turn
  | message message =>
    cases message with
    | acquireJob => exact acquireJob_turn
    | heartbeat => exact .same (assignments_quiet rfl) rfl
    | jobLogs count => exact report_turn _ rfl
    | jobTimings count => exact report_turn _ rfl
    | completeJob error errorCode =>
      exact finishJob_turn _ fun job row hrow => completedAt_of_update (fun _ => rfl) hrow
    | cancelComplete =>
      exact finishJob_turn _ fun job row hrow => completedAt_of_update (fun _ => rfl) hrow

theorem registration_turn (event : SessionEvent) :
    (session.turn world choice event).2.registration = session.registration := by
  cases event with
  | heartbeatTick => rfl
  | cancelCheckTick =>
    simp only [turn, checkCancel]
    repeat' split
    all_goals rfl
  | message message =>
    cases message <;>
      simp only [turn, handleDaemonMessage, acquireJob, report, finishJob] <;>
      repeat' split
    all_goals rfl

end Session

/-! ## One step of a writer -/

/-- A step hands out no job, or one that it has just marked as started. -/
inductive Handing (jobs : JobTable) (before : List Uuid) (jobs' : JobTable) (after : List Uuid) :
    Prop where
  | same (h : after = before)
  | handed (input : AcquireProvisionerJobInput) (id : Uuid) (row : ProvisionerJobRow)
      (hrow : jobs.lookup id = some row) (haccepts : input.accepts row = true)
      (hjobs : jobs' = jobs.update id input.set) (h : after = before ++ [id])

theorem Session.Turn.handing {world : World} {session session' : Session} {jobs' : JobTable}
    (h : Turn world session jobs' session') :
    Handing world.jobs (session.assignments.map (·.id)) jobs'
      (session'.assignments.map (·.id)) := by
  cases h with
  | same hassignments _ => exact .same (by rw [hassignments])
  | assigned id row hidle hrow haccepts hjobs hassignments hcurrent =>
    refine .handed _ id row hrow haccepts hjobs ?_
    rw [hassignments, List.map_append]
    rfl
  | ended job hjob hassignments _ _ => exact .same (by rw [hassignments])

theorem RpcCall.handedOut_look {request : RpcRequest} {jobs : JobTable} {jobId : Uuid}
    {unfinished : Bool} :
    (RpcCall.look { request, phase := .started } jobs jobId unfinished).handedOut = [] := by
  unfold look
  repeat' split
  all_goals rfl

theorem RpcCall.advance_handing {call call' : RpcCall} {world : World} {choice : StoreChoice}
    {jobs : JobTable} (h : call.advance world choice = some (jobs, call')) :
    Handing world.jobs call.handedOut jobs call'.handedOut := by
  obtain ⟨request, phase⟩ := call
  cases phase with
  | finished result => cases h
  | started =>
    show Handing world.jobs [] jobs call'.handedOut
    cases request with
    | acquireJob =>
      cases hfault : choice.fault with
      | some e =>
        simp only [advance, hfault] at h
        cases h
        exact .same rfl
      | none =>
        obtain heq | ⟨id, row, hrow, haccepts, heq⟩ :=
          world.jobs.acquireProvisionerJob_cases (acquireInput world.clock) choice.locked
        · simp only [advance, hfault, heq] at h
          cases h
          -- the answer without a job has an empty id
          exact .same rfl
        · simp only [advance, hfault, heq] at h
          cases h
          refine .handed _ id row hrow haccepts rfl ?_
          show (Uuid.parse id.toHyphenated).toList = [id]
          rw [Uuid.parse_toHyphenated]
          rfl
    | _ =>
      cases hfault : choice.fault <;> simp only [advance, hfault] at h <;> cases h
      · exact .same handedOut_look
      · exact .same rfl
  | writing job =>
    refine .same ?_
    cases request <;> cases hfault : choice.fault <;> simp only [advance, hfault] at h <;>
      cases h <;> rfl

theorem Writer.advance_handing {writer writer' : Writer} {world : World} {choice : WriterChoice}
    {jobs : JobTable} (h : writer.advance world choice = some (jobs, writer')) :
    Handing world.jobs writer.handedOut jobs writer'.handedOut := by
  cases writer with
  | session s =>
    cases h
    exact (s.turn_turn choice.event).handing
  | rpc call =>
    obtain ⟨⟨jobs, call'⟩, hcall, heq⟩ := Option.map_eq_some_iff.mp h
    cases heq
    exact RpcCall.advance_handing hcall
  | cancel c =>
    obtain ⟨⟨jobs, c'⟩, -, heq⟩ := Option.map_eq_some_iff.mp h
    cases heq
    exact .same rfl
  | reaper r =>
    obtain ⟨⟨jobs, r'⟩, -, heq⟩ := Option.map_eq_some_iff.mp h
    cases heq
    exact .same rfl

/-! ## Every run -/

/-- The active job is one of those that were assigned, and the others are finished. -/
structure Session.Tracks (jobs : JobTable) (session : Session) : Prop where
  current : ∀ job, session.currentJob = some job → job.id ∈ session.assignments.map (·.id)
  finished : ∀ id ∈ session.assignments.map (·.id),
    session.currentJob.map (·.id) = some id ∨ Finished jobs id

/-- What holds of a writer: the jobs it has handed out are started, and it has not handed out
one of them twice. -/
structure Accounted (world : World) (writer : Writer) : Prop where
  nodup : writer.handedOut.Nodup
  started : ∀ id ∈ writer.handedOut, Started world.jobs id
  tracks : ∀ session, writer = .session session → session.Tracks world.jobs

def Apart (writer other : Writer) : Prop := writer.handedOut.Disjoint other.handedOut

abbrev Accounts (w : Pool World Writer) : Prop := w.Noninterfering Accounted Apart

theorem Accounted.grows {world : World} {jobs' : JobTable} {writer : Writer}
    (h : Accounted world writer) (hgrows : Grows world.jobs jobs') :
    Accounted { world with jobs := jobs' } writer where
  nodup := h.nodup
  started id hid := hgrows.started (h.started id hid)
  tracks session hsession :=
    { current := (h.tracks session hsession).current
      finished := by
        intro id hid
        obtain hcurrent | hfinished := (h.tracks session hsession).finished id hid
        · exact .inl hcurrent
        · exact .inr (hgrows.finished hfinished) }

theorem Session.Turn.tracks {world : World} {session session' : Session} {jobs' : JobTable}
    (h : Turn world session jobs' session') (hgrows : Grows world.jobs jobs')
    (hstarted : ∀ id ∈ session.assignments.map (·.id), Started world.jobs id)
    (htracks : session.Tracks world.jobs) : session'.Tracks jobs' := by
  cases h with
  | same hassignments hcurrent =>
    refine ⟨by rw [hassignments, hcurrent]; exact htracks.current, ?_⟩
    rw [hassignments, hcurrent]
    intro id hid
    exact (htracks.finished id hid).imp_right hgrows.finished
  | assigned id row hidle hrow haccepts hjobs hassignments hcurrent =>
    have hassigned : session'.assignments.map (·.id) = session.assignments.map (·.id) ++ [id] := by
      rw [hassignments, List.map_append]
      rfl
    constructor
    · intro job hjob
      rw [hjob] at hcurrent
      cases hcurrent
      rw [hassigned]
      exact List.mem_append_right _ (List.mem_singleton_self _)
    · intro id' hid'
      rw [hassigned, List.mem_append, List.mem_singleton] at hid'
      obtain hbefore | rfl := hid'
      · -- the session was idle, so all that it had been given is finished
        obtain hactive | hfinished := htracks.finished id' hbefore
        · rw [hidle] at hactive
          cases hactive
        · exact .inr (hgrows.finished hfinished)
      · exact .inl hcurrent
  | ended job hjob hassignments hcurrent hended =>
    refine ⟨by rw [hcurrent]; simp, ?_⟩
    rw [hassignments]
    intro id hid
    obtain hactive | hfinished := htracks.finished id hid
    · rw [hjob] at hactive
      cases hactive
      obtain ⟨row, hrow, -⟩ := hgrows.started (hstarted _ hid)
      exact .inr ⟨row, hrow, hended row hrow⟩
    · exact .inr (hgrows.finished hfinished)

variable {w : Pool World Writer}

/-- A job that is handed out now was not started, so nobody has handed it out before. -/
theorem Accounts.not_mem_of_accepts (h : Accounts w) {input : AcquireProvisionerJobInput}
    {id : Uuid} {row : ProvisionerJobRow} (hrow : w.shared.jobs.lookup id = some row)
    (haccepts : input.accepts row = true) {j : Nat} {other : Writer}
    (hother : w.tasks[j]? = some other) : id ∉ other.handedOut := by
  intro hid
  obtain ⟨row', hrow', hstarted⟩ := (h.each j other hother).started id hid
  rw [hrow] at hrow'
  cases hrow'
  rw [AcquireProvisionerJobInput.startedAt_of_accepts haccepts] at hstarted
  cases hstarted

theorem Accounts.run (h : Accounts w) {i : Nat} {choice : WriterChoice} {writer writer' : Writer}
    {jobs : JobTable} (htask : w.tasks[i]? = some writer)
    (hadvance : writer.advance w.shared choice = some (jobs, writer')) :
    Accounts { shared := { w.shared with jobs }, tasks := w.tasks.set i writer' } := by
  have hgrows : Grows w.shared.jobs jobs := (Writer.advance_effect hadvance).grows
  have hbefore := h.each i writer htask
  have htracks : ∀ session', writer' = .session session' → session'.Tracks jobs := by
    rintro session' rfl
    obtain ⟨s, rfl, rfl, rfl⟩ := Writer.exists_session_of_advance hadvance
    exact (s.turn_turn choice.event).tracks hgrows hbefore.started (hbefore.tracks s rfl)
  have hothers : ∀ (j : Nat) (other : Writer), w.tasks[j]? = some other →
      Accounted { w.shared with jobs } other :=
    fun j other hother => (h.each j other hother).grows hgrows
  cases Writer.advance_handing hadvance with
  | same hsame =>
    refine Pool.Noninterfering.run h ?_ fun j other hj hother => ⟨hothers j other hother, ?_, ?_⟩
    · exact
        { nodup := hsame ▸ hbefore.nodup
          started := fun id hid => hgrows.started (hbefore.started id (hsame ▸ hid))
          tracks := htracks }
    · simpa only [Apart, hsame] using h.apart i j writer other (Ne.symm hj) htask hother
    · simpa only [Apart, hsame] using h.apart j i other writer hj hother htask
  | handed input id row hrow haccepts hjobs hafter =>
    -- the job was not started before the step, and every job that was handed out is
    have hnew : ∀ (j : Nat) (other : Writer), w.tasks[j]? = some other → id ∉ other.handedOut :=
      fun j other hother => h.not_mem_of_accepts hrow haccepts hother
    have hapart : ∀ (j : Nat) (other : Writer), j ≠ i → w.tasks[j]? = some other →
        writer'.handedOut.Disjoint other.handedOut := by
      intro j other hj hother
      rw [hafter]
      refine List.disjoint_append_left.mpr ⟨h.apart i j writer other (Ne.symm hj) htask hother, ?_⟩
      exact List.singleton_disjoint.mpr (hnew j other hother)
    refine Pool.Noninterfering.run h ?_ fun j other hj hother =>
      ⟨hothers j other hother, hapart j other hj hother,
        List.disjoint_symm (hapart j other hj hother)⟩
    refine { nodup := ?_, started := ?_, tracks := htracks }
    · rw [hafter]
      exact List.nodup_append'.mpr ⟨hbefore.nodup, List.nodup_singleton id,
        List.disjoint_singleton.mpr (hnew i writer htask)⟩
    · intro id' hid'
      rw [hafter, List.mem_append, List.mem_singleton] at hid'
      obtain hid' | rfl := hid'
      · exact hgrows.started (hbefore.started id' hid')
      · show Started jobs id'
        rw [hjobs]
        exact started_acquired hrow input

theorem accounted_enter (world : World) (op : WriterOp) : Accounted world (.enter op) := by
  have hnil : (Writer.enter op).handedOut = [] := by cases op <;> rfl
  refine { nodup := hnil ▸ List.nodup_nil, started := by simp [hnil], tracks := ?_ }
  rintro session hsession
  cases op with
  | session daemonId registration =>
    cases hsession
    exact ⟨by simp, by simp [Session.assignments]⟩
  | rpc request => cases hsession
  | cancelJob input => cases hsession
  | reap now => cases hsession

theorem Accounts.step (h : Accounts w) (move : Move WriterOp WriterChoice TableEvent) :
    Accounts (writers.step w move) := by
  have hsteps := writers.steps_step w move
  generalize writers.step w move = w' at hsteps
  cases hsteps with
  | idle => exact h
  | spawn op =>
    have hnil : (Writer.enter op).handedOut = [] := by cases op <;> rfl
    refine Pool.Noninterfering.spawn h (accounted_enter w.shared op) fun other _ => ?_
    show (Writer.enter op).handedOut.Disjoint _ ∧ List.Disjoint _ (Writer.enter op).handedOut
    rw [hnil]
    exact ⟨List.disjoint_nil_left _, List.disjoint_nil_right _⟩
  | outside event =>
    refine Pool.Noninterfering.outside h fun writer hwriter => ?_
    cases event with
    | insertJob input => exact hwriter.grows (.insert w.shared.jobs input)
    | setClock time =>
      exact
        { nodup := hwriter.nodup
          started := hwriter.started
          tracks := hwriter.tracks }
  | run htask hadvance =>
    obtain ⟨⟨jobs, writer'⟩, hwriter, heq⟩ := Option.map_eq_some_iff.mp hadvance
    cases heq
    exact h.run htask hwriter

theorem accounts_run (world : World) (moves : List (Move WriterOp WriterChoice TableEvent)) :
    Accounts (writers.run (idle world) moves) := by
  induction moves using List.reverseRecOn with
  | nil => exact Pool.Noninterfering.empty world
  | append_singleton moves move ih =>
    rw [Program.run_concat]
    exact ih.step move

theorem Accounts.nodup_handedOut (h : Accounts w) : (handedOut w).Nodup := by
  refine List.nodup_flatMap.mpr ⟨?_, ?_⟩
  · intro writer hwriter
    obtain ⟨i, hi⟩ := List.mem_iff_getElem?.mp hwriter
    exact (h.each i writer hi).nodup
  · rw [List.pairwise_iff_getElem]
    intro i j hi hj hij
    exact h.apart i j _ _ (Nat.ne_of_lt hij) (List.getElem?_eq_getElem hi)
      (List.getElem?_eq_getElem hj)

/-- A session that was given two jobs has finished one of them. -/
theorem Accounts.worksOn_unique (h : Accounts w) {i : Nat} {session : Session} {id id' : Uuid}
    (htask : w.tasks[i]? = some (.session session))
    (hid : session.WorksOn w.shared.jobs id) (hid' : session.WorksOn w.shared.jobs id') :
    id = id' := by
  have htracks := (h.each i _ htask).tracks session rfl
  have hcurrent : ∀ id, session.WorksOn w.shared.jobs id →
      session.currentJob.map (·.id) = some id := by
    rintro id ⟨hassigned, row, hrow, hunfinished⟩
    obtain hcurrent | ⟨row', hrow', hfinished⟩ := htracks.finished id hassigned
    · exact hcurrent
    · rw [hrow] at hrow'
      cases hrow'
      rw [hunfinished] at hfinished
      cases hfinished
  exact Option.some.inj ((hcurrent id hid).symm.trans (hcurrent id' hid'))

/-- An assignment that is there after a turn was there before, or is the last one and of a job
that the daemon may work on. -/
theorem Session.Turn.assignments_cases {world : World} {session session' : Session}
    {jobs' : JobTable} (h : Turn world session jobs' session') {k : Nat} {job : JobInfo}
    (hjob : session'.assignments[k]? = some job) :
    session.assignments[k]? = some job ∨
      (session.assignments.length = k ∧ session'.assignments = session.assignments ++ [job] ∧
        ∃ row, world.jobs.lookup job.id = some row ∧ session.registration.Entitled row) := by
  cases h with
  | same hassignments _ => exact .inl (hassignments ▸ hjob)
  | ended _ _ hassignments _ _ => exact .inl (hassignments ▸ hjob)
  | assigned id row hidle hrow haccepts hjobs hassignments hcurrent =>
    rw [hassignments] at hjob
    by_cases hk : k < session.assignments.length
    · rw [List.getElem?_append_left hk] at hjob
      exact .inl hjob
    · rw [List.getElem?_append_right (Nat.le_of_not_lt hk)] at hjob
      obtain ⟨hlt, hget⟩ := List.getElem?_eq_some_iff.mp hjob
      have hzero : k - session.assignments.length = 0 := by simpa using hlt
      obtain rfl : JobInfo.ofRecord { row with id } = job := by simpa [hzero] using hget
      exact .inr ⟨by omega, hassignments, row, hrow, entitled_of_accepts haccepts⟩

theorem sends_of_step {move : Move WriterOp WriterChoice TableEvent} {i k : Nat}
    {session' : Session} {job : JobInfo}
    (hafter : (writers.step w move).tasks[i]? = some (.session session'))
    (hjob : session'.assignments[k]? = some job) :
    (∃ session, w.tasks[i]? = some (.session session) ∧
        session.registration = session'.registration ∧ session.assignments[k]? = some job) ∨
      Sends w move i k session'.registration job := by
  have htask := hafter
  have hsteps := writers.steps_step w move
  generalize writers.step w move = w' at hsteps htask
  cases hsteps with
  | idle => exact .inl ⟨session', htask, rfl, hjob⟩
  | outside event => exact .inl ⟨session', htask, rfl, hjob⟩
  | spawn op =>
    by_cases hi : i < w.tasks.length
    · rw [List.getElem?_append_left hi] at htask
      exact .inl ⟨session', htask, rfl, hjob⟩
    · -- a session that has just been started has sent nothing
      rw [List.getElem?_append_right (Nat.le_of_not_lt hi)] at htask
      have hentered := List.mem_singleton.mp (List.mem_of_getElem? htask)
      cases op <;> cases hentered
      cases hjob
  | run hbefore hadvance =>
    obtain ⟨rfl, rfl⟩ | ⟨-, hother⟩ := Pool.getElem?_set_cases htask
    · obtain ⟨⟨jobs, writer'⟩, hwriter, heq⟩ := Option.map_eq_some_iff.mp hadvance
      cases heq
      rename_i choice writer
      obtain ⟨s, rfl, rfl, rfl⟩ := Writer.exists_session_of_advance hwriter
      have hregistration : s.registration = (s.turn w.shared choice.toStoreChoice
          choice.event).2.registration := (s.registration_turn choice.event).symm
      obtain hold | ⟨hlength, hassignments, row, hrow, hentitled⟩ :=
        (s.turn_turn choice.event).assignments_cases hjob
      · exact .inl ⟨s, hbefore, hregistration, hold⟩
      · exact .inr ⟨s, _, row, hbefore, hafter, hregistration, hlength, hassignments, hrow,
          hregistration ▸ hentitled⟩
    · exact .inl ⟨session', hother, rfl, hjob⟩

theorem sends_of_run (world : World) (moves : List (Move WriterOp WriterChoice TableEvent))
    {i k : Nat} {session : Session} {job : JobInfo}
    (htask : (writers.run (idle world) moves).tasks[i]? = some (.session session))
    (hjob : session.assignments[k]? = some job) :
    ∃ before move rest, moves = before ++ move :: rest ∧
      Sends (writers.run (idle world) before) move i k session.registration job := by
  induction moves using List.reverseRecOn generalizing session with
  | nil => cases htask
  | append_singleton moves move ih =>
    rw [Program.run_concat] at htask
    obtain ⟨earlier, hearlier, hregistration, hold⟩ | hsends := sends_of_step htask hjob
    · obtain ⟨before, sending, rest, rfl, hsends⟩ := ih hearlier hold
      exact ⟨before, sending, rest ++ [move], by simp, hregistration ▸ hsends⟩
    · exact ⟨moves, move, [], rfl, hsends⟩

/-- Whatever the daemons, the reapers and those who insert and cancel jobs do, a job is handed
out at most once and to a daemon that may work on it, and a session works on at most one. -/
theorem handsOutOnce (world : World) (moves : List (Move WriterOp WriterChoice TableEvent)) :
    HandsOutOnce world moves where
  once := (accounts_run world moves).nodup_handedOut
  entitled _ _ _ _ htask hjob := sends_of_run world moves htask hjob
  single _ _ _ _ htask hid hid' := (accounts_run world moves).worksOn_unique htask hid hid'

end Coderd.Provisioner
