import Coderd.Foundation.Interleaving
import Coderd.Provisioner.Jobs

namespace Coderd.Provisioner

open Coderd.Foundation
open Coderd.CryptoKeys (OffsetDateTime)

/-- The job table and the wall clock. -/
structure World where
  jobs : JobTable
  clock : OffsetDateTime

/-- What the code does not decide: the error a store call fails with, the rows that are locked
when a job is acquired, and the order in which stale jobs come back. -/
structure StoreChoice where
  fault : Option String := none
  locked : List Uuid := []
  order : List Uuid := []

/-! ## Daemon sessions -/

inductive DaemonMessage where
  | acquireJob
  | heartbeat
  | jobLogs (count : Nat)
  | jobTimings (count : Nat)
  | completeJob (error errorCode : String)
  | cancelComplete
  deriving DecidableEq

structure JobInfo where
  id : Uuid
  createdAt : OffsetDateTime
  organizationId : Uuid
  provisioner : String
  tags : Tags

def JobInfo.ofRecord (job : ProvisionerJobRecord) : JobInfo where
  id := job.id
  createdAt := job.createdAt
  organizationId := job.organizationId
  provisioner := job.provisioner.asStr
  tags := job.tags

inductive ServerMessage where
  | jobAssigned (job : JobInfo)
  | noJob
  | heartbeatAck
  | jobCanceled (jobId : Uuid)
  | logsAccepted (count : Nat)
  | timingsAccepted (count : Nat)
  | jobCompleteAck
  | error (message : String)

structure DaemonRegistration where
  provisioners : List String
  tags : Tags
  organizationId : Uuid

/-- The types of a registration that are known. -/
def DaemonRegistration.provisionerTypes (registration : DaemonRegistration) :
    List ProvisionerType :=
  registration.provisioners.filterMap fun
    | "terraform" => some .terraform
    | "echo" => some .echo
    | _ => none

structure Session where
  daemonId : Uuid
  registration : DaemonRegistration
  currentJob : Option ProvisionerJobRecord
  outgoing : List ServerMessage

/-- What wakes the loop of a session: a message of the daemon, or one of its two timers. -/
inductive SessionEvent where
  | message (message : DaemonMessage)
  | heartbeatTick
  | cancelCheckTick
  deriving DecidableEq

namespace Session

def sendMsg (session : Session) (message : ServerMessage) : Session :=
  { session with outgoing := session.outgoing ++ [message] }

/-- A storage error goes to the daemon and the loop goes on. -/
def sendFault (session : Session) (fault : String) : Session :=
  session.sendMsg (.error ("storage: " ++ fault))

def acquireInput (session : Session) (now : OffsetDateTime) : AcquireProvisionerJobInput where
  workerId := session.daemonId
  startedAt := now
  organizationId := session.registration.organizationId
  types := session.registration.provisionerTypes
  provisionerTags := session.registration.tags

/-- The heartbeat of the active job; an error is only logged. -/
def heartbeatJob (session : Session) (world : World) (choice : StoreChoice) : JobTable :=
  match session.currentJob, choice.fault with
  | some job, none => world.jobs.updateProvisionerJobById job.id world.clock
  | _, _ => world.jobs

def completeInput (job : ProvisionerJobRecord) (now : OffsetDateTime) (error errorCode : String) :
    CompleteProvisionerJobInput where
  id := job.id
  updatedAt := now
  completedAt := now
  error := error
  errorCode := errorCode

def cancelInput (job : ProvisionerJobRecord) (now : OffsetDateTime) :
    CancelProvisionerJobInput where
  id := job.id
  canceledAt := now
  completedAt := some now

def acquireJob (session : Session) (world : World) (choice : StoreChoice) : JobTable × Session :=
  if session.currentJob.isSome then
    (world.jobs, session.sendMsg (.error "already have an active job"))
  else
    match choice.fault with
    | some e => (world.jobs, session.sendFault e)
    | none =>
      match world.jobs.acquireProvisionerJob (session.acquireInput world.clock) choice.locked with
      | (some job, jobs) =>
        (jobs, { session with currentJob := some job }.sendMsg (.jobAssigned (.ofRecord job)))
      | (none, jobs) => (jobs, session.sendMsg .noJob)

/-- Logs and timings go to tables of their own. -/
def report (session : Session) (choice : StoreChoice) (noJob : String) (accepted : ServerMessage) :
    Session :=
  match session.currentJob, choice.fault with
  | none, _ => session.sendMsg (.error noJob)
  | some _, some e => session.sendFault e
  | some _, none => session.sendMsg accepted

/-- The end of the active job. After an error of the store the session still has it. -/
def finishJob (session : Session) (world : World) (choice : StoreChoice) (noJob : String)
    (update : ProvisionerJobRecord → JobTable) : JobTable × Session :=
  match session.currentJob, choice.fault with
  | none, _ => (world.jobs, session.sendMsg (.error noJob))
  | some _, some e => (world.jobs, session.sendFault e)
  | some job, none => (update job, { session with currentJob := none }.sendMsg .jobCompleteAck)

def handleDaemonMessage (session : Session) (world : World) (choice : StoreChoice) :
    DaemonMessage → JobTable × Session
  | .acquireJob => session.acquireJob world choice
  | .heartbeat => (session.heartbeatJob world choice, session.sendMsg .heartbeatAck)
  | .jobLogs count =>
    (world.jobs, session.report choice "no active job for log insertion" (.logsAccepted count))
  | .jobTimings count =>
    (world.jobs,
      session.report choice "no active job for timing insertion" (.timingsAccepted count))
  | .completeJob error errorCode =>
    session.finishJob world choice "no active job to complete" fun job =>
      world.jobs.updateProvisionerJobWithCompleteById
        (completeInput job world.clock error errorCode)
  | .cancelComplete =>
    session.finishJob world choice "no active job to cancel" fun job =>
      world.jobs.updateProvisionerJobWithCancelById (cancelInput job world.clock)

/-- The check for a cancellation. It only reads, and forgets a job that is gone. -/
def checkCancel (session : Session) (world : World) (choice : StoreChoice) : Session :=
  match session.currentJob, choice.fault with
  | some job, none =>
    match world.jobs.getProvisionerJobById job.id with
    | some refreshed =>
      if refreshed.canceledAt.isSome ∧ refreshed.jobStatus = .canceling then
        session.sendMsg (.jobCanceled job.id)
      else session
    | none => { session with currentJob := none }
  | _, _ => session

/-- One turn of the loop of `run_daemon_session`. -/
def turn (session : Session) (world : World) (choice : StoreChoice) :
    SessionEvent → JobTable × Session
  | .message message => session.handleDaemonMessage world choice message
  | .heartbeatTick => (session.heartbeatJob world choice, session)
  | .cancelCheckTick => (world.jobs, session.checkCancel world choice)

end Session

/-! ## Calls over DRPC -/

inductive RpcRequest where
  | acquireJob
  | updateJob (jobId : Uuid)
  | failJob (jobId : Uuid) (error errorCode : String)
  | completeJob (jobId : Uuid)
  deriving DecidableEq

inductive RpcError where
  | invalidArgument (message : String)
  | internal (message : String)
  deriving DecidableEq

structure AcquiredJob where
  jobId : String
  createdAt : Int
  provisioner : String
  deriving DecidableEq

inductive RpcResponse where
  | acquiredJob (job : AcquiredJob)
  | updateJob (canceled : Bool)
  | empty
  deriving DecidableEq

/-- A call is about to make its first store call, or to write to the job it has read. -/
inductive RpcPhase where
  | started
  | writing (job : ProvisionerJobRecord)
  | finished (result : Except RpcError RpcResponse)

structure RpcCall where
  request : RpcRequest
  phase : RpcPhase

namespace RpcCall

def emptyAcquiredJob : AcquiredJob where
  jobId := ""
  createdAt := 0
  provisioner := ""

def acquiredJob (job : ProvisionerJobRecord) : AcquiredJob where
  jobId := job.id.toHyphenated
  createdAt := job.createdAt.unixNanos / 10 ^ 9
  provisioner := job.provisioner.asStr

/-- The identity of the daemon is not known here: the worker and the organization are nil. -/
def acquireInput (now : OffsetDateTime) : AcquireProvisionerJobInput where
  workerId := ⟨0⟩
  startedAt := now
  organizationId := ⟨0⟩
  types := [.terraform, .echo]
  provisionerTags := ∅

def finish (call : RpcCall) (result : Except RpcError RpcResponse) : RpcCall :=
  { call with phase := .finished result }

/-- The job is looked up, has to be running, and for the two calls that finish it also has to be
unfinished. -/
def look (call : RpcCall) (jobs : JobTable) (jobId : Uuid) (unfinished : Bool) : RpcCall :=
  match jobs.getProvisionerJobById jobId with
  | none => call.finish (.error (.invalidArgument ("job " ++ jobId.toHyphenated ++ " not found")))
  | some job =>
    if job.workerId.isNone then
      call.finish (.error (.invalidArgument "job isn't running yet"))
    else if unfinished ∧ job.completedAt.isSome then
      call.finish (.error (.invalidArgument "job already completed"))
    else { call with phase := .writing job }

def completeInput (jobId : Uuid) (now : OffsetDateTime) (error errorCode : String) :
    CompleteProvisionerJobInput where
  id := jobId
  updatedAt := now
  completedAt := now
  error := error
  errorCode := errorCode

/-- The next store call. -/
def advance (call : RpcCall) (world : World) (choice : StoreChoice) :
    Option (JobTable × RpcCall) :=
  match call.phase, call.request, choice.fault with
  | .started, .acquireJob, some e =>
    some (world.jobs, call.finish (.error (.internal ("acquire job: " ++ e))))
  | .started, .acquireJob, none =>
    match world.jobs.acquireProvisionerJob (acquireInput world.clock) choice.locked with
    | (some job, jobs) => some (jobs, call.finish (.ok (.acquiredJob (acquiredJob job))))
    | (none, jobs) => some (jobs, call.finish (.ok (.acquiredJob emptyAcquiredJob)))
  | .started, _, some e =>
    some (world.jobs, call.finish (.error (.internal ("get job: " ++ e))))
  | .started, .updateJob jobId, none => some (world.jobs, call.look world.jobs jobId false)
  | .started, .failJob jobId _ _, none => some (world.jobs, call.look world.jobs jobId true)
  | .started, .completeJob jobId, none => some (world.jobs, call.look world.jobs jobId true)
  | .writing _, .acquireJob, _ => none
  | .writing _, .updateJob _, some e =>
    some (world.jobs, call.finish (.error (.internal ("update job: " ++ e))))
  | .writing job, .updateJob jobId, none =>
    some (world.jobs.updateProvisionerJobById jobId world.clock,
      call.finish (.ok (.updateJob job.canceledAt.isSome)))
  | .writing _, _, some e =>
    some (world.jobs, call.finish (.error (.internal ("complete job: " ++ e))))
  | .writing _, .failJob jobId error errorCode, none =>
    some (world.jobs.updateProvisionerJobWithCompleteById
        (completeInput jobId world.clock error errorCode), call.finish (.ok .empty))
  | .writing _, .completeJob jobId, none =>
    some (world.jobs.updateProvisionerJobWithCompleteById
        (completeInput jobId world.clock "" ""), call.finish (.ok .empty))
  | .finished _, _, _ => none

end RpcCall

/-! ## Cancellations -/

/-- `cancel_job`, with the input of its caller. -/
structure Cancellation where
  input : CancelProvisionerJobInput
  result : Option (Except String Unit)

def Cancellation.cancelJob (cancellation : Cancellation) (world : World) (choice : StoreChoice) :
    Option (JobTable × Cancellation) :=
  match cancellation.result, choice.fault with
  | some _, _ => none
  | none, some e => some (world.jobs, { cancellation with result := some (.error e) })
  | none, none =>
    some (world.jobs.updateProvisionerJobWithCancelById cancellation.input,
      { cancellation with result := some (.ok ()) })

/-! ## The reaper -/

def defaultHeartbeatTimeoutSecs : Int := 30

def defaultMaxPendingAgeSecs : Int := 60 * 30

def defaultReapBatchSize : Nat := 100

/-- A pass over the stale jobs: it selects them, and then updates one after the other. -/
inductive ReapPhase where
  | selecting
  | reaping (stale : List ProvisionerJobRecord) (reaped : Nat)
  | finished (result : Except String Nat)
  | panicked

structure Reaper where
  now : OffsetDateTime
  phase : ReapPhase

namespace Reaper

/-- `now - time::Duration::seconds(secs)`. -/
def since (now : OffsetDateTime) (secs : Int) : Option OffsetDateTime :=
  now.add (-(secs * 10 ^ 9))

def reapInput (now : OffsetDateTime) : Option GetJobsToBeReapedInput := do
  let pendingSince ← since now defaultMaxPendingAgeSecs
  let hungSince ← since now defaultHeartbeatTimeoutSecs
  return { pendingSince, hungSince, maxJobs := defaultReapBatchSize }

/-- `{:.0}` of a number of seconds in minutes; a half goes to the even neighbour. -/
def roundedMinutes (secs : Int) : Int :=
  if 2 * (secs % 60) < 60 then secs / 60
  else if 60 < 2 * (secs % 60) then secs / 60 + 1
  else secs / 60 + secs / 60 % 2

def errMsg (job : ProvisionerJobRecord) : String :=
  let (reapType, thresholdSecs) :=
    if job.startedAt.isNone then ("pending", defaultMaxPendingAgeSecs)
    else ("hung", defaultHeartbeatTimeoutSecs)
  "Coder: Build has been detected as " ++ reapType ++ " for " ++
    toString (roundedMinutes thresholdSecs) ++
    " minutes and has been terminated by the reaper."

def completeInput (now : OffsetDateTime) (job : ProvisionerJobRecord) :
    CompleteProvisionerJobInput where
  id := job.id
  updatedAt := now
  completedAt := now
  error := errMsg job
  errorCode := ""

/-- The next store call of `reap_stale_jobs_once`. -/
def advance (reaper : Reaper) (world : World) (choice : StoreChoice) :
    Option (JobTable × Reaper) :=
  match reaper.phase with
  | .selecting =>
    match reapInput reaper.now, choice.fault with
    | none, _ => some (world.jobs, { reaper with phase := .panicked })
    | some _, some e => some (world.jobs, { reaper with phase := .finished (.error e) })
    | some input, none =>
      let stale := world.jobs.getProvisionerJobsToBeReaped input choice.order
      some (world.jobs, { reaper with phase := .reaping stale 0 })
  | .reaping [] reaped => some (world.jobs, { reaper with phase := .finished (.ok reaped) })
  | .reaping (job :: stale) reaped =>
    match choice.fault with
    | some _ => some (world.jobs, { reaper with phase := .reaping stale reaped })
    | none =>
      some (world.jobs.updateProvisionerJobWithCompleteById (completeInput reaper.now job),
        { reaper with phase := .reaping stale (reaped + 1) })
  | .finished _ => none
  | .panicked => none

end Reaper

/-! ## All of them on one table -/

inductive Writer where
  | session (session : Session)
  | rpc (call : RpcCall)
  | cancel (cancellation : Cancellation)
  | reaper (reaper : Reaper)

inductive WriterOp where
  | session (daemonId : Uuid) (registration : DaemonRegistration)
  | rpc (request : RpcRequest)
  | cancelJob (input : CancelProvisionerJobInput)
  | reap (now : OffsetDateTime)

/-- A choice for the next step of a writer; the event is for sessions, which wait for one. -/
structure WriterChoice extends StoreChoice where
  event : SessionEvent := .heartbeatTick

namespace Writer

def enter : WriterOp → Writer
  | .session daemonId registration =>
    .session { daemonId, registration, currentJob := none, outgoing := [] }
  | .rpc request => .rpc { request, phase := .started }
  | .cancelJob input => .cancel { input, result := none }
  | .reap now => .reaper { now, phase := .selecting }

def advance (world : World) (writer : Writer) (choice : WriterChoice) :
    Option (JobTable × Writer) :=
  match writer with
  | .session s =>
    let (jobs, s) := s.turn world choice.toStoreChoice choice.event
    some (jobs, .session s)
  | .rpc call => (call.advance world choice.toStoreChoice).map fun (jobs, call) => (jobs, .rpc call)
  | .cancel c =>
    (c.cancelJob world choice.toStoreChoice).map fun (jobs, c) => (jobs, .cancel c)
  | .reaper r => (r.advance world choice.toStoreChoice).map fun (jobs, r) => (jobs, .reaper r)

/-! A writer keeps its kind. -/

section

variable {world : World} {writer : Writer} {choice : WriterChoice} {jobs : JobTable}

theorem exists_session_of_advance {session' : Session}
    (h : writer.advance world choice = some (jobs, .session session')) :
    ∃ s, writer = .session s ∧ jobs = (s.turn world choice.toStoreChoice choice.event).1 ∧
      session' = (s.turn world choice.toStoreChoice choice.event).2 := by
  cases writer with
  | session s =>
    cases h
    exact ⟨s, rfl, rfl, rfl⟩
  | rpc call => simp [advance] at h
  | cancel c => simp [advance] at h
  | reaper r => simp [advance] at h

theorem exists_reaper_of_advance {reaper' : Reaper}
    (h : writer.advance world choice = some (jobs, .reaper reaper')) :
    ∃ r, writer = .reaper r ∧ r.advance world choice.toStoreChoice = some (jobs, reaper') := by
  cases writer with
  | session s => cases h
  | rpc call => simp [advance] at h
  | cancel c => simp [advance] at h
  | reaper r =>
    obtain ⟨⟨jobs', r'⟩, hreap, heq⟩ := Option.map_eq_some_iff.mp h
    cases heq
    exact ⟨r, rfl, hreap⟩

end

end Writer

/-- A job is inserted, or the clock is set. -/
inductive TableEvent where
  | insertJob (input : InsertProvisionerJobInput)
  | setClock (time : OffsetDateTime)

def writers : Program World Writer WriterOp WriterChoice TableEvent where
  enter := Writer.enter
  advance world writer choice :=
    (writer.advance world choice).map fun (jobs, writer) => ({ world with jobs }, writer)
  outside world
    | .insertJob input => { world with jobs := world.jobs.insertProvisionerJob input }
    | .setClock time => { world with clock := time }

/-- No writer has started. -/
def idle (world : World) : Pool World Writer where
  shared := world
  tasks := []

end Coderd.Provisioner
