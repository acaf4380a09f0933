import Coderd.Workspaces.Schema

namespace Coderd.Workspaces

open Coderd.Foundation
open Coderd.CryptoKeys (OffsetDateTime)
open Coderd.Provisioner (ProvisionerJobRow)

/-! ## Schedules -/

/-- The parts of the crates `cron`, `chrono` and `chrono-tz` that schedules are built on. An
instant of `chrono` is in seconds since the epoch; a schedule is evaluated in UTC when there is
no time zone. -/
class Cron where
  Schedule : Type
  Tz : Type
  fromStr : String → Option Schedule
  parseTz : String → Option Tz
  after : Schedule → Option Tz → Int → Option Int
  fromTimestamp : Int → Option Int

structure AutostartSchedule [Cron] where
  expression : String
  schedule : Cron.Schedule
  timezone : String

namespace AutostartSchedule

variable [Cron]

/-- The time zone and the five fields of an expression. -/
def split (raw : String) : String × String :=
  if "CRON_TZ=".toList.isPrefixOf raw.toList then
    let (tz, rest) := (raw.toList.drop 8).span (· ≠ ' ')
    (String.ofList tz, String.ofList (rest.drop 1))
  else ("UTC", raw)

def parse (raw : String) : Option AutostartSchedule := do
  let (timezone, cronExpr) := split raw
  let schedule ← Cron.fromStr ("0 " ++ cronExpr ++ " *")
  return { expression := raw, schedule, timezone }

/-- A name of a time zone that is not known stands for UTC. -/
def nextAfterChrono (s : AutostartSchedule) (after : Int) : Option Int :=
  Cron.after s.schedule (Cron.parseTz s.timezone) after

end AutostartSchedule

/-! ## The rules -/

inductive AutobuildAction where
  | start | stop | dormant | delete | none
  deriving DecidableEq, Repr

inductive BuildReason where
  | initiator | autostart | autostop | dormancy | autodelete | failureRetry
  deriving DecidableEq, Repr

/-- `unix_timestamp`. -/
def unixTimestamp (t : OffsetDateTime) : Int := t.unixNanos / 10 ^ 9

def isEligibleForAutostop (ws : WorkspaceTransitionRow) (now : OffsetDateTime) : Bool :=
  if ws.jobStatus = .failed then false
  else if ws.dormantAt.isSome then false
  else if ws.buildTransition = "start" ∧ ws.ownerStatus = .suspended then true
  else if ws.buildTransition ≠ "start" then false
  else
    match ws.buildDeadline with
    -- the epoch stands for no deadline
    | some deadline => if deadline ≠ .unixEpoch then decide (deadline < now) else false
    | none => false

def isEligibleForAutostart [Cron] (ws : WorkspaceTransitionRow) (now : OffsetDateTime) : Bool :=
  if ws.ownerStatus ≠ .active then false
  else if ws.jobStatus = .failed then false
  else if ws.dormantAt.isSome then false
  else if ws.buildTransition ≠ "stop" then false
  else if !ws.templateAllowUserAutostart then false
  else
    (do
      let scheduleStr ← ws.autostartSchedule.filter (· ≠ "")
      let schedule ← AutostartSchedule.parse scheduleStr
      let after ← Cron.fromTimestamp (unixTimestamp (← ws.jobCompletedAt))
      let nextTransition ← schedule.nextAfterChrono after
      let nowChrono ← Cron.fromTimestamp (unixTimestamp now)
      return decide (nextTransition ≤ nowChrono)).getD false

def isEligibleForDormantStop (ws : WorkspaceTransitionRow) (now : OffsetDateTime) : Bool :=
  if ws.dormantAt.isSome then false
  else if ws.templateTimeTilDormant ≤ 0 then false
  else decide (ws.templateTimeTilDormant < elapsed now ws.lastUsedAt)

def isEligibleForDelete (ws : WorkspaceTransitionRow) (now : OffsetDateTime) : Bool :=
  match ws.dormantAt, ws.deletingAt with
  | some _, some deletingAt =>
    if ws.templateTimeTilDormantAutodelete ≤ 0 then false
    else
      let eligible := decide (deletingAt < now)
      -- a deletion that failed is tried again after a day
      if ws.buildTransition = "delete" ∧ ws.jobStatus = .failed then
        match ws.jobCompletedAt with
        | some completedAt => eligible && decide (24 * 3600 * 10 ^ 9 < elapsed now completedAt)
        | none => false
      else eligible
  | _, _ => false

def isEligibleForFailedStop (ws : WorkspaceTransitionRow) (now : OffsetDateTime) : Bool :=
  if ws.templateFailureTtl ≤ 0 then false
  else if ws.jobStatus ≠ .failed ∨ ws.buildTransition ≠ "start" then false
  else
    match ws.jobCompletedAt with
    | some completedAt => decide (ws.templateFailureTtl < elapsed now completedAt)
    | none => false

def getNextTransition [Cron] (ws : WorkspaceTransitionRow) (now : OffsetDateTime) :
    Option (AutobuildAction × BuildReason) :=
  if isEligibleForAutostop ws now then some (.stop, .autostop)
  else if isEligibleForAutostart ws now then some (.start, .autostart)
  else if isEligibleForFailedStop ws now then some (.stop, .autostop)
  else if isEligibleForDormantStop ws now then
    if ws.buildTransition = "start" then some (.stop, .dormancy) else some (.dormant, .dormancy)
  else if isEligibleForDelete ws now then some (.delete, .autodelete)
  else none

/-! ## What each rule asks for -/

variable {ws : WorkspaceTransitionRow} {now : OffsetDateTime}

theorem isEligibleForAutostop_iff : isEligibleForAutostop ws now = true ↔
    ws.jobStatus ≠ .failed ∧ ws.dormantAt = none ∧ ws.buildTransition = "start" ∧
      (ws.ownerStatus = .suspended ∨
        ∃ deadline, ws.buildDeadline = some deadline ∧ deadline ≠ .unixEpoch ∧ deadline < now) := by
  unfold isEligibleForAutostop
  cases hdormant : ws.dormantAt with
  | some dormantAt => simp
  | none =>
    by_cases hstart : ws.buildTransition = "start"
    · cases hdeadline : ws.buildDeadline <;> simp [hstart]
    · simp [hstart]

theorem of_isEligibleForAutostart [Cron] (h : isEligibleForAutostart ws now = true) :
    ws.ownerStatus = .active ∧ ws.jobStatus ≠ .failed ∧ ws.dormantAt = none ∧
      ws.buildTransition = "stop" ∧ ws.autostartSchedule.isSome = true := by
  unfold isEligibleForAutostart at h
  split at h
  · cases h
  split at h
  · cases h
  split at h
  · cases h
  split at h
  · cases h
  split at h
  · cases h
  rename_i howner hjob hdormant htransition _
  refine ⟨by simpa using howner, hjob, by simpa using hdormant, by simpa using htransition, ?_⟩
  cases hschedule : ws.autostartSchedule with
  | some schedule => rfl
  | none =>
    rw [hschedule] at h
    cases h

theorem isEligibleForDormantStop_iff : isEligibleForDormantStop ws now = true ↔
    ws.dormantAt = none ∧ 0 < ws.templateTimeTilDormant ∧
      ws.templateTimeTilDormant < elapsed now ws.lastUsedAt := by
  simp [isEligibleForDormantStop]

theorem isEligibleForDelete_iff : isEligibleForDelete ws now = true ↔
    ws.dormantAt.isSome = true ∧ 0 < ws.templateTimeTilDormantAutodelete ∧
      (∃ deletingAt, ws.deletingAt = some deletingAt ∧ deletingAt < now) ∧
      (ws.buildTransition = "delete" → ws.jobStatus = .failed →
        ∃ completedAt, ws.jobCompletedAt = some completedAt ∧
          24 * 3600 * 10 ^ 9 < elapsed now completedAt) := by
  unfold isEligibleForDelete
  cases hdormant : ws.dormantAt with
  | none => simp
  | some dormantAt =>
    cases hdeleting : ws.deletingAt with
    | none => simp
    | some deletingAt =>
      by_cases hpositive : 0 < ws.templateTimeTilDormantAutodelete
      · by_cases hfailed : ws.buildTransition = "delete" ∧ ws.jobStatus = .failed
        · cases hcompleted : ws.jobCompletedAt <;> simp [hpositive, hfailed]
        · simp only [Int.not_le.mpr hpositive, hpositive, hfailed]
          simp [← and_imp, hfailed]
      · simp [hpositive, Int.not_lt.mp hpositive]

theorem isEligibleForFailedStop_iff : isEligibleForFailedStop ws now = true ↔
    0 < ws.templateFailureTtl ∧ ws.jobStatus = .failed ∧ ws.buildTransition = "start" ∧
      ∃ completedAt, ws.jobCompletedAt = some completedAt ∧
        ws.templateFailureTtl < elapsed now completedAt := by
  unfold isEligibleForFailedStop
  cases hcompleted : ws.jobCompletedAt <;> simp [and_assoc]

/-! ## Each rule and its clause -/

variable {r : JoinedRow}

theorem wholeMilliseconds_le {duration : Int} (h : 0 < duration) :
    wholeMilliseconds duration ≤ duration := by
  rw [wholeMilliseconds, Int.tdiv_eq_ediv_of_nonneg (Int.le_of_lt h)]
  omega

/-- A running workspace of a user who is not suspended, with the zero time of Go for a
deadline. -/
structure JoinedRow.ZeroDeadline (r : JoinedRow) : Prop where
  jobStatus : r.job.jobStatus ≠ .failed
  dormantAt : r.workspace.dormantAt = none
  transition : r.build.transition = "start"
  status : r.owner.status ≠ .suspended
  deadline : r.build.deadline = some goZeroTime

/-- What the query takes for no deadline is one that the rule takes for passed. -/
theorem autostopClause_of_eligible (h : isEligibleForAutostop r.transitionRow now = true) :
    r.autostopClause now = .true ∨ (r.ZeroDeadline ∧ goZeroTime < now) := by
  obtain ⟨hjob, hdormant, htransition, hwhy⟩ := isEligibleForAutostop_iff.mp h
  simp only [JoinedRow.transitionRow] at hjob hdormant htransition hwhy
  by_cases hsuspended : r.owner.status = .suspended
  · exact .inl (by
      simp [JoinedRow.autostopClause, hjob, hdormant, htransition, hsuspended])
  obtain ⟨deadline, hdeadline, -, hpassed⟩ := hwhy.resolve_left hsuspended
  -- the rule compares with the epoch, the query with the zero time of Go
  by_cases hzero : deadline = goZeroTime
  · subst hzero
    exact .inr ⟨⟨hjob, hdormant, htransition, hsuspended, hdeadline⟩, hpassed⟩
  · exact .inl (by
      simp [JoinedRow.autostopClause, hjob, hdormant, htransition, hdeadline, hzero, hpassed])

theorem autostartClause_of_eligible [Cron] (hnext : r.workspace.nextStartAt = none)
    (h : isEligibleForAutostart r.transitionRow now = true) : r.autostartClause now = .true := by
  obtain ⟨howner, hjob, hdormant, htransition, hschedule⟩ := of_isEligibleForAutostart h
  simp only [JoinedRow.transitionRow] at howner hjob hdormant htransition hschedule
  simp [JoinedRow.autostartClause, howner, hjob, hdormant, htransition, hschedule, hnext]

theorem dormantStopClause_of_eligible (h : isEligibleForDormantStop r.transitionRow now = true) :
    r.dormantStopClause now = .true := by
  obtain ⟨hdormant, hpositive, helapsed⟩ := isEligibleForDormantStop_iff.mp h
  simp only [JoinedRow.transitionRow] at hdormant hpositive helapsed
  have hwhole := Int.lt_of_le_of_lt (wholeMilliseconds_le hpositive) helapsed
  simp [JoinedRow.dormantStopClause, hdormant, hpositive, hwhole]

/-- A job that failed was not canceled. -/
theorem canceledAt_of_failed {job : ProvisionerJobRow} (h : job.jobStatus = .failed) :
    job.canceledAt = none := by
  unfold ProvisionerJobRow.jobStatus at h
  split at h
  · cases h
  rename_i hcanceled
  split at h
  · rename_i hfailed
    simpa [hfailed.1] using hcanceled
  · repeat' split at h
    all_goals cases h

theorem deletionRetryClause_eq_true
    (h : r.build.transition = "delete" → r.job.jobStatus = .failed →
      ∃ completed, r.job.completedAt = some completed ∧
        24 * 3600 * 10 ^ 9 < elapsed now completed) :
    r.deletionRetryClause now = .true := by
  rw [JoinedRow.deletionRetryClause, SqlBool.caseWhen_eq_true]
  by_cases hfailed : r.build.transition = "delete" ∧ r.job.jobStatus = .failed
  · obtain ⟨completed, hcompleted, helapsed⟩ := h hfailed.1 hfailed.2
    have hcanceled := canceledAt_of_failed hfailed.2
    refine .inl ⟨by simp [hfailed], ?_⟩
    simp only [SqlBool.and_eq_true, SqlBool.or_eq_true, SqlBool.isNotNull_eq_true,
      SqlBool.compare_eq_true]
    refine ⟨.inr (by rw [hcompleted]; rfl), completed, now, ?_, rfl, decide_eq_true helapsed⟩
    simp [SqlBool.caseWhen, hcanceled, hcompleted]
  · exact .inr ⟨by simpa using hfailed, rfl⟩

theorem deletionClause_of_eligible (h : isEligibleForDelete r.transitionRow now = true) :
    r.deletionClause now = .true := by
  obtain ⟨hdormant, hpositive, ⟨deletingAt, hdeleting, hdue⟩, hretry⟩ :=
    isEligibleForDelete_iff.mp h
  simp only [JoinedRow.transitionRow] at hdormant hpositive hdeleting hretry
  simp [JoinedRow.deletionClause, hdormant, hdeleting, hpositive, hdue,
    deletionRetryClause_eq_true hretry]

theorem failedStopClause_of_eligible (h : isEligibleForFailedStop r.transitionRow now = true) :
    r.failedStopClause now = .true := by
  obtain ⟨hpositive, hfailed, htransition, completed, hcompleted, helapsed⟩ :=
    isEligibleForFailedStop_iff.mp h
  simp only [JoinedRow.transitionRow] at hpositive hfailed htransition hcompleted helapsed
  have hwhole := Int.lt_of_le_of_lt (wholeMilliseconds_le hpositive) helapsed
  simp [JoinedRow.failedStopClause, hpositive, hfailed, htransition, hcompleted, hwhole]

/-! ## The query and the rules -/

/-- The query finds the workspace if there is something to do with it. -/
def FindsDue [Cron] (r : JoinedRow) (now : OffsetDateTime) : Prop :=
  (getNextTransition r.transitionRow now).isSome = true →
    r.whereClause (some r.build.buildNumber) now = .true

/-- Not used for longer than `time_til_dormant`, in whole milliseconds. -/
def JoinedRow.Unused (r : JoinedRow) (now : OffsetDateTime) : Prop :=
  0 < r.template.timeTilDormant ∧
    wholeMilliseconds r.template.timeTilDormant < elapsed now r.workspace.lastUsedAt

theorem getNextTransition_isSome [Cron] :
    (getNextTransition ws now).isSome = true ↔
      isEligibleForAutostop ws now = true ∨ isEligibleForAutostart ws now = true ∨
        isEligibleForFailedStop ws now = true ∨ isEligibleForDormantStop ws now = true ∨
          isEligibleForDelete ws now = true := by
  unfold getNextTransition
  split
  · simp [*]
  · split
    · simp [*]
    · split
      · simp [*]
      · split
        · split <;> simp [*]
        · split <;> simp [*]

/-- The clause for a workspace that is neither deleted nor prebuilt. -/
theorem whereClause_iff (hdeleted : r.workspace.deleted = false)
    (howner : r.workspace.ownerId ≠ prebuildsUserId) :
    r.whereClause (some r.build.buildNumber) now = .true ↔
      r.autostopClause now = .true ∨ r.autostartClause now = .true ∨
        r.dormantStopClause now = .true ∨ r.deletionClause now = .true ∨
          r.failedStopClause now = .true := by
  simp [JoinedRow.whereClause, hdeleted, howner]

theorem dormantStopClause_iff (hdormant : r.workspace.dormantAt = none) :
    r.dormantStopClause now = .true ↔ r.Unused now := by
  simp [JoinedRow.dormantStopClause, JoinedRow.Unused, hdormant]

/-- Only the rule for unused workspaces finds one with a zero deadline. -/
theorem JoinedRow.ZeroDeadline.whereClause_iff (h : r.ZeroDeadline)
    (hdeleted : r.workspace.deleted = false) (howner : r.workspace.ownerId ≠ prebuildsUserId) :
    r.whereClause (some r.build.buildNumber) now = .true ↔ r.Unused now := by
  rw [Workspaces.whereClause_iff hdeleted howner, dormantStopClause_iff h.dormantAt]
  simp [JoinedRow.autostopClause, JoinedRow.autostartClause, JoinedRow.deletionClause,
    JoinedRow.failedStopClause, h.jobStatus, h.dormantAt, h.transition, h.status, h.deadline]

theorem JoinedRow.ZeroDeadline.isEligibleForAutostop (h : r.ZeroDeadline)
    (hnow : goZeroTime < now) : isEligibleForAutostop r.transitionRow now = true :=
  isEligibleForAutostop_iff.mpr ⟨h.jobStatus, h.dormantAt, h.transition,
    .inr ⟨goZeroTime, h.deadline, by decide, hnow⟩⟩

/-- Schedules that fire every minute, in UTC. -/
@[reducible]
def everyMinute : Cron where
  Schedule := Unit
  Tz := Empty
  fromStr expr := if expr = "0 * * * * * *" then some () else none
  parseTz _ := none
  after _ _ t := some ((t / 60 + 1) * 60)
  fromTimestamp t := some t

/-- A workspace that runs, was just used, and has the given deadline. -/
def runningRow (deadline : Option OffsetDateTime) : JoinedRow where
  workspaceId := ⟨1⟩
  workspace :=
    { ownerId := ⟨2⟩
      templateId := ⟨3⟩
      autostartSchedule := none
      lastUsedAt := .unixEpoch
      dormantAt := none
      deletingAt := none
      nextStartAt := none
      deleted := false }
  buildId := ⟨4⟩
  build :=
    { workspaceId := ⟨1⟩
      buildNumber := 1
      transition := "start"
      jobId := some ⟨5⟩
      deadline
      maxDeadline := none }
  job :=
    { createdAt := .unixEpoch
      updatedAt := .unixEpoch
      startedAt := some .unixEpoch
      canceledAt := none
      completedAt := some .unixEpoch
      error := ""
      errorCode := ""
      organizationId := ⟨6⟩
      provisioner := .terraform
      tags := ∅
      workerId := some ⟨7⟩ }
  template :=
    { allowUserAutostart := true
      failureTtl := 0
      timeTilDormant := 0
      timeTilDormantAutodelete := 0
      activityBump := 3600 * 10 ^ 9 }
  owner :=
    { username := "owner"
      rbacRoles := []
      loginType := .password
      status := .active
      lastSeenAt := none
      deleted := false
      isSystem := false }

end Coderd.Workspaces
