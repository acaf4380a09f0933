import Coderd.Rbac.Policy
import Coderd.Workspaces.ActivityBump
import Coderd.Workspaces.BuildStore

namespace Coderd.Lifecycle

open Coderd.Foundation Coderd.Rbac
open Coderd.Builds (World StorageError CreateProvisionerJobInput CreateWorkspaceBuildInput)
open Coderd.Catalog (WorkspaceRow WorkspaceBuildRow)
open Coderd.CryptoKeys (OffsetDateTime)
open Coderd.Workspaces hiding WorkspaceRow WorkspaceBuildRow TemplateRow

/-! ## Store calls -/

/-- `dormant_at` alone. -/
def updateWorkspaceDormantAt (w : World) (workspaceId : Uuid) (dormantAt : Option OffsetDateTime)
    (now : OffsetDateTime) : Option WorkspaceRow × World :=
  match (w.workspaces.lookup workspaceId).filter (!·.deleted) with
  | none => (none, w)
  | some row =>
    let row := { row with
      dormantAt := dormantAt
      updatedAt := now }
    (some row, { w with workspaces := w.workspaces.insert workspaceId row })

/-- `deleting_at`, of a workspace that is dormant from `dormantAt` on; `none` where it leaves the
range of dates. -/
def deletingAfter (template : Builds.TemplateRow) :
    Option OffsetDateTime → Option (Option OffsetDateTime)
  | none => some none
  | some dormantAt =>
    if template.timeTilDormantAutodelete = 0 then some none
    else (dormantAt.add (wholeMilliseconds template.timeTilDormantAutodelete)).map some

/-- `dormant_at`, with `deleting_at` and `last_used_at`; not of a prebuilt workspace. -/
def updateWorkspaceDormantDeletingAt (w : World) (workspaceId : Uuid)
    (dormantAt : Option OffsetDateTime) (now : OffsetDateTime) :
    Except StorageError (Option WorkspaceRow) × World :=
  match (w.workspaces.lookup workspaceId).filter fun row =>
      !row.deleted && row.ownerId ≠ prebuildsUserId with
  | none => (.ok none, w)
  | some row =>
    match w.templates.lookup row.templateId with
    | none => (.ok none, w)
    | some template =>
      match deletingAfter template dormantAt with
      | none => (.error (.unavailable "timestamp out of range"), w)
      | some deletingAt =>
        let row := { row with
          dormantAt := dormantAt
          lastUsedAt := if dormantAt.isNone then now else row.lastUsedAt
          deletingAt := deletingAt
          updatedAt := now }
        (.ok (some row), { w with workspaces := w.workspaces.insert workspaceId row })

def softDeleteWorkspace (w : World) (workspaceId : Uuid) (now : OffsetDateTime) : Bool × World :=
  match (w.workspaces.lookup workspaceId).filter (!·.deleted) with
  | none => (false, w)
  | some row =>
    let row := { row with
      deleted := true
      updatedAt := now }
    (true, { w with workspaces := w.workspaces.insert workspaceId row })

def batchUpdateWorkspaceLastUsedAt (w : World) (ids : List Uuid) (lastUsedAt : OffsetDateTime) :
    World :=
  { w with
    workspaces := w.workspaces.mapValues fun id row =>
      if id ∈ ids then { row with lastUsedAt } else row }

/-- `deadline` and `max_deadline` of a build, whatever they are. -/
def updateWorkspaceBuildDeadline (w : World) (buildId : Uuid)
    (deadline maxDeadline : Option OffsetDateTime) (now : OffsetDateTime) : Bool × World :=
  ((w.builds.lookup buildId).isSome,
    { w with
      builds := w.builds.mapValues fun id row =>
        if id = buildId then
          { row with
            deadline := deadline
            maxDeadline := maxDeadline
            updatedAt := now }
        else row
      jobOfBuild := by
        intro id row jobId hrow hof
        rw [HashMap.lookup_mapValues, Option.map_eq_some_iff] at hrow
        obtain ⟨old, hold, rfl⟩ := hrow
        refine w.jobOfBuild id old jobId hold ?_
        split at hof <;> exact hof
      oneNumber := by
        intro id id' row row' hrow hrow' hof hnumber
        rw [HashMap.lookup_mapValues, Option.map_eq_some_iff] at hrow hrow'
        obtain ⟨old, hold, rfl⟩ := hrow
        obtain ⟨old', hold', rfl⟩ := hrow'
        refine w.oneNumber id id' old old' hold hold' ?_ ?_
        · split at hof <;> split at hof <;> exact hof
        · split at hnumber <;> split at hnumber <;> exact hnumber })

/-! ## What a worker does with a row -/

inductive Worker where
  | evaluate | dormancyCheck | activityBump
  deriving DecidableEq

/-- The write that a worker makes for a row. -/
inductive Write where
  | dormant (workspaceId : Uuid)
  | softDelete (workspaceId : Uuid)
  | deadline (buildId : Uuid) (deadline : OffsetDateTime) (maxDeadline : Option OffsetDateTime)
  deriving DecidableEq

inductive Decision where
  | skip
  | write (w : Write)
  | panicked

/-- Builds are not started from here. -/
def evaluateWorkspace [Cron] (ws : WorkspaceTransitionRow) (now : OffsetDateTime) :
    AutobuildAction × Decision :=
  match getNextTransition ws now with
  | none => (.none, .skip)
  | some (action, .dormancy) => (action, .write (.dormant ws.id))
  | some (action, .autodelete) => (action, .write (.softDelete ws.id))
  | some (action, _) => (action, .skip)

def checkDormancy (ws : WorkspaceTransitionRow) (now : OffsetDateTime) : Decision :=
  if ws.dormantAt.isSome then .skip
  else if !isEligibleForDormantStop ws now then .skip
  else .write (.dormant ws.id)

def bumpDeadline (ws : WorkspaceTransitionRow) (now : OffsetDateTime) : Decision :=
  match bump ws now with
  | .skip => .skip
  | .panicked => .panicked
  | .update newDeadline => .write (.deadline ws.buildId newDeadline ws.maxDeadline)

def Worker.decide [Cron] : Worker → WorkspaceTransitionRow → OffsetDateTime → Decision
  | evaluate, ws, now => (evaluateWorkspace ws now).2
  | dormancyCheck, ws, now => checkDormancy ws now
  | activityBump, ws, now => bumpDeadline ws now

/-- What a tick has counted. The two workers that return one number count only `transitions`. -/
structure AutobuildStats where
  transitions : Nat
  errors : Nat
  evaluated : Nat

namespace AutobuildStats

/-- After the row, with what its write returned: whether there was a row to write, or that it
failed. -/
def count [Cron] (stats : AutobuildStats) (worker : Worker) (ws : WorkspaceTransitionRow)
    (now : OffsetDateTime) (result : Option (Except StorageError Bool)) : AutobuildStats :=
  match worker, result with
  | .evaluate, some (.error _) =>
    { stats with
      errors := stats.errors + 1
      evaluated := stats.evaluated + 1 }
  | .evaluate, _ =>
    { stats with
      transitions := stats.transitions +
        if (evaluateWorkspace ws now).1 = .none then 0 else 1
      evaluated := stats.evaluated + 1 }
  | _, some (.ok true) => { stats with transitions := stats.transitions + 1 }
  | _, _ => stats

end AutobuildStats

/-- Down to the minute. -/
def truncateToMinute (t : OffsetDateTime) : OffsetDateTime where
  unixNanos := t.unixNanos / (60 * 10 ^ 9) * (60 * 10 ^ 9)
  ge_min := by
    have hmin := t.ge_min
    omega
  lt_max := by
    have hmax := t.lt_max
    omega

/-! ## Tasks -/

/-- RFC 3339, as the crate `time` reads it. -/
class Rfc3339 where
  parse : String → Option OffsetDateTime

inductive Response where
  | notFound (message : String)
  | forbidden (message : String)
  | validation (field detail : String)
  | workspace (id : Uuid) (row : WorkspaceRow)
  | noContent

def resourceNotFound : Response :=
  .notFound "Resource not found or you do not have access to this resource"

/-- A request or a tick, by the store call that it is about to make. -/
inductive Task where
  | putWorkspaceDormant (actor : Actor) (workspaceId : Uuid) (dormant : Bool)
  | updateDormant (workspaceId : Uuid) (dormantAt : Option OffsetDateTime)
  | putWorkspaceExtend (actor : Actor) (workspaceId : Uuid) (deadline : Option String)
  | findBuild (workspaceId : Uuid) (deadline : OffsetDateTime)
  | updateDeadline (buildId : Uuid) (deadline maxDeadline : Option OffsetDateTime)
  | listing (worker : Worker) (now : OffsetDateTime)
  | working (worker : Worker) (now : OffsetDateTime) (rows : List WorkspaceTransitionRow)
      (stats : AutobuildStats)
  | answered (response : Response)
  | ended (stats : AutobuildStats)
  | failed (e : StorageError)
  | panicked

inductive Request where
  | putWorkspaceDormant (actor : Actor) (workspaceId : Uuid) (dormant : Option Bool)
  | putWorkspaceExtend (actor : Actor) (workspaceId : Uuid) (deadline : Option String)
  | tick (worker : Worker) (now : OffsetDateTime)

/-- The autobuild executor works with whole minutes. -/
def enter : Request → Task
  | .putWorkspaceDormant actor workspaceId dormant =>
    .putWorkspaceDormant actor workspaceId (dormant.getD false)
  | .putWorkspaceExtend actor workspaceId deadline =>
    .putWorkspaceExtend actor workspaceId deadline
  | .tick .evaluate now => .listing .evaluate (truncateToMinute now)
  | .tick worker now => .listing worker now

/-- What the code does not decide: the clock, which of the workspaces of a tick comes next where
they are worked on at the same time, and the error of a call that fails without effect. -/
structure Choice where
  now : OffsetDateTime
  next : Nat
  fails : Option StorageError

/-- The row that is worked on next. -/
def Worker.nextRow : Worker → List WorkspaceTransitionRow → Choice → Nat
  | evaluate, rows, choice => choice.next % rows.length
  | _, _, _ => 0

/-- `deadline`, no later than the build allows. -/
def clampDeadline (deadline : OffsetDateTime) (maxDeadline : Option OffsetDateTime) :
    OffsetDateTime :=
  match maxDeadline with
  | some max => if max < deadline then max else deadline
  | none => deadline

def perform (w : World) (now tick : OffsetDateTime) : Write → Except StorageError Bool × World
  | .dormant workspaceId =>
    let result := updateWorkspaceDormantDeletingAt w workspaceId (some tick) now
    (result.1.map (·.isSome), result.2)
  | .softDelete workspaceId =>
    let result := softDeleteWorkspace w workspaceId now
    (.ok result.1, result.2)
  | .deadline buildId deadline maxDeadline =>
    let result := updateWorkspaceBuildDeadline w buildId (some deadline) maxDeadline now
    (.ok result.1, result.2)

section

variable [Rfc3339] [UuidText] (w : World) (choice : Choice)

def advanceDormant (actor : Actor) (workspaceId : Uuid) (dormant : Bool) : Task :=
  match (w.workspaces.lookup workspaceId).filter (!·.deleted) with
  | none => .answered resourceNotFound
  | some workspace =>
    match authorize actor .update ((((Object.new .workspaceDormant).withId workspaceId).withOwner
        workspace.ownerId).inOrg workspace.organizationId) with
    | .error _ => .answered (.forbidden "You are not authorized to update workspace dormancy.")
    | .ok () => .updateDormant workspaceId (if dormant then some choice.now else none)

def advanceExtend (actor : Actor) (workspaceId : Uuid) (deadline : Option String) : Task :=
  match (w.workspaces.lookup workspaceId).filter (!·.deleted) with
  | none => .answered resourceNotFound
  | some workspace =>
    match authorize actor .update ((((Object.new .workspace).withId workspaceId).withOwner
        workspace.ownerId).inOrg workspace.organizationId) with
    | .error _ => .answered (.forbidden "You are not authorized to update this workspace.")
    | .ok () =>
      match deadline with
      | none => .answered (.validation "deadline" "Deadline is required.")
      | some text =>
        match Rfc3339.parse text with
        | none => .answered (.validation "deadline" "Invalid RFC3339 timestamp.")
        | some deadline => .findBuild workspaceId deadline

/-- The rest of a tick after the row at `i`, whose write failed or had no row to write, or not. -/
def advanceWorking [Cron] (worker : Worker) (now : OffsetDateTime)
    (rows : List WorkspaceTransitionRow) (stats : AutobuildStats) (ws : WorkspaceTransitionRow)
    (i : Nat) : World × Task :=
  match worker.decide ws now with
  | .panicked => (w, .panicked)
  | .skip => (w, .working worker now (rows.eraseIdx i) (stats.count worker ws now none))
  | .write write =>
    match choice.fails with
    | some e =>
      (w, .working worker now (rows.eraseIdx i) (stats.count worker ws now (some (.error e))))
    | none =>
      let result := perform w choice.now now write
      (result.2, .working worker now (rows.eraseIdx i) (stats.count worker ws now (some result.1)))

/-- One store call, or one row of a tick. -/
def advance [Cron] : Task → Option (World × Task)
  | .putWorkspaceDormant actor workspaceId dormant =>
    some (w, choice.fails.elim (advanceDormant w choice actor workspaceId dormant) .failed)
  | .updateDormant workspaceId dormantAt =>
    match choice.fails with
    | some e => some (w, .failed e)
    | none =>
      match updateWorkspaceDormantAt w workspaceId dormantAt choice.now with
      | (none, w) => some (w, .answered resourceNotFound)
      | (some row, w) => some (w, .answered (.workspace workspaceId row))
  | .putWorkspaceExtend actor workspaceId deadline =>
    some (w, choice.fails.elim (advanceExtend w actor workspaceId deadline) .failed)
  | .findBuild workspaceId deadline =>
    match choice.fails, Builds.findLatestWorkspaceBuild w workspaceId with
    | some e, _ | none, .error e => some (w, .failed e)
    | none, .ok none => some (w, .answered (.notFound "No build found for workspace."))
    | none, .ok (some build) =>
      some (w, .updateDeadline build.id (some (clampDeadline deadline build.maxDeadline))
        build.maxDeadline)
  | .updateDeadline buildId deadline maxDeadline =>
    match choice.fails with
    | some e => some (w, .failed e)
    | none =>
      some ((updateWorkspaceBuildDeadline w buildId deadline maxDeadline choice.now).2,
        .answered .noContent)
  | .listing worker now =>
    match choice.fails with
    | some e => some (w, .failed e)
    | none =>
      some (w, .working worker now (w.database.getWorkspacesEligibleForTransition now) ⟨0, 0, 0⟩)
  | .working worker now rows stats =>
    match rows[worker.nextRow rows choice]? with
    | none => some (w, .ended stats)
    | some ws =>
      some (advanceWorking w choice worker now rows stats ws (worker.nextRow rows choice))
  | _ => none

end

/-- What happens besides: usage is flushed, a job and a build are inserted. -/
inductive Event where
  | flush (ids : List Uuid) (lastUsedAt : OffsetDateTime)
  | createJob (input : CreateProvisionerJobInput) (choice : Builds.Choice)
  | createBuild (input : CreateWorkspaceBuildInput) (choice : Builds.Choice)

def after (w : World) : Event → World
  | .flush ids lastUsedAt => batchUpdateWorkspaceLastUsedAt w ids lastUsedAt
  | .createJob input choice => (Builds.createProvisionerJob choice w input).2
  | .createBuild input choice => (Builds.insertWorkspaceBuild choice w input).2

section

variable [Rfc3339] [UuidText] [Cron]

@[reducible] def lifecycle : Program World Task Request Choice Event where
  enter := enter
  advance w t choice := advance w choice t
  outside := after

abbrev poolAfter (w : World) (moves : List (Move Request Choice Event)) : Pool World Task :=
  lifecycle.run { shared := w, tasks := [] } moves

end

/-! ## What the workers decide -/

section

variable [Cron] {worker : Worker} {ws : WorkspaceTransitionRow} {now : OffsetDateTime}

theorem transition_cases {action : AutobuildAction} {reason : BuildReason}
    (h : getNextTransition ws now = some (action, reason)) :
    (reason = .dormancy → isEligibleForDormantStop ws now = true) ∧
      (reason = .autodelete → isEligibleForDelete ws now = true) := by
  unfold getNextTransition at h
  split at h
  · cases h
    exact ⟨nofun, nofun⟩
  · split at h
    · cases h
      exact ⟨nofun, nofun⟩
    · split at h
      · cases h
        exact ⟨nofun, nofun⟩
      · split at h
        · rename_i hdormant
          split at h <;> cases h <;> exact ⟨fun _ => hdormant, nofun⟩
        · split at h
          · rename_i hdelete
            cases h
            exact ⟨nofun, fun _ => hdelete⟩
          · cases h

/-- A workspace is marked dormant if the rule holds of the row. -/
theorem Worker.decide_dormant {id : Uuid} (h : worker.decide ws now = .write (.dormant id)) :
    ws.id = id ∧ isEligibleForDormantStop ws now = true := by
  cases worker with
  | evaluate =>
    simp only [Worker.decide, evaluateWorkspace] at h
    split at h <;> cases h
    rename_i htransition
    exact ⟨rfl, (transition_cases htransition).1 rfl⟩
  | dormancyCheck =>
    simp only [Worker.decide, checkDormancy] at h
    split at h
    · cases h
    · split at h
      · cases h
      · rename_i heligible
        cases h
        exact ⟨rfl, by simpa using heligible⟩
  | activityBump =>
    simp only [Worker.decide, bumpDeadline] at h
    split at h <;> cases h

theorem Worker.decide_softDelete {id : Uuid} (h : worker.decide ws now = .write (.softDelete id)) :
    ws.id = id ∧ isEligibleForDelete ws now = true := by
  cases worker with
  | evaluate =>
    simp only [Worker.decide, evaluateWorkspace] at h
    split at h <;> cases h
    rename_i htransition
    exact ⟨rfl, (transition_cases htransition).2 rfl⟩
  | dormancyCheck =>
    simp only [Worker.decide, checkDormancy] at h
    split at h
    · cases h
    · split at h <;> cases h
  | activityBump =>
    simp only [Worker.decide, bumpDeadline] at h
    split at h <;> cases h

theorem Worker.decide_deadline {buildId : Uuid} {deadline : OffsetDateTime}
    {maxDeadline : Option OffsetDateTime}
    (h : worker.decide ws now = .write (.deadline buildId deadline maxDeadline)) :
    bump ws now = .update deadline ∧ ws.buildId = buildId ∧ ws.maxDeadline = maxDeadline := by
  cases worker with
  | evaluate =>
    simp only [Worker.decide, evaluateWorkspace] at h
    split at h <;> cases h
  | dormancyCheck =>
    simp only [Worker.decide, checkDormancy] at h
    split at h
    · cases h
    · split at h <;> cases h
  | activityBump =>
    simp only [Worker.decide, bumpDeadline] at h
    split at h <;> cases h
    rename_i hbump
    exact ⟨hbump, rfl, rfl⟩

end

/-! ## What a step can do -/

section

variable [Rfc3339] [UuidText] [Cron] {w w' : World} {choice : Choice}

/-- The worker is about to make the write for the row that it works on next. -/
structure Task.Makes (t : Task) (choice : Choice) (worker : Worker) (now : OffsetDateTime)
    (ws : WorkspaceTransitionRow) (write : Write) : Prop where
  next : ∃ rows stats, t = .working worker now rows stats ∧
    rows[worker.nextRow rows choice]? = some ws
  decides : worker.decide ws now = .write write

/-- The write that the task is about to make, with the instant of its tick. -/
def Task.making (choice : Choice) : Task → Option (OffsetDateTime × Write)
  | .working worker now rows _ =>
    rows[worker.nextRow rows choice]?.bind fun ws =>
      match worker.decide ws now with
      | .write write => some (now, write)
      | _ => none
  | _ => none

omit [Rfc3339] [UuidText] in
theorem Task.makes_of_making {t : Task} {now : OffsetDateTime} {write : Write}
    (h : t.making choice = some (now, write)) :
    ∃ worker ws, t.Makes choice worker now ws write := by
  cases t with
  | working worker now' rows stats =>
    obtain ⟨ws, hws, hdecide⟩ := Option.bind_eq_some_iff.mp h
    split at hdecide
    · rename_i hwrite
      cases hdecide
      exact ⟨worker, ws, ⟨rows, stats, rfl, hws⟩, hwrite⟩
    · cases hdecide
  | _ => cases h

/-- The tables after a step: as before, or with the one write of the task. -/
inductive Effect (w : World) (choice : Choice) : Task → World → Prop
  | none (t : Task) : Effect w choice t w
  | dormantAt {id : Uuid} {dormantAt : Option OffsetDateTime} {row : WorkspaceRow}
      (hfails : choice.fails = .none) (hrow : w.workspaces.lookup id = some row)
      (hdeleted : row.deleted = false) :
    Effect w choice (.updateDormant id dormantAt)
      { w with
        workspaces := w.workspaces.insert id { row with
          dormantAt := dormantAt
          updatedAt := choice.now } }
  | sleep {t : Task} {worker : Worker} {now : OffsetDateTime} {ws : WorkspaceTransitionRow}
      {id : Uuid} {row : WorkspaceRow} {template : Builds.TemplateRow}
      {deletingAt : Option OffsetDateTime} (hfails : choice.fails = .none)
      (hmakes : t.Makes choice worker now ws (.dormant id))
      (hrow : w.workspaces.lookup id = some row) (hdeleted : row.deleted = false)
      (howner : row.ownerId ≠ prebuildsUserId)
      (htemplate : w.templates.lookup row.templateId = some template)
      (hdeleting : deletingAfter template (some now) = some deletingAt) :
    Effect w choice t
      { w with
        workspaces := w.workspaces.insert id { row with
          dormantAt := some now
          deletingAt := deletingAt
          updatedAt := choice.now } }
  | softDelete {t : Task} {worker : Worker} {now : OffsetDateTime} {ws : WorkspaceTransitionRow}
      {id : Uuid} {row : WorkspaceRow} (hfails : choice.fails = .none)
      (hmakes : t.Makes choice worker now ws (.softDelete id))
      (hrow : w.workspaces.lookup id = some row) (hdeleted : row.deleted = false) :
    Effect w choice t
      { w with
        workspaces := w.workspaces.insert id { row with
          deleted := true
          updatedAt := choice.now } }
  | extend {buildId : Uuid} {deadline maxDeadline : Option OffsetDateTime}
      (hfails : choice.fails = .none) :
    Effect w choice (.updateDeadline buildId deadline maxDeadline)
      (updateWorkspaceBuildDeadline w buildId deadline maxDeadline choice.now).2
  | bump {t : Task} {worker : Worker} {now : OffsetDateTime} {ws : WorkspaceTransitionRow}
      {buildId : Uuid} {deadline : OffsetDateTime} {maxDeadline : Option OffsetDateTime}
      (hfails : choice.fails = .none)
      (hmakes : t.Makes choice worker now ws (.deadline buildId deadline maxDeadline)) :
    Effect w choice t
      (updateWorkspaceBuildDeadline w buildId (some deadline) maxDeadline choice.now).2

omit [Rfc3339] [UuidText] in
theorem effect_of_write {t : Task} {worker : Worker} {now : OffsetDateTime}
    {ws : WorkspaceTransitionRow} {write : Write} (hfails : choice.fails = none)
    (hmakes : t.Makes choice worker now ws write) :
    Effect w choice t (perform w choice.now now write).2 := by
  cases write with
  | dormant id =>
    simp only [perform, updateWorkspaceDormantDeletingAt]
    split
    · exact .none t
    · rename_i row hrow
      obtain ⟨hrow, hfilter⟩ := Option.filter_eq_some_iff.mp hrow
      simp only [Bool.and_eq_true, Bool.not_eq_true', decide_eq_true_eq] at hfilter
      split
      · exact .none t
      · rename_i template htemplate
        split
        · exact .none t
        · rename_i deletingAt hdeleting
          exact .sleep hfails hmakes hrow hfilter.1 hfilter.2 htemplate hdeleting
  | softDelete id =>
    simp only [perform, softDeleteWorkspace]
    split
    · exact .none t
    · rename_i row hrow
      obtain ⟨hrow, hfilter⟩ := Option.filter_eq_some_iff.mp hrow
      exact .softDelete hfails hmakes hrow (by simpa using hfilter)
  | deadline buildId deadline maxDeadline => exact .bump hfails hmakes

theorem effect_of_advance {t t' : Task} (h : advance w choice t = some (w', t')) :
    Effect w choice t w' := by
  cases t with
  | updateDormant id dormantAt =>
    simp only [advance] at h
    split at h
    · cases h
      exact .none _
    · rename_i hfails
      simp only [updateWorkspaceDormantAt] at h
      split at h
      · rename_i hnone
        split at hnone
        · cases hnone
          cases h
          exact .none _
        · cases hnone
      · rename_i hsome
        split at hsome
        · cases hsome
        · rename_i row hrow
          obtain ⟨hrow, hfilter⟩ := Option.filter_eq_some_iff.mp hrow
          cases hsome
          cases h
          exact .dormantAt hfails hrow (by simpa using hfilter)
  | findBuild id deadline =>
    simp only [advance] at h
    split at h <;> cases h <;> exact .none _
  | updateDeadline buildId deadline maxDeadline =>
    simp only [advance] at h
    split at h
    · cases h
      exact .none _
    · rename_i hfails
      cases h
      exact .extend hfails
  | listing worker now =>
    simp only [advance] at h
    split at h <;> cases h <;> exact .none _
  | working worker now rows stats =>
    simp only [advance] at h
    split at h
    · cases h
      exact .none _
    · rename_i ws hws
      simp only [advanceWorking] at h
      split at h
      · cases h
        exact .none _
      · cases h
        exact .none _
      · rename_i write hdecide
        split at h
        · cases h
          exact .none _
        · rename_i hfails
          cases h
          exact effect_of_write hfails ⟨⟨rows, stats, rfl, hws⟩, hdecide⟩
  | _ =>
    cases h
    try exact .none _

def Task.works : Task → Bool
  | .working _ _ _ _ => true
  | _ => false

omit [Rfc3339] [Cron] in
theorem works_advanceDormant {actor : Actor} {id : Uuid} {dormant : Bool} :
    (advanceDormant w choice actor id dormant).works = false := by
  unfold advanceDormant
  split
  · rfl
  · split <;> rfl

omit [Cron] in
theorem works_advanceExtend {actor : Actor} {id : Uuid} {deadline : Option String} :
    (advanceExtend w actor id deadline).works = false := by
  unfold advanceExtend
  split
  · rfl
  · split
    · rfl
    · split
      · rfl
      · split <;> rfl

/-- A task that works on rows has them from its listing, and has done with some. -/
theorem working_of_advance {t : Task} {worker : Worker} {now : OffsetDateTime}
    {rows : List WorkspaceTransitionRow} {stats : AutobuildStats}
    (h : advance w choice t = some (w', .working worker now rows stats)) :
    (t = .listing worker now ∧ w' = w ∧
      rows = w.database.getWorkspacesEligibleForTransition now) ∨
      ∃ rows' stats', t = .working worker now rows' stats' ∧
        rows = rows'.eraseIdx (worker.nextRow rows' choice) := by
  cases t with
  | putWorkspaceDormant actor id dormant =>
    have htask := congrArg (fun next => next.2.works) (Option.some.inj h)
    cases hfails : choice.fails with
    | some e => simp [hfails, Task.works] at htask
    | none =>
      simp only [hfails, Option.elim_none, works_advanceDormant] at htask
      simp [Task.works] at htask
  | putWorkspaceExtend actor id deadline =>
    have htask := congrArg (fun next => next.2.works) (Option.some.inj h)
    cases hfails : choice.fails with
    | some e => simp [hfails, Task.works] at htask
    | none =>
      simp only [hfails, Option.elim_none, works_advanceExtend] at htask
      simp [Task.works] at htask
  | updateDormant id dormantAt =>
    simp only [advance] at h
    split at h
    · cases h
    · split at h <;> cases h
  | findBuild id deadline =>
    simp only [advance] at h
    split at h <;> cases h
  | updateDeadline buildId deadline maxDeadline =>
    simp only [advance] at h
    split at h <;> cases h
  | listing worker' now' =>
    simp only [advance] at h
    split at h
    · cases h
    · cases h
      exact .inl ⟨rfl, rfl, rfl⟩
  | working worker' now' rows' stats' =>
    simp only [advance] at h
    split at h
    · cases h
    · simp only [advanceWorking] at h
      split at h
      · cases h
      · cases h
        exact .inr ⟨rows', stats', rfl, rfl⟩
      · split at h
        · cases h
          exact .inr ⟨rows', stats', rfl, rfl⟩
        · cases h
          exact .inr ⟨rows', stats', rfl, rfl⟩
  | _ => cases h

end

end Coderd.Lifecycle
