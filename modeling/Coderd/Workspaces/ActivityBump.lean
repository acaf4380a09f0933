import Mathlib.Data.List.TakeWhile
import Coderd.Workspaces.Autobuild

namespace Coderd.Workspaces

open Coderd.Foundation
open Coderd.CryptoKeys (OffsetDateTime)
open Coderd.Provisioner (ProvisionerJobRow)

/-! ## The worker -/

/-- What the worker does with a row: nothing, or an update of the build. Arithmetic that leaves
the range of dates panics. -/
inductive Bump where
  | skip
  | update (deadline : OffsetDateTime)
  | panicked
  deriving DecidableEq

/-- A deadline, when it is set to something else than the epoch. -/
def setDeadline : Option OffsetDateTime → Option OffsetDateTime
  | some deadline => if deadline ≠ .unixEpoch then some deadline else none
  | none => none

/-- The greatest deadline that the policy of the template allows. -/
def clampToMax (maxDeadline : Option OffsetDateTime) (newDeadline : OffsetDateTime) :
    OffsetDateTime :=
  match maxDeadline with
  | some max => if max ≠ .unixEpoch ∧ max < newDeadline then max else newDeadline
  | none => newDeadline

def bump (ws : WorkspaceTransitionRow) (now : OffsetDateTime) : Bump :=
  if ws.buildTransition ≠ "start" then .skip
  else if ws.jobStatus ≠ .succeeded then .skip
  else if ws.activityBumpNs ≤ 0 then .skip
  else
    match now.add (-ws.activityBumpNs) with
    | none => .panicked
    | some activityThreshold =>
      if ws.lastUsedAt < activityThreshold then .skip
      else
        match setDeadline ws.buildDeadline with
        | none => .skip
        | some currentDeadline =>
          match now.add ws.activityBumpNs with
          | none => .panicked
          | some extended =>
            let newDeadline := clampToMax ws.maxDeadline extended
            -- a deadline is never brought forward
            if newDeadline ≤ currentDeadline then .skip else .update newDeadline

/-- The loop over the rows, with the number of builds that were updated; `none` after a panic. -/
def bumpLoop (now : OffsetDateTime) :
    List WorkspaceTransitionRow → Database → Nat → Database × Option Nat
  | [], db, bumped => (db, some bumped)
  | ws :: workspaces, db, bumped =>
    match bump ws now with
    | .skip => bumpLoop now workspaces db bumped
    | .panicked => (db, none)
    | .update newDeadline =>
      match db.updateWorkspaceBuildDeadline ws.buildId (some newDeadline) ws.maxDeadline with
      | (db, true) => bumpLoop now workspaces db (bumped + 1)
      | (db, false) => bumpLoop now workspaces db bumped

def activityBumpOnce (db : Database) (now : OffsetDateTime) : Database × Option Nat :=
  bumpLoop now (db.getWorkspacesEligibleForTransition now) db 0

/-! ## What is claimed -/

/-- A running workspace that was used within the last `activity_bump`, and has a deadline. -/
structure Active (db : Database) (now : OffsetDateTime) (buildId : Uuid)
    (build : WorkspaceBuildRow) (workspace : WorkspaceRow) (template : TemplateRow)
    (deadline : OffsetDateTime) : Prop where
  buildRow : db.builds.lookup buildId = some build
  workspaceRow : db.workspaces.lookup build.workspaceId = some workspace
  deleted : workspace.deleted = false
  owner : workspace.ownerId ≠ prebuildsUserId
  latest : ∀ id other, db.builds.lookup id = some other →
    other.workspaceId = build.workspaceId → other.buildNumber ≤ build.buildNumber
  transition : build.transition = "start"
  succeeded : ∃ job, build.jobId.bind db.jobs.lookup = some job ∧ job.jobStatus = .succeeded
  templateRow : db.templates.lookup workspace.templateId = some template
  activityBump : 0 < template.activityBump
  used : now.unixNanos - template.activityBump ≤ workspace.lastUsedAt.unixNanos
  deadlineSet : setDeadline build.deadline = some deadline

def atMost (limit : Option OffsetDateTime) (t : Int) : Int :=
  match limit with
  | some max => min t max.unixNanos
  | none => t

/-- `now + activity_bump`, or `max_deadline` when that is set and comes before. -/
def extended (now : OffsetDateTime) (build : WorkspaceBuildRow) (template : TemplateRow) : Int :=
  atMost (setDeadline build.maxDeadline) (now.unixNanos + template.activityBump)

/-- The deadlines of active workspaces are extended, and nothing else is. -/
structure KeepsRunning (db : Database) (now : OffsetDateTime) : Prop where
  active : ∀ buildId build workspace template deadline,
    Active db now buildId build workspace template deadline →
      ∃ build' deadline', (activityBumpOnce db now).1.builds.lookup buildId = some build' ∧
        build'.deadline = some deadline' ∧
        deadline'.unixNanos = max deadline.unixNanos (extended now build template) ∧
        build'.maxDeadline = build.maxDeadline
  others : ∀ buildId build, db.builds.lookup buildId = some build →
    (¬ ∃ workspace template deadline,
        Active db now buildId build workspace template deadline) →
      ∃ build', (activityBumpOnce db now).1.builds.lookup buildId = some build' ∧
        build'.deadline = build.deadline ∧ build'.maxDeadline = build.maxDeadline

/-- A deadline stays, or grows within the policy of the template. -/
def Grown (build build' : WorkspaceBuildRow) : Prop :=
  build'.maxDeadline = build.maxDeadline ∧
    (build'.deadline = build.deadline ∨
      ∃ deadline deadline', setDeadline build.deadline = some deadline ∧
        build'.deadline = some deadline' ∧ deadline < deadline' ∧
        ∀ max, setDeadline build.maxDeadline = some max → deadline' ≤ max)

/-- Whether `now - activity_bump` or `now + activity_bump` leaves the range of dates where it is
computed. -/
def JoinedRow.overflows (r : JoinedRow) (now : OffsetDateTime) : Bool :=
  decide (r.build.transition = "start") && decide (r.job.jobStatus = .succeeded) &&
    decide (0 < r.template.activityBump) &&
    ((now.add (-r.template.activityBump)).isNone ||
      (decide (now.unixNanos - r.template.activityBump ≤ r.workspace.lastUsedAt.unixNanos) &&
        (setDeadline r.build.deadline).isSome && (now.add r.template.activityBump).isNone))

/-- Every active workspace whose deadline is to be extended is among the rows of the query that
come before the first overflow. -/
def Drawn (db : Database) (now : OffsetDateTime) : Prop :=
  ∀ buildId build workspace template deadline,
    Active db now buildId build workspace template deadline →
      deadline.unixNanos < extended now build template →
        ∃ r ∈ (db.eligibleRows now).takeWhile fun r => !r.overflows now, r.buildId = buildId

/-! ## One row -/

theorem add_eq_some {t t' : OffsetDateTime} {d : Int} :
    t.add d = some t' ↔ t'.unixNanos = t.unixNanos + d := by
  unfold OffsetDateTime.add
  split
  · rename_i hrange
    constructor
    · intro h
      cases h
      rfl
    · intro h
      exact congrArg some (OffsetDateTime.unixNanos_injective h.symm)
  · rename_i hrange
    constructor
    · intro h
      cases h
    · intro h
      exact absurd ⟨h ▸ t'.ge_min, h ▸ t'.lt_max⟩ hrange

variable {ws : WorkspaceTransitionRow} {now : OffsetDateTime}

theorem bump_eq_update {deadline : OffsetDateTime} : bump ws now = .update deadline ↔
    ws.buildTransition = "start" ∧ ws.jobStatus = .succeeded ∧ 0 < ws.activityBumpNs ∧
      ∃ activityThreshold currentDeadline extended,
        now.add (-ws.activityBumpNs) = some activityThreshold ∧
        activityThreshold ≤ ws.lastUsedAt ∧
        setDeadline ws.buildDeadline = some currentDeadline ∧
        now.add ws.activityBumpNs = some extended ∧
        currentDeadline < clampToMax ws.maxDeadline extended ∧
        deadline = clampToMax ws.maxDeadline extended := by
  by_cases hstart : ws.buildTransition = "start"
  · by_cases hjob : ws.jobStatus = .succeeded
    · by_cases hbump : 0 < ws.activityBumpNs
      · simp only [bump, hstart, hjob, hbump, Int.not_le.mpr hbump, ne_eq, not_true_eq_false,
          if_false, true_and]
        cases hthreshold : now.add (-ws.activityBumpNs) with
        | none => simp
        | some activityThreshold =>
          by_cases hused : ws.lastUsedAt < activityThreshold
          · simp [hused]
          · cases hcurrent : setDeadline ws.buildDeadline with
            | none => simp [hused]
            | some currentDeadline =>
              cases hextended : now.add ws.activityBumpNs with
              | none => simp [hused]
              | some extended =>
                by_cases hlater : clampToMax ws.maxDeadline extended ≤ currentDeadline
                · simp [hused, hlater]
                · simp [hused, hlater, not_lt.mp hused, not_le.mp hlater, eq_comm]
      · simp [bump, hstart, hjob, hbump, Int.not_lt.mp hbump]
    · simp [bump, hstart, hjob]
  · simp [bump, hstart]

theorem bump_eq_panicked (r : JoinedRow) (now : OffsetDateTime) :
    bump r.transitionRow now = .panicked ↔ r.overflows now = true := by
  by_cases hstart : r.build.transition = "start"
  · by_cases hjob : r.job.jobStatus = .succeeded
    · by_cases hbump : 0 < r.template.activityBump
      · simp only [bump, JoinedRow.transitionRow, JoinedRow.overflows, hstart, hjob, hbump,
          Int.not_le.mpr hbump, ne_eq, not_true_eq_false, if_false, decide_true, Bool.true_and]
        cases hthreshold : now.add (-r.template.activityBump) with
        | none => simp
        | some activityThreshold =>
          have hthreshold := add_eq_some.mp hthreshold
          have hused : ¬ r.workspace.lastUsedAt < activityThreshold ↔
              now.unixNanos - r.template.activityBump ≤ r.workspace.lastUsedAt.unixNanos := by
            rw [not_lt, Int.sub_eq_add_neg, ← hthreshold]
            rfl
          by_cases hlate : r.workspace.lastUsedAt < activityThreshold
          · simp [hlate, ← hused]
          · cases hcurrent : setDeadline r.build.deadline with
            | none => simp [hlate]
            | some currentDeadline =>
              cases hextended : now.add r.template.activityBump with
              | none => simp [hlate, hused.mp hlate]
              | some extended =>
                simp only [hlate, if_false, Option.isNone_some, Option.isSome_some, Bool.and_false,
                  Bool.or_false, Bool.false_eq_true, iff_false]
                split <;> simp
      · simp [bump, JoinedRow.overflows, JoinedRow.transitionRow, hstart, hjob, hbump,
          Int.not_lt.mp hbump]
    · simp [bump, JoinedRow.overflows, JoinedRow.transitionRow, hstart, hjob]
  · simp [bump, JoinedRow.overflows, JoinedRow.transitionRow, hstart]

theorem unixNanos_clampToMax (maxDeadline : Option OffsetDateTime)
    (newDeadline : OffsetDateTime) :
    (clampToMax maxDeadline newDeadline).unixNanos =
      atMost (setDeadline maxDeadline) newDeadline.unixNanos := by
  cases maxDeadline with
  | none => rfl
  | some max =>
    by_cases hset : max = .unixEpoch
    · simp [clampToMax, setDeadline, atMost, hset]
    · by_cases hlt : max < newDeadline
      · have hle : max.unixNanos ≤ newDeadline.unixNanos := le_of_lt hlt
        simp [clampToMax, setDeadline, atMost, hset, hlt, hle]
      · have hle : newDeadline.unixNanos ≤ max.unixNanos := not_lt.mp hlt
        simp [clampToMax, setDeadline, atMost, hset, hlt, hle]

/-! ## The loop -/

/-- What the loop does with a row that it gets to. -/
def applyBump (now : OffsetDateTime) (db : Database) (ws : WorkspaceTransitionRow) : Database :=
  match bump ws now with
  | .update newDeadline =>
    (db.updateWorkspaceBuildDeadline ws.buildId (some newDeadline) ws.maxDeadline).1
  | _ => db

theorem bumpLoop_eq (now : OffsetDateTime) (workspaces : List WorkspaceTransitionRow)
    (db : Database) (bumped : Nat) :
    (bumpLoop now workspaces db bumped).1 =
      (workspaces.takeWhile fun ws => bump ws now ≠ .panicked).foldl (applyBump now) db := by
  induction workspaces generalizing db bumped with
  | nil => rfl
  | cons ws workspaces ih =>
    cases hbump : bump ws now with
    | skip => simp [bumpLoop, hbump, ih, applyBump]
    | panicked => simp [bumpLoop, hbump]
    | update newDeadline =>
      simp only [bumpLoop, hbump, ne_eq, reduceCtorEq, not_false_eq_true, decide_true,
        List.takeWhile_cons_of_pos, List.foldl_cons, applyBump]
      split <;> rename_i heq <;> rw [ih, heq]

theorem lookup_applyBump (now : OffsetDateTime) (db : Database) (ws : WorkspaceTransitionRow)
    {id : Uuid} (h : ∀ newDeadline, bump ws now = .update newDeadline → ws.buildId ≠ id) :
    (applyBump now db ws).builds.lookup id = db.builds.lookup id := by
  unfold applyBump
  split
  · rename_i newDeadline hbump
    rw [Database.lookup_updateWorkspaceBuildDeadline, if_neg (h newDeadline hbump).symm]
  · rfl

theorem lookup_foldl_of_forall {workspaces : List WorkspaceTransitionRow} {db : Database}
    {id : Uuid} (h : ∀ ws ∈ workspaces, ∀ newDeadline, bump ws now = .update newDeadline →
      ws.buildId ≠ id) :
    (workspaces.foldl (applyBump now) db).builds.lookup id = db.builds.lookup id := by
  induction workspaces generalizing db with
  | nil => rfl
  | cons ws workspaces ih =>
    rw [List.foldl_cons, ih fun ws' hws' => h ws' (List.mem_cons_of_mem _ hws'),
      lookup_applyBump now db ws (h ws List.mem_cons_self)]

/-- A row of the build that the loop gets to decides its deadline. -/
theorem lookup_foldl_of_mem (db : Database) {workspaces : List WorkspaceTransitionRow}
    {ws : WorkspaceTransitionRow} {newDeadline : OffsetDateTime} (hws : ws ∈ workspaces)
    (hbump : bump ws now = .update newDeadline)
    (hsame : ∀ ws' ∈ workspaces, ws'.buildId = ws.buildId → ws' = ws) :
    (workspaces.foldl (applyBump now) db).builds.lookup ws.buildId =
      (db.builds.lookup ws.buildId).map fun build =>
        { build with deadline := some newDeadline, maxDeadline := ws.maxDeadline } := by
  induction workspaces generalizing db with
  | nil => cases hws
  | cons first workspaces ih =>
    have hrest : ∀ ws' ∈ workspaces, ws'.buildId = ws.buildId → ws' = ws :=
      fun ws' hws' => hsame ws' (List.mem_cons_of_mem _ hws')
    rw [List.foldl_cons]
    by_cases hmem : ws ∈ workspaces
    · -- the row comes again, and writes the same once more
      rw [ih _ hmem hrest]
      by_cases hfirst : first.buildId = ws.buildId
      · obtain rfl := hsame first List.mem_cons_self hfirst
        rw [applyBump, hbump, Database.lookup_updateWorkspaceBuildDeadline, if_pos rfl,
          Option.map_map]
        rfl
      · rw [lookup_applyBump now db first fun _ _ => hfirst]
    · obtain rfl : ws = first := (List.mem_cons.mp hws).resolve_right hmem
      rw [lookup_foldl_of_forall, applyBump, hbump]
      · rw [Database.lookup_updateWorkspaceBuildDeadline, if_pos rfl]
      · rintro ws' hws' - - heq
        exact hmem (hrest ws' hws' heq ▸ hws')

/-! ## Rows of the query and active workspaces -/

variable {db : Database} {r r' : JoinedRow}

/-- A build has at most one row. -/
theorem join_ext (hr : r ∈ db.join) (hr' : r' ∈ db.join) (hid : r'.buildId = r.buildId) :
    r' = r := by
  obtain ⟨hworkspace, hbuild, hof, hjob, htemplate, howner⟩ := Database.mem_join.mp hr
  obtain ⟨hworkspace', hbuild', hof', hjob', htemplate', howner'⟩ := Database.mem_join.mp hr'
  rw [hid, hbuild] at hbuild'
  have hsame : r'.build = r.build := (Option.some.inj hbuild').symm
  have hsameId : r'.workspaceId = r.workspaceId := by rw [← hof', ← hof, hsame]
  rw [hsameId, hworkspace] at hworkspace'
  have hsameWorkspace : r'.workspace = r.workspace := (Option.some.inj hworkspace').symm
  rw [hsame, hjob] at hjob'
  rw [hsameWorkspace, htemplate] at htemplate'
  rw [hsameWorkspace, howner] at howner'
  exact JoinedRow.ext hsameId hsameWorkspace hid hsame (Option.some.inj hjob').symm
    (Option.some.inj htemplate').symm (Option.some.inj howner').symm

theorem mem_eligibleRows {now : OffsetDateTime} (hr : r ∈ db.eligibleRows now) :
    r ∈ db.join ∧ db.maxBuildNumber r.workspaceId = some r.build.buildNumber ∧
      r.workspace.deleted = false ∧ r.workspace.ownerId ≠ prebuildsUserId := by
  obtain ⟨hjoin, hwhere⟩ := List.mem_filter.mp hr
  have hwhere := of_decide_eq_true hwhere
  simp only [JoinedRow.whereClause, SqlBool.and_eq_true, SqlBool.compare_eq_true,
    SqlBool.ofBool_eq_true, decide_eq_true_eq] at hwhere
  obtain ⟨⟨number, latest, hnumber, hlatest, rfl⟩, -, hdeleted, howner⟩ := hwhere
  exact ⟨hjoin, by rw [hlatest, Option.some.inj hnumber], hdeleted, howner⟩

/-- A row that the worker updates belongs to an active workspace. -/
theorem active_of_update {newDeadline : OffsetDateTime} (hr : r ∈ db.eligibleRows now)
    (hbump : bump r.transitionRow now = .update newDeadline) :
    ∃ deadline, Active db now r.buildId r.build r.workspace r.template deadline ∧
      deadline < newDeadline ∧ newDeadline.unixNanos = extended now r.build r.template := by
  obtain ⟨hjoin, hlatest, hdeleted, hprebuilds⟩ := mem_eligibleRows hr
  obtain ⟨hworkspace, hbuild, hof, hjob, htemplate, howner⟩ := Database.mem_join.mp hjoin
  obtain ⟨hstart, hsucceeded, hpositive, threshold, current, later, hthreshold, hused, hcurrent,
    hlater, hgrows, rfl⟩ := bump_eq_update.mp hbump
  refine ⟨current, ?_, hgrows, ?_⟩
  · exact
      { buildRow := hbuild
        workspaceRow := hof ▸ hworkspace
        deleted := hdeleted
        owner := hprebuilds
        latest := hof ▸ (Database.maxBuildNumber_eq_some hbuild hof).mp hlatest
        transition := hstart
        succeeded := ⟨r.job, hjob, hsucceeded⟩
        templateRow := htemplate
        activityBump := hpositive
        used := by
          have hle : threshold.unixNanos ≤ r.workspace.lastUsedAt.unixNanos := hused
          rwa [add_eq_some.mp hthreshold] at hle
        deadlineSet := hcurrent }
  · rw [unixNanos_clampToMax, add_eq_some.mp hlater]
    rfl

theorem Active.row_eq {buildId : Uuid} {build : WorkspaceBuildRow} {workspace : WorkspaceRow}
    {template : TemplateRow} {deadline : OffsetDateTime}
    (h : Active db now buildId build workspace template deadline) (hr : r ∈ db.join)
    (hid : r.buildId = buildId) :
    r.build = build ∧ r.workspace = workspace ∧ r.template = template ∧
      r.job.jobStatus = .succeeded := by
  obtain ⟨hworkspace, hbuild, hof, hjob, htemplate, -⟩ := Database.mem_join.mp hr
  rw [hid, h.buildRow] at hbuild
  cases hbuild
  rw [← hof, h.workspaceRow] at hworkspace
  cases hworkspace
  rw [h.templateRow] at htemplate
  cases htemplate
  obtain ⟨job, hsome, hsucceeded⟩ := h.succeeded
  rw [hsome] at hjob
  cases hjob
  exact ⟨rfl, rfl, rfl, hsucceeded⟩

/-- The worker updates the row of an active workspace whose deadline is to be extended. -/
theorem Active.update {buildId : Uuid} {build : WorkspaceBuildRow} {workspace : WorkspaceRow}
    {template : TemplateRow} {deadline : OffsetDateTime}
    (h : Active db now buildId build workspace template deadline) (hr : r ∈ db.join)
    (hid : r.buildId = buildId) (hrange : r.overflows now = false)
    (hlater : deadline.unixNanos < extended now build template) :
    ∃ newDeadline, bump r.transitionRow now = .update newDeadline ∧
      newDeadline.unixNanos = extended now build template := by
  obtain ⟨rfl, rfl, rfl, hsucceeded⟩ := h.row_eq hr hid
  simp only [JoinedRow.overflows, h.transition, hsucceeded, h.activityBump, h.used,
    h.deadlineSet, decide_true, Bool.true_and, Option.isSome_some, Bool.or_eq_false_iff,
    Option.isNone_eq_false_iff] at hrange
  obtain ⟨threshold, hthreshold⟩ := Option.isSome_iff_exists.mp hrange.1
  obtain ⟨later, hadd⟩ := Option.isSome_iff_exists.mp hrange.2
  have hnanos : (clampToMax r.build.maxDeadline later).unixNanos =
      extended now r.build r.template := by
    rw [unixNanos_clampToMax, add_eq_some.mp hadd]
    rfl
  have hused : threshold ≤ r.workspace.lastUsedAt := by
    show threshold.unixNanos ≤ r.workspace.lastUsedAt.unixNanos
    rw [add_eq_some.mp hthreshold]
    exact h.used
  have hgrows : deadline < clampToMax r.build.maxDeadline later := by
    show deadline.unixNanos < (clampToMax r.build.maxDeadline later).unixNanos
    rwa [hnanos]
  exact ⟨clampToMax r.build.maxDeadline later, bump_eq_update.mpr ⟨h.transition, hsucceeded,
    h.activityBump, threshold, deadline, later, hthreshold, hused, h.deadlineSet, hadd, hgrows,
    rfl⟩, hnanos⟩

/-! ## A tick -/

/-- The rows that the loop gets to. -/
theorem activityBumpOnce_eq (db : Database) (now : OffsetDateTime) :
    (activityBumpOnce db now).1 =
      (((db.eligibleRows now).takeWhile fun r => !r.overflows now).map
        (·.transitionRow)).foldl (applyBump now) db := by
  have hreached : ((fun ws => decide (bump ws now ≠ .panicked)) ∘ JoinedRow.transitionRow) =
      fun r => !r.overflows now := by
    funext r
    simp [bump_eq_panicked r now]
  rw [activityBumpOnce, bumpLoop_eq, Database.getWorkspacesEligibleForTransition,
    List.takeWhile_map, hreached]

theorem lookup_of_reached {newDeadline : OffsetDateTime}
    (hr : r ∈ (db.eligibleRows now).takeWhile fun r => !r.overflows now)
    (hbump : bump r.transitionRow now = .update newDeadline) :
    (activityBumpOnce db now).1.builds.lookup r.buildId =
      some { r.build with deadline := some newDeadline } := by
  have hjoin : ∀ r' ∈ (db.eligibleRows now).takeWhile fun r => !r.overflows now, r' ∈ db.join :=
    fun r' hr' => (mem_eligibleRows ((List.takeWhile_sublist _).subset hr')).1
  obtain ⟨-, hbuild, -⟩ := Database.mem_join.mp (hjoin r hr)
  have hlookup := lookup_foldl_of_mem db (List.mem_map_of_mem hr) hbump (by
    rintro ws' hws' hid
    obtain ⟨r', hr', rfl⟩ := List.mem_map.mp hws'
    rw [join_ext (hjoin r hr) (hjoin r' hr') hid])
  rw [activityBumpOnce_eq]
  exact hlookup.trans (by rw [show r.transitionRow.buildId = r.buildId from rfl, hbuild]; rfl)

/-- A tick leaves the row of a build alone, or extends the deadline of an active workspace. -/
theorem lookup_activityBumpOnce {buildId : Uuid} {build : WorkspaceBuildRow}
    (hbuild : db.builds.lookup buildId = some build) (now : OffsetDateTime) :
    (activityBumpOnce db now).1.builds.lookup buildId = some build ∨
      ∃ workspace template deadline newDeadline,
        Active db now buildId build workspace template deadline ∧ deadline < newDeadline ∧
        newDeadline.unixNanos = extended now build template ∧
        (∃ r ∈ (db.eligibleRows now).takeWhile fun r => !r.overflows now,
          r.buildId = buildId) ∧
        (activityBumpOnce db now).1.builds.lookup buildId =
          some { build with deadline := some newDeadline } := by
  by_cases htouched : ∃ r ∈ (db.eligibleRows now).takeWhile fun r => !r.overflows now,
      r.buildId = buildId ∧ ∃ newDeadline, bump r.transitionRow now = .update newDeadline
  · obtain ⟨r, hr, rfl, newDeadline, hbump⟩ := htouched
    have heligible := (List.takeWhile_sublist _).subset hr
    obtain ⟨-, hrow, -⟩ := Database.mem_join.mp (mem_eligibleRows heligible).1
    obtain rfl : r.build = build := Option.some.inj (hrow.symm.trans hbuild)
    obtain ⟨deadline, hactive, hgrows, hnanos⟩ := active_of_update heligible hbump
    exact .inr ⟨r.workspace, r.template, deadline, newDeadline, hactive, hgrows, hnanos,
      ⟨r, hr, rfl⟩, lookup_of_reached hr hbump⟩
  · -- no row of the build that the loop gets to leads to an update
    refine .inl ?_
    rw [activityBumpOnce_eq, lookup_foldl_of_forall, hbuild]
    rintro ws hws newDeadline hbump hid
    obtain ⟨r, hr, rfl⟩ := List.mem_map.mp hws
    exact htouched ⟨r, hr, hid, newDeadline, hbump⟩

theorem setDeadline_eq_some {stored : Option OffsetDateTime} {deadline : OffsetDateTime}
    (h : setDeadline stored = some deadline) : stored = some deadline := by
  cases stored with
  | none => cases h
  | some t =>
    simp only [setDeadline] at h
    split at h
    · exact h
    · cases h

theorem Active.unique {buildId : Uuid} {build : WorkspaceBuildRow}
    {workspace workspace' : WorkspaceRow} {template template' : TemplateRow}
    {deadline deadline' : OffsetDateTime}
    (h : Active db now buildId build workspace template deadline)
    (h' : Active db now buildId build workspace' template' deadline') :
    template' = template ∧ deadline' = deadline := by
  obtain rfl : workspace' = workspace :=
    Option.some.inj (h'.workspaceRow.symm.trans h.workspaceRow)
  exact ⟨Option.some.inj (h'.templateRow.symm.trans h.templateRow),
    Option.some.inj (h'.deadlineSet.symm.trans h.deadlineSet)⟩

theorem drawn_of_keepsRunning (h : KeepsRunning db now) : Drawn db now := by
  intro buildId build workspace template deadline hactive hlater
  obtain ⟨build', deadline', hlookup, hdeadline, hnanos, -⟩ := h.active _ _ _ _ _ hactive
  obtain hsame | ⟨-, -, -, -, -, -, -, hreached, -⟩ := lookup_activityBumpOnce
    hactive.buildRow now
  · -- a deadline that was not touched is not the one that was asked for
    obtain rfl : build' = build := Option.some.inj (hlookup.symm.trans hsame)
    rw [setDeadline_eq_some hactive.deadlineSet] at hdeadline
    cases hdeadline
    omega
  · exact hreached

theorem keepsRunning_of_drawn (h : Drawn db now) : KeepsRunning db now where
  active := by
    intro buildId build workspace template deadline hactive
    by_cases hlater : deadline.unixNanos < extended now build template
    · obtain ⟨r, hr, hid⟩ := h _ _ _ _ _ hactive hlater
      obtain ⟨hjoin, -⟩ := mem_eligibleRows ((List.takeWhile_sublist _).subset hr)
      have hrange : r.overflows now = false := by simpa using List.mem_takeWhile_imp hr
      obtain ⟨newDeadline, hbump, hnanos⟩ := hactive.update hjoin hid hrange hlater
      obtain ⟨rfl, -⟩ := hactive.row_eq hjoin hid
      refine ⟨{ r.build with deadline := some newDeadline }, newDeadline,
        hid ▸ lookup_of_reached hr hbump, rfl, ?_, rfl⟩
      omega
    · -- the deadline is late enough, and an update would have to be later still
      have hset := setDeadline_eq_some hactive.deadlineSet
      obtain hsame | ⟨_, _, _, newDeadline, hactive', hgrows, hnanos, -, -⟩ :=
        lookup_activityBumpOnce hactive.buildRow now
      · exact ⟨build, deadline, hsame, hset, by omega, rfl⟩
      · obtain ⟨rfl, rfl⟩ := hactive.unique hactive'
        exact absurd (show _ < newDeadline.unixNanos from hgrows) (by omega)
  others := by
    intro buildId build hbuild hother
    obtain hsame | ⟨workspace, template, deadline, -, hactive, -⟩ :=
      lookup_activityBumpOnce hbuild now
    · exact ⟨build, hsame, rfl, rfl⟩
    · exact absurd ⟨workspace, template, deadline, hactive⟩ hother

/-! ## Every run -/

def ticks (db : Database) (times : List OffsetDateTime) : Database :=
  times.foldl (fun db now => (activityBumpOnce db now).1) db

theorem Grown.trans {build build' build'' : WorkspaceBuildRow} (h : Grown build build')
    (h' : Grown build' build'') : Grown build build'' := by
  obtain ⟨hmax, hgrown⟩ := h
  obtain ⟨hmax', hgrown'⟩ := h'
  refine ⟨hmax'.trans hmax, ?_⟩
  rw [hmax] at hgrown'
  obtain hsame | ⟨deadline, deadline', hset, hdeadline, hlt, hle⟩ := hgrown
  · rwa [hsame] at hgrown'
  · obtain hsame' | ⟨middle, last, hset', hdeadline', hlt', hle'⟩ := hgrown'
    · exact .inr ⟨deadline, deadline', hset, hsame'.trans hdeadline, hlt, hle⟩
    · rw [hdeadline] at hset'
      obtain rfl : deadline' = middle := Option.some.inj (setDeadline_eq_some hset')
      exact .inr ⟨deadline, last, hset, hdeadline', hlt.trans hlt', hle'⟩

theorem grown_activityBumpOnce {buildId : Uuid} {build : WorkspaceBuildRow}
    (hbuild : db.builds.lookup buildId = some build) (now : OffsetDateTime) :
    ∃ build', (activityBumpOnce db now).1.builds.lookup buildId = some build' ∧
      Grown build build' := by
  obtain hsame |
      ⟨workspace, template, deadline, newDeadline, hactive, hgrows, hnanos, -, hlookup⟩ :=
    lookup_activityBumpOnce hbuild now
  · exact ⟨build, hsame, rfl, .inl rfl⟩
  · refine ⟨_, hlookup, rfl, .inr ⟨deadline, newDeadline, hactive.deadlineSet, rfl, hgrows, ?_⟩⟩
    intro max hmax
    show newDeadline.unixNanos ≤ max.unixNanos
    rw [hnanos, extended, hmax]
    exact Int.min_le_right _ _

theorem grown_ticks {buildId : Uuid} {build : WorkspaceBuildRow}
    (hbuild : db.builds.lookup buildId = some build) (times : List OffsetDateTime) :
    ∃ build', (ticks db times).builds.lookup buildId = some build' ∧ Grown build build' := by
  induction times generalizing db build with
  | nil => exact ⟨build, hbuild, rfl, .inl rfl⟩
  | cons now times ih =>
    obtain ⟨build', hbuild', hgrown⟩ := grown_activityBumpOnce hbuild now
    obtain ⟨build'', hbuild'', hgrown'⟩ := ih hbuild'
    exact ⟨build'', hbuild'', hgrown.trans hgrown'⟩

/-- The tables with the one row of a join. -/
def oneWorkspace (r : JoinedRow) (jobId : Uuid) : Database where
  workspaces := AList.insert r.workspaceId r.workspace ∅
  builds := AList.insert r.buildId r.build ∅
  jobs := AList.insert jobId r.job ∅
  templates := AList.insert r.workspace.templateId r.template ∅
  users := AList.insert r.workspace.ownerId r.owner ∅

def halfAnHourLater : OffsetDateTime := ⟨30 * 60 * 10 ^ 9, by decide, by decide⟩

end Coderd.Workspaces
