import Coderd.Workspaces.CreationPolicy

namespace Coderd.Builds

open Coderd.Foundation Coderd.Rbac
open Coderd.Catalog (WorkspaceRow WorkspaceBuildRow)
open Coderd.CryptoKeys (OffsetDateTime)
open Coderd.Provisioner
open Coderd.Workspaces (Cron)

/-! ## What a call can do -/

/-- The tables after a call: as before, or with the one write that the call is for. -/
inductive Effect (choice : Choice) (w : World) : Op → World → Prop
  | none (op : Op) : Effect choice w op w
  | insertWorkspace {input : CreateWorkspaceInput} (hfree : w.workspaces.lookup input.id = none) :
    Effect choice w (.store (.insertWorkspace input))
      { w with workspaces := w.workspaces.insert input.id (input.row choice.now) }
  | createJob {input : CreateProvisionerJobInput} (hfree : w.jobs.lookup input.id = none) :
    Effect choice w (.store (.createProvisionerJob input)) (w.createJob input)
  | createBuild {input : CreateWorkspaceBuildInput} (hfree : w.builds.lookup input.id = none)
      (hworkspace : (w.workspaces.lookup input.workspaceId).isSome)
      (hjob : (w.jobs.lookup input.jobId).isSome) :
    Effect choice w (.store (.insertWorkspaceBuild input)) (w.createBuild input choice.now hjob)
  | parameters {buildId : Uuid} {params : List (String × String)}
      (rows : HashMap (Uuid × String) String) :
    Effect choice w (.store (.insertWorkspaceBuildParameters buildId params))
      { w with buildParameters := rows }
  | acquire {input : AcquireProvisionerJobInput} {id : Uuid} {row : ProvisionerJobRow}
      (hrow : w.jobs.lookup id = some row) (haccepts : input.accepts row = true) :
    Effect choice w (.store (.acquireProvisionerJob input)) (w.writeJobs id input.set)
  | complete {input : CompleteProvisionerJobInput} :
    Effect choice w (.store (.updateProvisionerJobWithCompleteById input))
      (w.writeJobs input.id input.set)

section

variable [Collation] {w w' : World} {choice : Choice}

theorem insertWorkspace_effect (input : CreateWorkspaceInput) :
    Effect choice w (.store (.insertWorkspace input)) (insertWorkspace choice w input).2 := by
  unfold insertWorkspace
  dsimp only
  split
  · exact .none _
  · rename_i hfree
    refine .insertWorkspace ?_
    cases hrow : w.workspaces.lookup input.id with
    | none => rfl
    | some row =>
      have htaken := HashMap.selectFirst_eq_none_iff.mp hfree input.id row hrow
      simp at htaken

omit [Collation] in
theorem acquireProvisionerJob_effect (input : AcquireProvisionerJobInput) :
    Effect choice w (.store (.acquireProvisionerJob input))
      (acquireProvisionerJob choice w input).2 := by
  unfold acquireProvisionerJob
  obtain hnone | ⟨id, row, hrow, haccepts, hsome⟩ :=
    JobTable.acquireProvisionerJob_cases w.jobs input choice.locked
  · rw [hnone]
    exact .none _
  · rw [hsome]
    exact .acquire hrow haccepts

theorem perform_effect (query : StoreCall) :
    Effect choice w (.store query) (perform choice w query).2 := by
  cases query with
  | insertWorkspace input => exact insertWorkspace_effect input
  | createProvisionerJob input =>
    simp only [perform, createProvisionerJob]
    split
    · exact .none _
    · rename_i hfree
      split <;> exact .createJob hfree
  | insertWorkspaceBuild input =>
    simp only [perform, insertWorkspaceBuild]
    split
    · rename_i hfree hworkspace
      split
      · rename_i hjob
        exact .createBuild hfree (hworkspace ▸ rfl) hjob
      · exact .none _
    · exact .none _
  | insertWorkspaceBuildParameters buildId params =>
    simp only [perform, insertWorkspaceBuildParameters]
    split
    · exact .parameters _
    · exact .none _
  | acquireProvisionerJob input => exact acquireProvisionerJob_effect input
  | updateProvisionerJobWithCompleteById input => exact .complete
  | _ => exact .none _

theorem effect_of_exec {op : Op} {r : op.Response} (h : exec op w choice = some (r, w')) :
    Effect choice w op w' := by
  cases op with
  | nowUtc =>
    cases h
    exact .none _
  | newUuid =>
    cases h
    exact .none _
  | store query =>
    simp only [exec] at h
    split at h
    · cases h
      exact .none _
    · have hw : (perform choice w query).2 = w' := congrArg Prod.snd (Option.some.inj h)
      exact hw ▸ perform_effect query

end

/-! ## Unfinished builds -/

/-- The build has a job, which has not completed. -/
def World.Unfinished (w : World) (id : Uuid) (row : WorkspaceBuildRow) : Prop :=
  w.builds.lookup id = some row ∧ ∃ jobId job, row.jobId = some jobId ∧
    w.jobs.lookup jobId = some job ∧ job.completedAt = none

/-- A workspace has at most one unfinished build, which is its latest one. -/
structure World.OneUnfinished (w : World) : Prop where
  unique : ∀ id id' row row', w.Unfinished id row → w.Unfinished id' row' →
    row.workspaceId = row'.workspaceId → id = id'
  latest : ∀ id id' row row', w.Unfinished id row → w.builds.lookup id' = some row' →
    row'.workspaceId = row.workspaceId → row'.buildNumber ≤ row.buildNumber

namespace World.OneUnfinished

variable {w w' : World}

/-- As each unfinished build is the latest one, there is one at most. -/
theorem of_latest (h : ∀ id id' row row', w.Unfinished id row → w.builds.lookup id' = some row' →
    row'.workspaceId = row.workspaceId → row'.buildNumber ≤ row.buildNumber) :
    w.OneUnfinished where
  unique id id' row row' hun hun' hof := by
    have hle := h id id' row row' hun hun'.1 hof.symm
    have hle' := h id' id row' row hun' hun.1 hof
    exact w.oneNumber id id' row row' hun.1 hun'.1 hof (le_antisymm hle' hle)
  latest := h

theorem mono (h : w.OneUnfinished) (hbuilds : w'.builds = w.builds)
    (hunfinished : ∀ id row, w'.Unfinished id row → w.Unfinished id row) : w'.OneUnfinished := by
  refine of_latest fun id id' row row' hun hrow' hof => ?_
  rw [hbuilds] at hrow'
  exact h.latest id id' row row' (hunfinished id row hun) hrow' hof

/-- A job that is new has no build yet. -/
theorem createJob (h : w.OneUnfinished) {input : CreateProvisionerJobInput}
    (hfree : w.jobs.lookup input.id = none) : (w.createJob input).OneUnfinished := by
  refine h.mono rfl ?_
  rintro id row ⟨hrow, jobId, job, hof, hjob, hcompleted⟩
  refine ⟨hrow, jobId, job, hof, ?_, hcompleted⟩
  change (w.jobs.insert input.id input.row).lookup jobId = some job at hjob
  rw [HashMap.lookup_insert_ite] at hjob
  split at hjob
  · rename_i heq
    have hsome := w.jobOfBuild id row jobId hrow hof
    rw [heq, hfree] at hsome
    cases hsome
  · exact hjob

/-- No write takes back that a job has completed. -/
theorem writeJobs (h : w.OneUnfinished) {id : Uuid} {set : ProvisionerJobRow → ProvisionerJobRow}
    (hset : ∀ row, (set row).completedAt = none → row.completedAt = none) :
    (w.writeJobs id set).OneUnfinished := by
  refine h.mono rfl ?_
  rintro buildId row ⟨hrow, jobId, job, hof, hjob, hcompleted⟩
  refine ⟨hrow, jobId, ?_⟩
  change (w.jobs.update id set).lookup jobId = some job at hjob
  rw [JobTable.lookup_update] at hjob
  split at hjob
  · rename_i heq
    obtain ⟨old, hold, rfl⟩ := Option.map_eq_some_iff.mp hjob
    exact ⟨old, hof, heq ▸ hold, hset old hcompleted⟩
  · exact ⟨job, hof, hjob, hcompleted⟩

/-- A build may be added exactly if the others of the workspace are finished. -/
theorem createBuild_iff (h : w.OneUnfinished) {input : CreateWorkspaceBuildInput}
    {now : OffsetDateTime} (hfree : w.builds.lookup input.id = none)
    (hjob : (w.jobs.lookup input.jobId).isSome) :
    (w.createBuild input now hjob).OneUnfinished ↔
      ∀ id row, w.Unfinished id row → row.workspaceId ≠ input.workspaceId := by
  set number := nextBuildNumber w.builds input.workspaceId with hnumber
  have hlookup : ∀ id, (w.createBuild input now hjob).builds.lookup id =
      if id = input.id then some (input.row number now) else w.builds.lookup id :=
    fun id => HashMap.lookup_insert_ite _ _ _ _
  constructor
  · intro h' id row hun hof
    have hne : id ≠ input.id := by
      rintro rfl
      have hrow := hun.1
      rw [hfree] at hrow
      cases hrow
    have hun' : (w.createBuild input now hjob).Unfinished id row :=
      ⟨by rw [hlookup, if_neg hne]; exact hun.1, hun.2⟩
    have hle := h'.latest id input.id row (input.row number now) hun'
      (by rw [hlookup, if_pos rfl]) hof.symm
    have hlt := lt_nextBuildNumber hun.1
    rw [hof] at hlt
    exact absurd hle (not_le.mpr hlt)
  · intro hfinished
    refine of_latest fun id id' row row' hun hrow' hof => ?_
    obtain ⟨hrow, hjobs⟩ := hun
    rw [hlookup] at hrow hrow'
    split at hrow
    · cases hrow
      split at hrow'
      · cases hrow'
        exact le_refl _
      · have hlt := lt_nextBuildNumber hrow'
        rw [hof] at hlt
        exact hlt.le
    · split at hrow'
      · cases hrow'
        exact absurd hof.symm (hfinished id row ⟨hrow, hjobs⟩)
      · exact h.latest id id' row row' ⟨hrow, hjobs⟩ hrow' hof

end World.OneUnfinished

/-! ## The condition -/

/-- The insert of the build takes place. -/
structure World.Takes (w : World) (choice : Choice) (input : CreateWorkspaceBuildInput) : Prop where
  fails : choice.fails = none
  free : w.builds.lookup input.id = none
  workspace : (w.workspaces.lookup input.workspaceId).isSome
  job : (w.jobs.lookup input.jobId).isSome

/-- A build that is inserted finds the builds of its workspace finished. -/
def StaysAlone : Op → World → Choice → Prop
  | .store (.insertWorkspaceBuild input), w, choice =>
    w.Takes choice input → ∀ id row, w.Unfinished id row → row.workspaceId ≠ input.workspaceId
  | _, _, _ => True

def alone : Regime Op World Choice Request Event where
  call := StaysAlone
  spawn _ _ := True
  outside _ _ := True

/-! ## Every run -/

section

variable [Collation]

theorem insertWorkspaceBuild_cases {w w' : World} {choice : Choice}
    {input : CreateWorkspaceBuildInput} {r : Except StorageError WorkspaceBuildRow}
    (h : exec (.store (.insertWorkspaceBuild input)) w choice = some (r, w')) :
    (∃ htakes : w.Takes choice input, w' = w.createBuild input choice.now htakes.job) ∨
      (¬ w.Takes choice input ∧ w' = w) := by
  simp only [exec] at h
  split at h
  · rename_i hfails
    cases h
    refine .inr ⟨fun htakes => ?_, rfl⟩
    rw [htakes.fails] at hfails
    cases hfails
  · rename_i hfails
    simp only [perform, insertWorkspaceBuild] at h
    split at h
    · rename_i hfree hworkspace
      split at h
      · rename_i hjob
        cases h
        exact .inl ⟨⟨hfails, hfree, hworkspace ▸ rfl, hjob⟩, rfl⟩
      · rename_i hjob
        cases h
        exact .inr ⟨fun htakes => hjob htakes.job, rfl⟩
    · rename_i hnot
      cases h
      refine .inr ⟨fun htakes => ?_, rfl⟩
      obtain ⟨row, hrow⟩ := Option.isSome_iff_exists.mp htakes.workspace
      exact hnot row htakes.free hrow

/-- A call keeps the workspaces at one unfinished build exactly if it meets the condition. -/
theorem oneUnfinished_exec_iff {op : Op} {w w' : World} {choice : Choice} {r : op.Response}
    (hinv : w.OneUnfinished) (h : exec op w choice = some (r, w')) :
    w'.OneUnfinished ↔ StaysAlone op w choice := by
  by_cases hop : ∃ input, op = .store (.insertWorkspaceBuild input)
  · obtain ⟨input, rfl⟩ := hop
    obtain ⟨htakes, rfl⟩ | ⟨hnot, rfl⟩ := insertWorkspaceBuild_cases h
    · rw [hinv.createBuild_iff htakes.free htakes.job]
      exact ⟨fun hfinished _ => hfinished, fun hstays => hstays htakes⟩
    · exact ⟨fun _ htakes => absurd htakes hnot, fun _ => hinv⟩
  · have heffect := effect_of_exec h
    have hstays : StaysAlone op w choice := by
      unfold StaysAlone
      split
      · exact absurd ⟨_, rfl⟩ hop
      · trivial
    refine ⟨fun _ => hstays, fun _ => ?_⟩
    cases heffect with
    | none => exact hinv
    | insertWorkspace hfree => exact hinv.mono rfl fun _ _ hun => hun
    | createJob hfree => exact hinv.createJob hfree
    | createBuild _ _ _ => exact absurd ⟨_, rfl⟩ hop
    | parameters rows => exact hinv.mono rfl fun _ _ hun => hun
    | acquire _ _ => exact hinv.writeJobs fun _ hcompleted => hcompleted
    | complete => exact hinv.writeJobs fun _ hcompleted => by cases hcompleted

omit [Collation] in
theorem oneUnfinished_after {w : World} (h : w.OneUnfinished) (event : Event) :
    (w.after event).OneUnfinished := by
  cases event with
  | importVersion id row =>
    simp only [World.after]
    split
    · exact h
    · exact h.mono rfl fun _ _ hun => hun
  | promote templateId versionId =>
    simp only [World.after]
    split
    · exact h
    · exact h.mono rfl fun _ _ hun => hun

/-- No call waits. -/
theorem exec_ne_none {op : Op} {w : World} {choice : Choice} : exec op w choice ≠ none := by
  cases op with
  | nowUtc => simp [exec]
  | newUuid => simp [exec]
  | store query =>
    simp only [exec]
    split <;> simp

variable [Cron] [QuietHours] [UuidText] (config : Config)

theorem alone_exact : Regime.Exact (builds config) alone World.OneUnfinished where
  call hinv hexec := oneUnfinished_exec_iff hinv hexec
  waits hexec := absurd hexec exec_ne_none
  spawn _ _ := trivial
  outside _ event hinv := ⟨fun _ => trivial, fun _ => oneUnfinished_after hinv event⟩

end

/-! ## Runs on fixed inputs -/

/-- A test that is passed where the builds of the workspace are finished. -/
def findsFinished : Op → World → Choice → Bool
  | .store (.insertWorkspaceBuild input), w, _ =>
    (w.builds.selectFirst fun _ row => row.workspaceId = input.workspaceId &&
      (row.jobId.bind w.jobs.lookup).any (·.completedAt.isNone)).isNone
  | _, _, _ => true

theorem staysAlone_of_findsFinished {op : Op} {w : World} {choice : Choice}
    (h : findsFinished op w choice = true) : StaysAlone op w choice := by
  unfold StaysAlone
  split
  · rintro - id row ⟨hrow, jobId, job, hof, hjob, hcompleted⟩ hworkspace
    have hnone := HashMap.selectFirst_eq_none_iff.mp (Option.isNone_iff_eq_none.mp h) id row hrow
    simp [hworkspace, hof, hjob, hcompleted] at hnone
  · trivial

def owner : Actor := { bannedOwner with orgRoles := [] }

theorem oneTemplate_oneUnfinished : oneTemplate.OneUnfinished :=
  .of_latest fun _ _ _ _ hun => by cases hun.1

/-- The owner asks for a workspace, which gets the id 20, its job 21 and its build 22. -/
def createRun : List (Move Request Choice Event) :=
  .spawn (.postUserWorkspace owner "me" (workspaceBody templateId none)) ::
    [1, 1, 20, 20, 21, 22, 1, 1, 1, 1, 1, 1, 1].map fun n => .run 0 (drawing n)

/-- The job 21 completes. -/
def completion : CompleteProvisionerJobInput where
  id := ⟨21⟩
  updatedAt := .unixEpoch
  completedAt := .unixEpoch
  error := ""
  errorCode := ""

/-- Another build of the workspace 20, with the job 31 and the id 32. -/
def rebuildRun (task : Nat) : List (Move Request Choice Event) :=
  .spawn (.postWorkspaceBuild owner ⟨20⟩ ⟨some "stop", none⟩) ::
    [1, 1, 31, 32, 1, 1, 1, 1, 1, 1, 1].map fun n => .run task (drawing n)

/-- Without quiet hours, names compared as they are. -/
@[reducible] def plainBuilds : Service Op Op.Response Unit World Choice Request Event :=
  @builds Workspaces.everyMinute noQuietHours Uuid.hyphenated defaults sameCase

abbrev plainPool (moves : List (Move Request Choice Event)) : Pool World (Handler Unit) :=
  plainBuilds.program.run { shared := oneTemplate, tasks := [] } moves

/-- The job completes before the next build is asked for. -/
def finishedRun : List (Move Request Choice Event) :=
  createRun ++ .spawn (.completeJob completion) :: .run 1 (drawing 1) :: rebuildRun 2

end Coderd.Builds
