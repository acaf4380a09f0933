import Coderd.Workspaces.Dormancy

namespace Coderd.Lifecycle

open Coderd.Foundation Coderd.Rbac
open Coderd.Auth (UserRow)
open Coderd.Builds (World CreateProvisionerJobInput CreateWorkspaceBuildInput)
open Coderd.Catalog (WorkspaceRow WorkspaceBuildRow)
open Coderd.CryptoKeys (OffsetDateTime)
open Coderd.Provisioner (ProvisionerJobRow)
open Coderd.Workspaces hiding WorkspaceRow WorkspaceBuildRow TemplateRow

/-! ## The rows behind a workspace -/

/-- A workspace with its latest build, and what they refer to. -/
structure Standing (w : World) (id : Uuid) (row : WorkspaceRow) (buildId : Uuid)
    (build : WorkspaceBuildRow) (job : ProvisionerJobRow) (template : Builds.TemplateRow)
    (owner : UserRow) : Prop where
  hrow : w.workspaces.lookup id = some row
  hbuild : w.builds.lookup buildId = some build
  hof : build.workspaceId = id
  latest : ∀ id' other, w.builds.lookup id' = some other → other.workspaceId = id →
    other.buildNumber ≤ build.buildNumber
  hjob : build.jobId.bind w.jobs.lookup = some job
  htemplate : w.templates.lookup row.templateId = some template
  howner : w.users.lookup row.ownerId = some owner

def transitionOf (id : Uuid) (row : WorkspaceRow) (buildId : Uuid) (build : WorkspaceBuildRow)
    (job : ProvisionerJobRow) (template : Builds.TemplateRow) (owner : UserRow) :
    WorkspaceTransitionRow where
  id := id
  autostartSchedule := row.autostartSchedule
  lastUsedAt := row.lastUsedAt
  dormantAt := row.dormantAt
  deletingAt := row.deletingAt
  deleted := row.deleted
  buildTransition := build.transition
  buildDeadline := build.deadline
  jobStatus := job.jobStatus
  jobCompletedAt := job.completedAt
  templateAllowUserAutostart := template.allowUserAutostart
  templateFailureTtl := template.failureTtl
  templateTimeTilDormant := template.timeTilDormant
  templateTimeTilDormantAutodelete := template.timeTilDormantAutodelete
  ownerStatus := owner.status
  buildId := buildId
  maxDeadline := build.maxDeadline
  activityBumpNs := template.activityBump

/-- The columns that the lifecycle reads. -/
def lifecycleRow (row : WorkspaceRow) : Workspaces.WorkspaceRow where
  ownerId := row.ownerId
  templateId := row.templateId
  autostartSchedule := row.autostartSchedule
  lastUsedAt := row.lastUsedAt
  dormantAt := row.dormantAt
  deletingAt := row.deletingAt
  nextStartAt := row.nextStartAt
  deleted := row.deleted

def lifecycleBuild (row : WorkspaceBuildRow) : Workspaces.WorkspaceBuildRow where
  workspaceId := row.workspaceId
  buildNumber := row.buildNumber
  transition := row.transition
  jobId := row.jobId
  deadline := row.deadline
  maxDeadline := row.maxDeadline

theorem current_iff {w : World} {ws : WorkspaceTransitionRow} :
    Current w ws ↔ ∃ row buildId build job template owner,
      Standing w ws.id row buildId build job template owner ∧
        ws = transitionOf ws.id row buildId build job template owner := by
  have hworkspaces : ∀ id, w.database.workspaces.lookup id =
      (w.workspaces.lookup id).map lifecycleRow := HashMap.lookup_project w.workspaces _
  have hbuilds : ∀ id, w.database.builds.lookup id =
      (w.builds.lookup id).map lifecycleBuild := HashMap.lookup_project w.builds _
  have htemplates : ∀ id, w.database.templates.lookup id =
      (w.templates.lookup id).map (·.toTemplateRow) := HashMap.lookup_project w.templates _
  constructor
  · rintro ⟨⟨id, workspace, buildId, build, job, template, owner⟩, hjoin, hmax, rfl⟩
    obtain ⟨hworkspace, hbuild, hof, hjob, htemplate, howner⟩ := Database.mem_join.mp hjoin
    have hlatest := (Database.maxBuildNumber_eq_some hbuild hof).mp hmax
    obtain ⟨row, hrow, rfl⟩ := Option.map_eq_some_iff.mp ((hworkspaces _).symm.trans hworkspace)
    obtain ⟨build, hlookup, rfl⟩ := Option.map_eq_some_iff.mp ((hbuilds _).symm.trans hbuild)
    obtain ⟨template, htemplate, rfl⟩ :=
      Option.map_eq_some_iff.mp ((htemplates _).symm.trans htemplate)
    refine ⟨row, buildId, build, job, template, owner,
      ⟨hrow, hlookup, hof, fun id' other hother hworkspace' => ?_, hjob, htemplate, howner⟩, rfl⟩
    exact hlatest id' (lifecycleBuild other) ((hbuilds id').trans (by rw [hother]; rfl)) hworkspace'
  · rintro ⟨row, buildId, build, job, template, owner, h, heq⟩
    have hbuild : w.database.builds.lookup buildId = some (lifecycleBuild build) := by
      rw [hbuilds, h.hbuild]
      rfl
    have htemplate : w.database.templates.lookup row.templateId = some template.toTemplateRow := by
      rw [htemplates, h.htemplate]
      rfl
    refine ⟨⟨ws.id, lifecycleRow row, buildId, lifecycleBuild build, job, template.toTemplateRow,
      owner⟩, Database.mem_join.mpr ⟨?_, hbuild, h.hof, h.hjob, htemplate, h.howner⟩, ?_, heq.symm⟩
    · rw [hworkspaces, h.hrow]
      rfl
    · refine (Database.maxBuildNumber_eq_some hbuild h.hof).mpr fun id' other hother hof => ?_
      rw [hbuilds] at hother
      obtain ⟨other, hlookup, rfl⟩ := Option.map_eq_some_iff.mp hother
      exact h.latest id' other hlookup hof

namespace Standing

variable {w w' : World} {id buildId : Uuid} {row : WorkspaceRow} {build : WorkspaceBuildRow}
  {job : ProvisionerJobRow} {template : Builds.TemplateRow} {owner : UserRow}

theorem current (h : Standing w id row buildId build job template owner) :
    Current w (transitionOf id row buildId build job template owner) :=
  current_iff.mpr ⟨row, buildId, build, job, template, owner, h, rfl⟩

/-- The row of the workspace is written. -/
theorem setRow (h : Standing w id row buildId build job template owner) {row' : WorkspaceRow}
    (hrow' : w'.workspaces.lookup id = some row') (hbuilds : w'.builds = w.builds)
    (hjobs : w'.jobs = w.jobs) (htemplates : w'.templates = w.templates)
    (husers : w'.users = w.users) (hof : row'.templateId = row.templateId)
    (howner : row'.ownerId = row.ownerId) :
    Standing w' id row' buildId build job template owner where
  hrow := hrow'
  hbuild := hbuilds ▸ h.hbuild
  hof := h.hof
  latest id' other hother := h.latest id' other (hbuilds ▸ hother)
  hjob := hjobs ▸ h.hjob
  htemplate := by rw [htemplates, hof, h.htemplate]
  howner := by rw [husers, howner, h.howner]

theorem createJob (h : Standing w id row buildId build job template owner)
    {input : CreateProvisionerJobInput} (hfree : w.jobs.lookup input.id = none) :
    Standing (w.createJob input) id row buildId build job template owner where
  hrow := h.hrow
  hbuild := h.hbuild
  hof := h.hof
  latest := h.latest
  hjob := by
    obtain ⟨jobId, hjobId, hlookup⟩ := Option.bind_eq_some_iff.mp h.hjob
    refine Option.bind_eq_some_iff.mpr ⟨jobId, hjobId, ?_⟩
    refine (HashMap.lookup_insert_ite _ _ _ _).trans ((if_neg ?_).trans hlookup)
    rintro rfl
    rw [hfree] at hlookup
    cases hlookup
  htemplate := h.htemplate
  howner := h.howner

variable {input : CreateWorkspaceBuildInput} {now : OffsetDateTime}
  (hjob : (w.jobs.lookup input.jobId).isSome)

/-- A build of another workspace. -/
theorem createBuild_of_ne (h : Standing w id row buildId build job template owner)
    (hfree : w.builds.lookup input.id = none) (hne : id ≠ input.workspaceId) :
    Standing (w.createBuild input now hjob) id row buildId build job template owner where
  hrow := h.hrow
  hbuild := by
    refine (HashMap.lookup_insert_ite _ _ _ _).trans ((if_neg ?_).trans h.hbuild)
    intro heq
    have hbuild := h.hbuild
    rw [heq, hfree] at hbuild
    cases hbuild
  hof := h.hof
  latest id' other hother hof := by
    have hlookup := (HashMap.lookup_insert_ite _ _ _ _).symm.trans hother
    split at hlookup
    · cases hlookup
      exact absurd hof.symm hne
    · exact h.latest id' other hlookup hof
  hjob := h.hjob
  htemplate := h.htemplate
  howner := h.howner

/-- The build is the latest of its workspace. -/
theorem createBuild (h : Standing w input.workspaceId row buildId build job template owner) :
    ∃ job', w.jobs.lookup input.jobId = some job' ∧
      Standing (w.createBuild input now hjob) input.workspaceId row input.id
        (input.row (Builds.nextBuildNumber w.builds input.workspaceId) now) job' template
        owner := by
  obtain ⟨job', hjob'⟩ := Option.isSome_iff_exists.mp hjob
  refine ⟨job', hjob', h.hrow, ?_, rfl, fun id' other hother hof => ?_, hjob', h.htemplate,
    h.howner⟩
  · exact (HashMap.lookup_insert_ite _ _ _ _).trans (if_pos rfl)
  · have hlookup := (HashMap.lookup_insert_ite _ _ _ _).symm.trans hother
    split at hlookup
    · cases hlookup
      exact le_refl _
    · have hlt := Builds.lt_nextBuildNumber hlookup
      rw [hof] at hlt
      exact hlt.le

omit hjob in
theorem setDeadline (h : Standing w id row buildId build job template owner) {buildId' : Uuid}
    {deadline maxDeadline : Option OffsetDateTime} {now : OffsetDateTime} :
    ∃ build', Standing (updateWorkspaceBuildDeadline w buildId' deadline maxDeadline now).2 id row
      buildId build' job template owner ∧ build'.transition = build.transition := by
  have hlookup : ∀ id',
      (updateWorkspaceBuildDeadline w buildId' deadline maxDeadline now).2.builds.lookup id' = _ :=
    fun id' => HashMap.lookup_mapValues _ _ id'
  refine ⟨_, ⟨h.hrow, (hlookup buildId).trans (by rw [h.hbuild]; rfl), ?_, ?_, ?_, h.htemplate,
    h.howner⟩, ?_⟩
  · split
    · exact h.hof
    · exact h.hof
  · intro id' other hother hof
    rw [hlookup, Option.map_eq_some_iff] at hother
    obtain ⟨old, hold, rfl⟩ := hother
    have hle := h.latest id' old hold (by split at hof <;> exact hof)
    split <;> split <;> exact hle
  · split
    · exact h.hjob
    · exact h.hjob
  · split <;> rfl

end Standing

/-! ## What is due -/

/-- The workspace that the write is about. -/
def Write.subject : Write → Option Uuid
  | dormant id | softDelete id => some id
  | deadline _ _ _ => none

/-- The rule that the write is made by. -/
def Write.rule (ws : WorkspaceTransitionRow) (now : OffsetDateTime) : Write → Bool
  | dormant _ => isEligibleForDormantStop ws now
  | softDelete _ => isEligibleForDelete ws now
  | deadline _ _ _ => true

/-- The rule holds of the workspace as it is, at the instant of the tick. -/
def Due (w : World) (now : OffsetDateTime) (write : Write) : Prop :=
  ∀ id, write.subject = some id → ∃ ws, Current w ws ∧ ws.id = id ∧ write.rule ws now = true

section

variable {w w' : World} {now : OffsetDateTime} {id : Uuid} {write : Write}

theorem due_iff : Due w now write ↔
    ∀ id, write.subject = some id → ∃ row buildId build job template owner,
      Standing w id row buildId build job template owner ∧
        write.rule (transitionOf id row buildId build job template owner) now = true := by
  refine forall₂_congr fun id _ => ⟨?_, ?_⟩
  · rintro ⟨ws, hcurrent, rfl, hrule⟩
    obtain ⟨row, buildId, build, job, template, owner, h, heq⟩ := current_iff.mp hcurrent
    rw [heq] at hrule
    exact ⟨row, buildId, build, job, template, owner, h, hrule⟩
  · rintro ⟨row, buildId, build, job, template, owner, h, hrule⟩
    exact ⟨_, h.current, rfl, hrule⟩

/-- A row of a workspace is written, such that the rules that hold of it still do. -/
theorem Due.insert (h : Due w now write) {row row' : WorkspaceRow}
    (hrow : w.workspaces.lookup id = some row) (hof : row'.templateId = row.templateId)
    (howner : row'.ownerId = row.ownerId)
    (hdormant : write = .dormant id → row.dormantAt = none →
      row'.dormantAt = none ∧ row'.lastUsedAt = row.lastUsedAt)
    (hdelete : write = .softDelete id → row.dormantAt.isSome = true →
      row'.dormantAt.isSome = true ∧ row'.deletingAt = row.deletingAt) :
    Due { w with workspaces := w.workspaces.insert id row' } now write := by
  rw [due_iff] at h ⊢
  intro id' hid
  obtain ⟨row₀, buildId, build, job, template, owner, hstanding, hrule⟩ := h id' hid
  have hlookup := HashMap.lookup_insert_ite w.workspaces id id' row'
  by_cases hne : id' = id
  · subst hne
    obtain rfl : row₀ = row := Option.some.inj (hstanding.hrow.symm.trans hrow)
    refine ⟨row', buildId, build, job, template, owner,
      hstanding.setRow (hlookup.trans (if_pos rfl)) rfl rfl rfl rfl hof howner, ?_⟩
    cases write with
    | dormant id =>
      cases hid
      obtain ⟨hawake, hpositive, helapsed⟩ := isEligibleForDormantStop_iff.mp hrule
      obtain ⟨hawake', hused⟩ := hdormant rfl hawake
      refine isEligibleForDormantStop_iff.mpr ⟨hawake', hpositive, ?_⟩
      exact lt_of_lt_of_eq helapsed (congrArg (elapsed now) hused.symm)
    | softDelete id =>
      cases hid
      obtain ⟨hasleep, hpositive, ⟨deletingAt, hdeleting, hpast⟩, hretry⟩ :=
        isEligibleForDelete_iff.mp hrule
      obtain ⟨hasleep', hkept⟩ := hdelete rfl hasleep
      exact isEligibleForDelete_iff.mpr
        ⟨hasleep', hpositive, ⟨deletingAt, hkept.trans hdeleting, hpast⟩, hretry⟩
    | deadline => rfl
  · exact ⟨row₀, buildId, build, job, template, owner, hstanding.setRow
      (hlookup.trans ((if_neg hne).trans hstanding.hrow)) rfl rfl rfl rfl rfl rfl, hrule⟩

theorem Due.setDeadline (h : Due w now write) {buildId : Uuid}
    {deadline maxDeadline : Option OffsetDateTime} {t : OffsetDateTime} :
    Due (updateWorkspaceBuildDeadline w buildId deadline maxDeadline t).2 now write := by
  rw [due_iff] at h ⊢
  intro id hid
  obtain ⟨row, buildId, build, job, template, owner, hstanding, hrule⟩ := h id hid
  obtain ⟨build', hstanding', htransition⟩ := hstanding.setDeadline
  refine ⟨row, buildId, build', job, template, owner, hstanding', ?_⟩
  cases write with
  | dormant id => exact hrule
  | softDelete id =>
    obtain ⟨hasleep, hpositive, hpast, hretry⟩ := isEligibleForDelete_iff.mp hrule
    exact isEligibleForDelete_iff.mpr
      ⟨hasleep, hpositive, hpast, fun hdelete => hretry (htransition.symm.trans hdelete)⟩
  | deadline => rfl

theorem Due.flush (h : Due w now write) {ids : List Uuid} {t : OffsetDateTime}
    (hunused : ∀ id row template, write = .dormant id → id ∈ ids →
      w.workspaces.lookup id = some row → w.templates.lookup row.templateId = some template →
      template.timeTilDormant < elapsed now t) :
    Due (batchUpdateWorkspaceLastUsedAt w ids t) now write := by
  rw [due_iff] at h ⊢
  intro id hid
  obtain ⟨row, buildId, build, job, template, owner, hstanding, hrule⟩ := h id hid
  refine ⟨if id ∈ ids then { row with lastUsedAt := t } else row, buildId, build, job, template,
    owner, hstanding.setRow ((HashMap.lookup_mapValues _ _ id).trans (by rw [hstanding.hrow]; rfl))
      rfl rfl rfl rfl (by split <;> rfl) (by split <;> rfl), ?_⟩
  split
  · rename_i hmem
    cases write with
    | dormant id =>
      cases hid
      obtain ⟨hawake, hpositive, -⟩ := isEligibleForDormantStop_iff.mp hrule
      exact isEligibleForDormantStop_iff.mpr
        ⟨hawake, hpositive, hunused _ row template rfl hmem hstanding.hrow hstanding.htemplate⟩
    | _ => exact hrule
  · exact hrule

theorem Due.createJob (h : Due w now write) {input : CreateProvisionerJobInput}
    (hfree : w.jobs.lookup input.id = none) : Due (w.createJob input) now write := by
  rw [due_iff] at h ⊢
  intro id hid
  obtain ⟨row, buildId, build, job, template, owner, hstanding, hrule⟩ := h id hid
  exact ⟨row, buildId, build, job, template, owner, hstanding.createJob hfree, hrule⟩

/-- A deletion by a job that has failed is tried again after a day. -/
def Retries (job : ProvisionerJobRow) (now : OffsetDateTime) : Prop :=
  job.jobStatus = .failed →
    ∃ completedAt, job.completedAt = some completedAt ∧ 24 * 3600 * 10 ^ 9 < elapsed now completedAt

theorem Due.createBuild (h : Due w now write) {input : CreateWorkspaceBuildInput}
    {t : OffsetDateTime} (hfree : w.builds.lookup input.id = none)
    (hjob : (w.jobs.lookup input.jobId).isSome)
    (hretry : ∀ job, write = .softDelete input.workspaceId → input.transition = "delete" →
      w.jobs.lookup input.jobId = some job → Retries job now) :
    Due (w.createBuild input t hjob) now write := by
  rw [due_iff] at h ⊢
  intro id hid
  obtain ⟨row, buildId, build, job, template, owner, hstanding, hrule⟩ := h id hid
  by_cases hne : id = input.workspaceId
  · subst hne
    obtain ⟨job', hjob', hstanding'⟩ := hstanding.createBuild hjob
    refine ⟨row, _, _, job', template, owner, hstanding', ?_⟩
    cases write with
    | dormant id => exact hrule
    | softDelete id =>
      cases hid
      obtain ⟨hasleep, hpositive, hpast, -⟩ := isEligibleForDelete_iff.mp hrule
      exact isEligibleForDelete_iff.mpr
        ⟨hasleep, hpositive, hpast, fun hdelete => hretry job' rfl hdelete hjob'⟩
    | deadline => rfl
  · exact ⟨row, buildId, build, job, template, owner, hstanding.createBuild_of_ne hjob hfree hne,
      hrule⟩

end

/-! ## A tick works on each workspace once -/

/-- Different entries of a map have different keys. -/
theorem entries_pairwise {ν : Type} (m : HashMap Uuid ν) :
    m.entries.Pairwise fun a b => a.1 ≠ b.1 :=
  List.pairwise_map.mp m.nodupKeys

theorem join_pairwise (db : Database) : db.join.Pairwise fun r r' => r.buildId ≠ r'.buildId := by
  refine List.pairwise_flatMap.mpr ⟨fun workspace _ => ?_, ?_⟩
  · refine List.Pairwise.filterMap _ (fun build build' hne r hr r' hr' => ?_)
      (entries_pairwise db.builds)
    rw [(Database.joinBuild_eq_some.mp hr).1.2.2.1, (Database.joinBuild_eq_some.mp hr').1.2.2.1]
    exact hne
  · refine (entries_pairwise db.workspaces).imp_of_mem fun hmem hmem' hne r hr r' hr' heq => ?_
    obtain rfl : r' = r := join_ext (List.mem_flatMap.mpr ⟨_, hmem, hr⟩)
      (List.mem_flatMap.mpr ⟨_, hmem', hr'⟩) heq.symm
    obtain ⟨build, -, hr⟩ := List.mem_filterMap.mp hr
    obtain ⟨build', -, hr'⟩ := List.mem_filterMap.mp hr'
    exact hne ((Database.joinBuild_eq_some.mp hr).1.1.symm.trans
      (Database.joinBuild_eq_some.mp hr').1.1)

/-- The latest build of a workspace is one. -/
theorem listing_nodup (w : World) (now : OffsetDateTime) :
    ((w.database.getWorkspacesEligibleForTransition now).map (·.id)).Nodup := by
  have hpairwise := (join_pairwise w.database).filter fun r =>
    r.whereClause (w.database.maxBuildNumber r.workspaceId) now = .true
  refine List.pairwise_map.mpr (List.pairwise_map.mpr (hpairwise.imp_of_mem ?_))
  intro r r' hr hr' hne heq
  obtain ⟨hr, hwhere⟩ := List.mem_filter.mp hr
  obtain ⟨hr', hwhere'⟩ := List.mem_filter.mp hr'
  have hof : r.workspaceId = r'.workspaceId := heq
  have hlatest := latest_of_whereClause (of_decide_eq_true hwhere)
  have hnumber := hlatest.symm.trans
    (hof ▸ latest_of_whereClause (of_decide_eq_true hwhere'))
  obtain ⟨-, hbuild, hworkspace, -⟩ := Database.mem_join.mp hr
  obtain ⟨-, hbuild', hworkspace', -⟩ := Database.mem_join.mp hr'
  obtain ⟨build, hlookup, heq⟩ := Option.map_eq_some_iff.mp
    ((HashMap.lookup_project _ _ _).symm.trans hbuild)
  obtain ⟨build', hlookup', heq'⟩ := Option.map_eq_some_iff.mp
    ((HashMap.lookup_project _ _ _).symm.trans hbuild')
  refine hne (w.oneNumber _ _ build build' hlookup hlookup' ?_ ?_)
  · have hsame := hworkspace.trans (hof.trans hworkspace'.symm)
    rw [← heq, ← heq'] at hsame
    exact hsame
  · have hsame := Option.some.inj hnumber
    rw [← heq, ← heq'] at hsame
    exact hsame

theorem listing_buildId_nodup (w : World) (now : OffsetDateTime) :
    ((w.database.getWorkspacesEligibleForTransition now).map (·.buildId)).Nodup :=
  List.pairwise_map.mpr (List.pairwise_map.mpr ((join_pairwise w.database).filter _))

/-! ## The condition -/

/-- The tick has that write to make, for a row that is left. -/
def Task.Pending [Cron] (t : Task) (now : OffsetDateTime) (write : Write) : Prop :=
  ∃ worker rows stats ws, t = .working worker now rows stats ∧ ws ∈ rows ∧
    worker.decide ws now = .write write

/-- The workspace is marked dormant. -/
def Marks [Cron] (w : World) (t : Task) (choice : Choice) (id : Uuid) : Prop :=
  ∃ worker now ws row template deletingAt, choice.fails = none ∧
    t.Makes choice worker now ws (.dormant id) ∧ w.workspaces.lookup id = some row ∧
    row.deleted = false ∧ row.ownerId ≠ prebuildsUserId ∧
    w.templates.lookup row.templateId = some template ∧
    deletingAfter template (some now) = some deletingAt

/-- The next call of `t` does not get in the way of the write: no request puts a workspace to sleep
that is to be marked dormant, or wakes one that is to be deleted, and no other tick marks it. -/
structure Task.Spares [Cron] (w : World) (t : Task) (choice : Choice) (write : Write) : Prop where
  update : ∀ id dormantAt row, t = .updateDormant id dormantAt → choice.fails = none →
    w.workspaces.lookup id = some row → row.deleted = false →
      write ≠ if dormantAt.isSome then .dormant id else .softDelete id
  mark : ∀ id, Marks w t choice id → write ≠ .dormant id

/-- A flush leaves a workspace that is to be marked dormant unused for long enough, and no build is
inserted for one that is to be deleted whose deletion has failed already. -/
def Event.Spares (w : World) (now : OffsetDateTime) (write : Write) : Event → Prop
  | flush ids lastUsedAt => ∀ id row template, write = .dormant id → id ∈ ids →
    w.workspaces.lookup id = some row → w.templates.lookup row.templateId = some template →
      template.timeTilDormant < elapsed now lastUsedAt
  | createJob _ _ => True
  | createBuild input _ => ∀ job, write = .softDelete input.workspaceId →
    input.transition = "delete" → w.jobs.lookup input.jobId = some job → Retries job now

def LeavesDue [Cron] (w : Pool World Task) : Move Request Choice Event → Prop
  | .spawn _ => True
  | .run i choice => ∀ t j u now write, w.tasks[i]? = some t → j ≠ i → w.tasks[j]? = some u →
    u.Pending now write → t.Spares w.shared choice write
  | .outside event => ∀ u ∈ w.tasks, ∀ now write, u.Pending now write →
    event.Spares w.shared now write

/-- A write that a worker is about to make is due. -/
def ActsOnDue [Cron] (w : Pool World Task) : Move Request Choice Event → Prop
  | .run i choice => ∀ t worker now ws write, w.tasks[i]? = some t →
    t.Makes choice worker now ws write → Due w.shared now write
  | _ => True

/-! ## What steps keep -/

section

variable [Cron] {w w' : World} {t u : Task} {choice : Choice} {now : OffsetDateTime} {write : Write}

theorem Task.Makes.pending {worker : Worker} {ws : WorkspaceTransitionRow}
    (h : t.Makes choice worker now ws write) : t.Pending now write := by
  obtain ⟨rows, stats, rfl, hws⟩ := h.next
  exact ⟨worker, rows, stats, ws, rfl, List.mem_of_getElem? hws, h.decides⟩

theorem Worker.rule_of_decide {worker : Worker} {ws : WorkspaceTransitionRow}
    (h : worker.decide ws now = .write write) {id : Uuid} (hid : write.subject = some id) :
    ws.id = id ∧ write.rule ws now = true := by
  cases write with
  | dormant id' =>
    cases hid
    exact Worker.decide_dormant h
  | softDelete id' =>
    cases hid
    exact Worker.decide_softDelete h
  | deadline => cases hid

/-- What a tick has listed is due. -/
theorem due_of_listed {worker : Worker} {ws : WorkspaceTransitionRow}
    (h : ws ∈ w.database.getWorkspacesEligibleForTransition now)
    (hdecide : worker.decide ws now = .write write) : Due w now write := fun id hid => by
  obtain ⟨rfl, hrule⟩ := Worker.rule_of_decide hdecide hid
  exact ⟨ws, current_of_listed h, rfl, hrule⟩

theorem Due.of_effect (h : Due w now write) (heffect : Effect w choice t w')
    (hspares : t.Spares w choice write)
    (hpending : ∀ now write, t.Pending now write → Due w now write) : Due w' now write := by
  cases heffect with
  | none => exact h
  | @dormantAt id dormantAt row hfails hrow hdeleted =>
    have hne := hspares.update id dormantAt row rfl hfails hrow hdeleted
    refine h.insert hrow rfl rfl (fun hwrite _ => ⟨?_, rfl⟩) (fun hwrite _ => ⟨?_, rfl⟩)
    · cases hat : dormantAt with
      | none => rfl
      | some at' => exact absurd (by rw [hwrite, hat]; rfl) hne
    · cases hat : dormantAt with
      | none => exact absurd (by rw [hwrite, hat]; rfl) hne
      | some at' => rfl
  | @sleep _ worker now' ws id row template deletingAt hfails hmakes hrow hdeleted howner htemplate
      hdeleting =>
    have hne := hspares.mark id ⟨worker, now', ws, row, template, deletingAt, hfails, hmakes, hrow,
      hdeleted, howner, htemplate, hdeleting⟩
    refine h.insert hrow rfl rfl (fun hwrite _ => absurd hwrite hne) fun _ hasleep => ?_
    -- a workspace that is to be marked is awake
    obtain ⟨row', _, _, _, _, _, hstanding, hrule⟩ :=
      due_iff.mp (hpending now' _ hmakes.pending) id rfl
    obtain rfl : row' = row := Option.some.inj (hstanding.hrow.symm.trans hrow)
    have hawake : row'.dormantAt = none := (isEligibleForDormantStop_iff.mp hrule).1
    rw [hawake] at hasleep
    cases hasleep
  | softDelete _ _ hrow _ => exact h.insert hrow rfl rfl (fun _ h => ⟨h, rfl⟩) fun _ h => ⟨h, rfl⟩
  | extend _ => exact h.setDeadline
  | bump _ _ => exact h.setDeadline

omit [Cron] in
theorem Due.after (h : Due w now write) {event : Event} (hspares : event.Spares w now write) :
    Due (after w event) now write := by
  cases event with
  | flush ids lastUsedAt => exact h.flush hspares
  | createJob input choice =>
    simp only [Lifecycle.after, Builds.createProvisionerJob]
    split
    · exact h
    · rename_i hfree
      split <;> exact h.createJob hfree
  | createBuild input choice =>
    simp only [Lifecycle.after, Builds.insertWorkspaceBuild]
    split
    · split
      · rename_i hfree _ hjob
        exact h.createBuild hfree hjob hspares
      · exact h
    · exact h

omit [Cron] in
/-- Nothing that is left of a tick has the key of the row that is worked on. -/
theorem ne_of_mem_eraseIdx {key : WorkspaceTransitionRow → Uuid}
    {rows : List WorkspaceTransitionRow} (h : (rows.map key).Nodup) {i : Nat}
    {ws ws' : WorkspaceTransitionRow} (hws : rows[i]? = some ws) (hws' : ws' ∈ rows.eraseIdx i) :
    key ws' ≠ key ws := by
  obtain ⟨j, hne, hj⟩ := List.mem_eraseIdx_iff_getElem?.mp hws'
  intro heq
  obtain ⟨hlt, hget⟩ := List.getElem?_eq_some_iff.mp hws
  refine hne ((List.getElem?_inj (by simpa using hlt) h).mp ?_).symm
  simp [hws, hj, heq]

end

/-- The writes that a task has to make are due, and it has one row of a workspace. -/
structure Promise [Cron] (w : World) (t : Task) : Prop where
  due : ∀ now write, t.Pending now write → Due w now write
  nodup : ∀ worker now rows stats, t = .working worker now rows stats → (rows.map (·.id)).Nodup

section

variable [Rfc3339] [UuidText] [Cron]

/-- The task that makes the step keeps its own promise. -/
theorem Promise.advance {w w' : World} {choice : Choice} {t t' : Task} (h : Promise w t)
    (hadvance : advance w choice t = some (w', t')) : Promise w' t' := by
  constructor
  · rintro now write ⟨worker, rows, stats, ws, rfl, hws, hdecide⟩
    obtain ⟨rfl, rfl, rfl⟩ | ⟨rows', stats', rfl, rfl⟩ := working_of_advance hadvance
    · exact due_of_listed hws hdecide
    · have hmem := List.mem_of_mem_eraseIdx hws
      have hnodup := h.nodup worker now rows' stats' rfl
      refine (h.due now write ⟨worker, rows', stats', ws, rfl, hmem, hdecide⟩).of_effect
        (effect_of_advance hadvance) ⟨fun _ _ _ ht => (by cases ht), ?_⟩ h.due
      rintro id ⟨_, _, ws', _, _, _, -, hmakes, -⟩ rfl
      obtain ⟨_, _, heq, hws'⟩ := hmakes.next
      cases heq
      refine ne_of_mem_eraseIdx hnodup hws' hws ?_
      exact (Worker.decide_dormant hdecide).1.trans (Worker.decide_dormant hmakes.decides).1.symm
  · rintro worker now rows stats rfl
    obtain ⟨rfl, rfl, rfl⟩ | ⟨rows', stats', rfl, rfl⟩ := working_of_advance hadvance
    · exact listing_nodup w' now
    · exact (h.nodup worker now rows' stats' rfl).sublist ((List.eraseIdx_sublist _ _).map _)

theorem promise_step {w : Pool World Task} (h : ∀ t ∈ w.tasks, Promise w.shared t)
    {move : Move Request Choice Event} (hallowed : LeavesDue w move) :
    ∀ t ∈ (lifecycle.step w move).tasks, Promise (lifecycle.step w move).shared t := by
  have hsteps := lifecycle.steps_step w move
  generalize lifecycle.step w move = w' at hsteps ⊢
  cases hsteps with
  | idle => exact h
  | spawn request =>
    intro t ht
    obtain ht | ht := List.mem_append.mp ht
    · exact h t ht
    · obtain rfl := List.mem_singleton.mp ht
      have hnew : ∀ worker now rows stats,
          lifecycle.enter request ≠ .working worker now rows stats := by
        intro worker now rows stats henter
        cases request with
        | tick worker now => cases worker <;> cases henter
        | _ => cases henter
      exact ⟨fun now write ⟨worker, rows, stats, _, heq, _⟩ =>
        absurd heq (hnew worker now rows stats),
        fun worker now rows stats heq => absurd heq (hnew worker now rows stats)⟩
  | @run i choice t t' s htask hadvance =>
    have hown := h t (List.mem_of_getElem? htask)
    intro u hu
    obtain ⟨j, hj⟩ := List.mem_iff_getElem?.mp hu
    obtain ⟨-, rfl⟩ | ⟨hne, hbefore⟩ := Pool.getElem?_set_cases hj
    · exact hown.advance hadvance
    · have hother := h u (List.mem_of_getElem? hbefore)
      refine ⟨fun now write hpending => ?_, hother.nodup⟩
      exact (hother.due now write hpending).of_effect (effect_of_advance hadvance)
        (hallowed t j u now write htask hne hbefore hpending) hown.due
  | outside event =>
    intro u hu
    exact ⟨fun now write hpending => ((h u hu).due now write hpending).after
      (hallowed u hu now write hpending), (h u hu).nodup⟩

end

/-! ## Runs on fixed inputs -/

/-- Dormant, and to be deleted since an hour ago at the twenty-sixth. -/
def asleepRow : WorkspaceRow :=
  { awakeRow with
    dormantAt := some (hours 1)
    deletingAt := some (hours 25) }

def asleep : World := tablesOf asleepRow startedBuild startedBuild_job

/-- The writes that a task has to make. -/
def Task.writes [Cron] : Task → List (OffsetDateTime × Write)
  | working worker now rows _ => rows.filterMap fun ws =>
    match worker.decide ws now with
    | .write write => some (now, write)
    | _ => none
  | _ => []

theorem Task.Pending.not_isEmpty [Cron] {t : Task} {now : OffsetDateTime} {write : Write}
    (h : t.Pending now write) : ¬ t.writes.isEmpty = true := by
  obtain ⟨worker, rows, stats, ws, rfl, hws, hdecide⟩ := h
  intro hempty
  have hmem : (now, write) ∈ (Task.working worker now rows stats).writes :=
    List.mem_filterMap.mpr ⟨ws, hws, by rw [hdecide]⟩
  rw [List.isEmpty_iff.mp hempty] at hmem
  cases hmem

/-- A test that is passed where a task that has no row of a tick reads, and where it writes while
no tick has a write to make. -/
def leavesDueCheck [Cron] (w : Pool World Task) : Move Request Choice Event → Bool
  | .spawn _ => true
  | .run i choice =>
    match w.tasks[i]? with
    | none => true
    | some t => (t.updating.isNone && (t.making choice).isNone) ||
      (w.others i).all fun u => u.writes.isEmpty
  | .outside _ => w.tasks.all fun u => u.writes.isEmpty

theorem Task.Makes.making_eq [Cron] {t : Task} {choice : Choice} {worker : Worker}
    {now : OffsetDateTime} {ws : WorkspaceTransitionRow} {write : Write}
    (h : t.Makes choice worker now ws write) : t.making choice = some (now, write) := by
  obtain ⟨rows, stats, rfl, hws⟩ := h.next
  simp [Task.making, hws, h.decides]

theorem leavesDue_of_check [Cron] {w : Pool World Task} {move : Move Request Choice Event}
    (h : leavesDueCheck w move = true) : LeavesDue w move := by
  cases move with
  | spawn request => trivial
  | run i choice =>
    intro t j u now write htask hne hother hpending
    simp only [leavesDueCheck, htask, Bool.or_eq_true, Bool.and_eq_true,
      Option.isNone_iff_eq_none] at h
    obtain ⟨hupdating, hmaking⟩ | hall := h
    · constructor
      · rintro id dormantAt row rfl
        cases hupdating
      · rintro id ⟨worker, now', ws, _, _, _, -, hmakes, -⟩
        rw [hmakes.making_eq] at hmaking
        cases hmaking
    · exact absurd (List.all_eq_true.mp hall u (Pool.mem_others.mpr ⟨j, hne, hother⟩))
        hpending.not_isEmpty
  | outside event =>
    intro u hu now write hpending
    exact absurd (List.all_eq_true.mp h u hu) hpending.not_isEmpty

/-- A request to wake the workspace comes too late. -/
def lateRun : List (Move Request Choice Event) :=
  [.outside (.flush [⟨20⟩] .unixEpoch), .spawn (.tick .evaluate (hours 26)), runAt 0 (hours 26),
    .spawn (.putWorkspaceDormant Builds.owner ⟨20⟩ (some false)), runAt 1 (hours 26),
    runAt 0 (hours 26), runAt 1 (hours 26)]

/-- The workspace is woken after the tick has listed it. -/
def wokenRun : List (Move Request Choice Event) :=
  [.spawn (.tick .evaluate (hours 26)), runAt 0 (hours 26)] ++ setDormant 1 false (hours 26) ++
    [runAt 0 (hours 26)]

/-- The workspace is used after the tick has listed it. -/
def usedRun : List (Move Request Choice Event) :=
  [.spawn (.tick .dormancyCheck (hours 2)), runAt 0 (hours 2),
    .outside (.flush [⟨20⟩] (hours 2)), runAt 0 (hours 2)]

end Coderd.Lifecycle
