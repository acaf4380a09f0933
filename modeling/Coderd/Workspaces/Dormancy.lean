import Coderd.Workspaces.OneBuild
import Coderd.Workspaces.Workers

namespace Coderd.Lifecycle

open Coderd.Foundation Coderd.Rbac
open Coderd.Builds (World)
open Coderd.Catalog (WorkspaceRow)
open Coderd.CryptoKeys (OffsetDateTime)
open Coderd.Workspaces hiding WorkspaceRow WorkspaceBuildRow TemplateRow

/-! ## What a tick reads -/

/-- The row is that of the workspace with its latest build. -/
def Current (w : World) (ws : WorkspaceTransitionRow) : Prop :=
  ∃ r ∈ w.database.join, w.database.maxBuildNumber r.workspaceId = some r.build.buildNumber ∧
    r.transitionRow = ws

theorem latest_of_whereClause {r : JoinedRow} {latest : Option Int} {now : OffsetDateTime}
    (h : r.whereClause latest now = .true) : latest = some r.build.buildNumber := by
  rw [JoinedRow.whereClause, SqlBool.and_eq_true, SqlBool.compare_eq_true] at h
  obtain ⟨⟨number, number', hnumber, hlatest, heq⟩, -⟩ := h
  cases hnumber
  rw [hlatest, of_decide_eq_true heq]

theorem current_of_listed {w : World} {now : OffsetDateTime} {ws : WorkspaceTransitionRow}
    (h : ws ∈ w.database.getWorkspacesEligibleForTransition now) : Current w ws := by
  obtain ⟨r, hr, rfl⟩ := List.mem_map.mp h
  obtain ⟨hjoin, hwhere⟩ := List.mem_filter.mp hr
  exact ⟨r, hjoin, latest_of_whereClause (of_decide_eq_true hwhere), rfl⟩

/-- What is read of the workspace and its template. -/
structure ReadFrom (ws : WorkspaceTransitionRow) (row : WorkspaceRow)
    (template : Builds.TemplateRow) : Prop where
  lastUsedAt : ws.lastUsedAt = row.lastUsedAt
  dormantAt : ws.dormantAt = row.dormantAt
  deletingAt : ws.deletingAt = row.deletingAt
  timeTilDormant : ws.templateTimeTilDormant = template.timeTilDormant
  autodelete : ws.templateTimeTilDormantAutodelete = template.timeTilDormantAutodelete

theorem Current.readFrom {w : World} {ws : WorkspaceTransitionRow} (h : Current w ws) :
    ∃ row template, w.workspaces.lookup ws.id = some row ∧
      w.templates.lookup row.templateId = some template ∧ ReadFrom ws row template := by
  obtain ⟨r, hjoin, -, rfl⟩ := h
  obtain ⟨hworkspace, -, -, -, htemplate, -⟩ := Database.mem_join.mp hjoin
  obtain ⟨row, hrow, heq⟩ := Option.map_eq_some_iff.mp
    ((HashMap.lookup_project _ _ _).symm.trans hworkspace)
  obtain ⟨template, hlookup, heq'⟩ := Option.map_eq_some_iff.mp
    ((HashMap.lookup_project _ _ _).symm.trans htemplate)
  refine ⟨row, template, hrow, ?_, ?_⟩
  · rw [← heq] at hlookup
    exact hlookup
  · constructor <;> simp [JoinedRow.transitionRow, ← heq, ← heq']

/-! ## Dormancy and deletion -/

/-- `deleting_at` is what it is to be by `dormant_at` and the template. -/
structure Agrees (row : WorkspaceRow) (template : Builds.TemplateRow) : Prop where
  awake : row.dormantAt = none → row.deletingAt = none
  kept : template.timeTilDormantAutodelete ≤ 0 → row.deletingAt = none
  deleting : ∀ dormantAt, row.dormantAt = some dormantAt →
    0 < template.timeTilDormantAutodelete → ∃ deletingAt, row.deletingAt = some deletingAt ∧
      elapsed deletingAt dormantAt = template.timeTilDormantAutodelete

def Consistent (w : World) : Prop :=
  ∀ id row template, w.workspaces.lookup id = some row → row.ownerId ≠ prebuildsUserId →
    w.templates.lookup row.templateId = some template → Agrees row template

/-- The setting is a number of milliseconds, and not negative. -/
def WholeSettings (w : World) : Prop :=
  ∀ id template, w.templates.lookup id = some template → 0 ≤ template.timeTilDormantAutodelete ∧
    wholeMilliseconds template.timeTilDormantAutodelete = template.timeTilDormantAutodelete

/-- Where only `dormant_at` is written, `deleting_at` stays right exactly if nothing changes or
the template deletes no dormant workspaces. -/
theorem agrees_dormantAt_iff {row : WorkspaceRow} {template : Builds.TemplateRow}
    (h : Agrees row template) (dormantAt : Option OffsetDateTime) (now : OffsetDateTime) :
    Agrees { row with
      dormantAt := dormantAt
      updatedAt := now } template ↔
      dormantAt = row.dormantAt ∨ template.timeTilDormantAutodelete ≤ 0 := by
  constructor
  · intro h'
    by_contra hnot
    obtain ⟨hchanged, hpositive⟩ := not_or.mp hnot
    have hpositive := Int.not_le.mp hpositive
    cases hold : row.dormantAt with
    | none =>
      cases dormantAt with
      | none => exact hchanged hold.symm
      | some t =>
        obtain ⟨deletingAt, hdeleting, -⟩ := h'.deleting t rfl hpositive
        have hnone := h.awake hold
        rw [hdeleting] at hnone
        cases hnone
    | some old =>
      obtain ⟨deletingAt, hdeleting, helapsed⟩ := h.deleting old hold hpositive
      cases dormantAt with
      | none =>
        have hnone := h'.awake rfl
        rw [hdeleting] at hnone
        cases hnone
      | some t =>
        obtain ⟨deletingAt', hdeleting', helapsed'⟩ := h'.deleting t rfl hpositive
        rw [hdeleting] at hdeleting'
        cases hdeleting'
        refine hchanged (hold ▸ congrArg some (OffsetDateTime.unixNanos_injective ?_))
        unfold elapsed at helapsed helapsed'
        omega
  · rintro (rfl | hnone)
    · exact ⟨h.awake, h.kept, h.deleting⟩
    · exact ⟨fun _ => h.kept hnone, h.kept, fun _ _ hpositive => absurd hpositive (by omega)⟩

theorem agrees_sleep {row : WorkspaceRow} {template : Builds.TemplateRow} {now t : OffsetDateTime}
    {deletingAt : Option OffsetDateTime} (hsetting : 0 ≤ template.timeTilDormantAutodelete ∧
      wholeMilliseconds template.timeTilDormantAutodelete = template.timeTilDormantAutodelete)
    (h : deletingAfter template (some now) = some deletingAt) :
    Agrees { row with
      dormantAt := some now
      deletingAt := deletingAt
      updatedAt := t } template := by
  obtain ⟨hnonneg, hwhole⟩ := hsetting
  simp only [deletingAfter] at h
  split at h
  · rename_i hzero
    cases h
    exact ⟨fun _ => rfl, fun _ => rfl, fun _ _ hpositive => absurd hpositive (by omega)⟩
  · rename_i hnonzero
    obtain ⟨d, hd, rfl⟩ := Option.map_eq_some_iff.mp h
    refine ⟨fun hawake => (by cases hawake), fun hnone => absurd hnone (by omega), ?_⟩
    intro dormantAt hdormant _
    cases hdormant
    refine ⟨d, rfl, ?_⟩
    unfold OffsetDateTime.add at hd
    split at hd
    · cases hd
      simp [elapsed, hwhole]
    · cases hd

/-! ## The condition -/

/-- A request that writes `dormant_at` changes nothing, or is for a workspace whose template
deletes no dormant workspaces; it wakes a workspace when it was used last, or one that does not
fall asleep; no usage is flushed. -/
def Settles (w : Pool World Task) : Move Request Choice Event → Prop
  | .run i choice => ∀ id dormantAt row template,
    w.tasks[i]? = some (.updateDormant id dormantAt) → choice.fails = none →
    w.shared.workspaces.lookup id = some row → row.deleted = false →
    row.ownerId ≠ prebuildsUserId → w.shared.templates.lookup row.templateId = some template →
      (dormantAt = row.dormantAt ∨ template.timeTilDormantAutodelete ≤ 0) ∧
      (dormantAt = none → template.timeTilDormant ≤ 0 ∨ choice.now ≤ row.lastUsedAt)
  | .outside (.flush _ _) => False
  | _ => True

/-- The request to wake the workspace takes effect at that time. -/
structure Wakes (w : Pool World Task) (move : Move Request Choice Event) (id : Uuid)
    (t : OffsetDateTime) : Prop where
  runs : ∃ i choice, move = .run i choice ∧ w.tasks[i]? = some (.updateDormant id none) ∧
    choice.fails = none ∧ choice.now = t
  found : ∃ row, w.shared.workspaces.lookup id = some row ∧ row.deleted = false ∧
    row.ownerId ≠ prebuildsUserId

/-- A tick of that instant is about to mark the workspace dormant. -/
def Sleeps [Cron] (w : Pool World Task) (move : Move Request Choice Event) (id : Uuid)
    (now : OffsetDateTime) : Prop :=
  ∃ i choice t worker ws, move = .run i choice ∧ w.tasks[i]? = some t ∧
    t.Makes choice worker now ws (.dormant id)

/-! ## What steps keep -/

/-- Templates stay as they are, and workspaces keep their owner, template and last use. -/
structure Later (w w' : World) : Prop where
  templates : w'.templates = w.templates
  workspaces : ∀ id row, w.workspaces.lookup id = some row →
    ∃ row', w'.workspaces.lookup id = some row' ∧ row'.templateId = row.templateId ∧
      row'.ownerId = row.ownerId ∧ row'.lastUsedAt = row.lastUsedAt

namespace Later

variable {w w' : World}

theorem refl (w : World) : Later w w := ⟨rfl, fun _ row h => ⟨row, h, rfl, rfl, rfl⟩⟩

theorem trans {w'' : World} (h : Later w w') (h' : Later w' w'') : Later w w'' where
  templates := h'.templates.trans h.templates
  workspaces id row hrow := by
    obtain ⟨row', hrow', htemplate, howner, hused⟩ := h.workspaces id row hrow
    obtain ⟨row'', hrow'', htemplate', howner', hused'⟩ := h'.workspaces id row' hrow'
    exact ⟨row'', hrow'', htemplate'.trans htemplate, howner'.trans howner, hused'.trans hused⟩

/-- One row is written, but for its owner, template and last use. -/
theorem insert {id : Uuid} {old row : WorkspaceRow} (hold : w.workspaces.lookup id = some old)
    (htemplate : row.templateId = old.templateId) (howner : row.ownerId = old.ownerId)
    (hused : row.lastUsedAt = old.lastUsedAt) :
    Later w { w with workspaces := w.workspaces.insert id row } where
  templates := rfl
  workspaces id' row' hrow' := by
    simp only [HashMap.lookup_insert_ite]
    split
    · rename_i heq
      rw [heq, hold] at hrow'
      cases hrow'
      exact ⟨row, rfl, htemplate, howner, hused⟩
    · exact ⟨row', hrow', rfl, rfl, rfl⟩

theorem of_effect [Cron] {choice : Choice} {t : Task} (h : Effect w choice t w') : Later w w' := by
  cases h with
  | none => exact .refl w
  | dormantAt _ hrow _ => exact .insert hrow rfl rfl rfl
  | sleep _ _ hrow _ _ _ _ => exact .insert hrow rfl rfl rfl
  | softDelete _ _ hrow _ => exact .insert hrow rfl rfl rfl
  | extend _ => exact ⟨rfl, fun _ row hrow => ⟨row, hrow, rfl, rfl, rfl⟩⟩
  | bump _ _ => exact ⟨rfl, fun _ row hrow => ⟨row, hrow, rfl, rfl, rfl⟩⟩

end Later

/-- The tables that are not about builds and jobs stay as they are. -/
theorem after_build (w : World) {event : Event}
    (h : ∀ ids lastUsedAt, event ≠ .flush ids lastUsedAt) :
    (after w event).workspaces = w.workspaces ∧ (after w event).templates = w.templates := by
  cases event with
  | flush ids lastUsedAt => exact absurd rfl (h ids lastUsedAt)
  | createJob input choice =>
    simp only [after, Builds.createProvisionerJob]
    split
    · exact ⟨rfl, rfl⟩
    · split <;> exact ⟨rfl, rfl⟩
  | createBuild input choice =>
    simp only [after, Builds.insertWorkspaceBuild]
    split
    · split <;> exact ⟨rfl, rfl⟩
    · exact ⟨rfl, rfl⟩

/-- The row tells the last use of the workspace, and when its template lets it fall asleep. -/
def Read (w : World) (ws : WorkspaceTransitionRow) : Prop :=
  ∃ row template, w.workspaces.lookup ws.id = some row ∧
    w.templates.lookup row.templateId = some template ∧ ws.lastUsedAt = row.lastUsedAt ∧
    ws.templateTimeTilDormant = template.timeTilDormant

theorem Read.later {w w' : World} {ws : WorkspaceTransitionRow} (h : Read w ws)
    (hlater : Later w w') : Read w' ws := by
  obtain ⟨row, template, hrow, htemplate, hused, htil⟩ := h
  obtain ⟨row', hrow', hof, -, hused'⟩ := hlater.workspaces ws.id row hrow
  refine ⟨row', template, hrow', ?_, hused.trans hused'.symm, htil⟩
  rw [hlater.templates, hof, htemplate]

/-- What holds in every state of a run that meets the condition. -/
structure Kept (w : Pool World Task) : Prop where
  consistent : Consistent w.shared
  settings : WholeSettings w.shared
  read : ∀ worker now rows stats, Task.working worker now rows stats ∈ w.tasks → ∀ ws ∈ rows,
    Read w.shared ws

namespace Kept

variable {w : Pool World Task}

/-- A row that is written agrees with its template, if it did before. -/
theorem consistent_insert {w : World} (h : Consistent w) {id : Uuid} {old row : WorkspaceRow}
    (hold : w.workspaces.lookup id = some old) (htemplate : row.templateId = old.templateId)
    (howner : row.ownerId = old.ownerId)
    (hagrees : ∀ template, old.ownerId ≠ prebuildsUserId →
      w.templates.lookup old.templateId = some template → Agrees old template →
      Agrees row template) :
    Consistent { w with workspaces := w.workspaces.insert id row } := by
  intro id' row' template hrow' howner' hlookup
  simp only [HashMap.lookup_insert_ite] at hrow'
  split at hrow'
  · cases hrow'
    rw [howner] at howner'
    rw [htemplate] at hlookup
    exact hagrees template howner' hlookup (h id old template hold howner' hlookup)
  · exact h id' row' template hrow' howner' hlookup

theorem consistent_effect [Cron] {w w' : World} {choice : Choice} {t : Task} (h : Consistent w)
    (hsettings : WholeSettings w) (heffect : Effect w choice t w')
    (hallowed : ∀ id dormantAt row template, t = .updateDormant id dormantAt →
      choice.fails = none → w.workspaces.lookup id = some row → row.deleted = false →
      row.ownerId ≠ prebuildsUserId → w.templates.lookup row.templateId = some template →
      dormantAt = row.dormantAt ∨ template.timeTilDormantAutodelete ≤ 0) : Consistent w' := by
  cases heffect with
  | none => exact h
  | @dormantAt id dormantAt row hfails hrow hdeleted =>
    refine consistent_insert h hrow rfl rfl fun template howner htemplate hagrees => ?_
    exact (agrees_dormantAt_iff hagrees dormantAt choice.now).mpr
      (hallowed id dormantAt row template rfl hfails hrow hdeleted howner htemplate)
  | @sleep _ _ _ _ _ row template deletingAt _ _ hrow _ _ htemplate hdeleting =>
    refine consistent_insert h hrow rfl rfl fun template' _ htemplate' _ => ?_
    obtain rfl : template = template' := Option.some.inj (htemplate.symm.trans htemplate')
    exact agrees_sleep (hsettings _ template htemplate) hdeleting
  | softDelete _ _ hrow _ =>
    refine consistent_insert h hrow rfl rfl fun template _ _ hagrees => ?_
    exact ⟨hagrees.awake, hagrees.kept, hagrees.deleting⟩
  | extend _ => exact h
  | bump _ _ => exact h

variable [Rfc3339] [UuidText] [Cron]

theorem step (h : Kept w) {move : Move Request Choice Event} (hallowed : Settles w move) :
    Kept (lifecycle.step w move) ∧ Later w.shared (lifecycle.step w move).shared := by
  have hsteps := lifecycle.steps_step w move
  generalize lifecycle.step w move = w' at hsteps ⊢
  cases hsteps with
  | idle => exact ⟨h, .refl _⟩
  | spawn request =>
    refine ⟨⟨h.consistent, h.settings, fun worker now rows stats ht => ?_⟩, .refl _⟩
    refine h.read worker now rows stats ((List.mem_append.mp ht).resolve_right fun hnew => ?_)
    have henter := List.mem_singleton.mp hnew
    cases request with
    | tick worker now => cases worker <;> cases henter
    | _ => cases henter
  | @run i choice t t' s htask hadvance =>
    have heffect := effect_of_advance hadvance
    have hlater := Later.of_effect heffect
    refine ⟨⟨?_, ?_, fun worker now rows stats ht ws hws => ?_⟩, hlater⟩
    · refine consistent_effect h.consistent h.settings heffect ?_
      rintro id dormantAt row template rfl hfails hrow hdeleted howner htemplate
      exact (hallowed id dormantAt row template htask hfails hrow hdeleted howner htemplate).1
    · intro id template htemplate
      exact h.settings id template (hlater.templates ▸ htemplate)
    · obtain ht | rfl := List.mem_or_eq_of_mem_set ht
      · exact (h.read worker now rows stats ht ws hws).later hlater
      · obtain ⟨-, rfl, rfl⟩ | ⟨rows', stats', rfl, rfl⟩ := working_of_advance hadvance
        · obtain ⟨row, template, hrow, htemplate, hread⟩ := (current_of_listed hws).readFrom
          exact ⟨row, template, hrow, htemplate, hread.lastUsedAt, hread.timeTilDormant⟩
        · have hmem := List.mem_of_mem_eraseIdx hws
          exact (h.read worker now rows' stats' (List.mem_of_getElem? htask) ws hmem).later hlater
  | outside event =>
    have hflush : ∀ ids lastUsedAt, event ≠ .flush ids lastUsedAt := by
      rintro ids lastUsedAt rfl
      exact hallowed
    obtain ⟨hworkspaces, htemplates⟩ := after_build w.shared hflush
    have hlater : Later w.shared (after w.shared event) :=
      ⟨htemplates, fun id row hrow => ⟨row, hworkspaces ▸ hrow, rfl, rfl, rfl⟩⟩
    refine ⟨⟨fun id row template hrow howner htemplate => ?_, fun id template htemplate => ?_,
      fun worker now rows stats ht ws hws => ?_⟩, hlater⟩
    · exact h.consistent id row template (hworkspaces ▸ hrow) howner (htemplates ▸ htemplate)
    · exact h.settings id template (htemplates ▸ htemplate)
    · exact (h.read worker now rows stats ht ws hws).later hlater

theorem run (h : Kept w) {moves : List (Move Request Choice Event)}
    (hrun : Along lifecycle.step Settles w moves) :
    Kept (lifecycle.run w moves) ∧ Later w.shared (lifecycle.run w moves).shared := by
  induction moves generalizing w with
  | nil => exact ⟨h, .refl _⟩
  | cons move moves ih =>
    obtain ⟨hallowed, hrest⟩ := hrun
    obtain ⟨hstep, hlater⟩ := h.step hallowed
    obtain ⟨hafter, hlater'⟩ := ih hstep hrest
    exact ⟨hafter, hlater.trans hlater'⟩

end Kept

/-- A mark comes as long after the workspace was woken as its template says, if it was used
since. -/
theorem elapsed_of_sleeps [Cron] {w : Pool World Task} {move : Move Request Choice Event}
    {id : Uuid} {now t : OffsetDateTime} (h : Kept w) (hsleeps : Sleeps w move id now)
    {row : WorkspaceRow} {template : Builds.TemplateRow}
    (hrow : w.shared.workspaces.lookup id = some row)
    (htemplate : w.shared.templates.lookup row.templateId = some template)
    (hused : template.timeTilDormant ≤ 0 ∨ t ≤ row.lastUsedAt) :
    template.timeTilDormant ≤ elapsed now t := by
  obtain ⟨i, choice, task, worker, ws, -, htask, hmakes⟩ := hsleeps
  obtain ⟨rows, stats, rfl, hws⟩ := hmakes.next
  obtain ⟨rfl, heligible⟩ := Worker.decide_dormant hmakes.decides
  obtain ⟨-, hpositive, helapsed⟩ := isEligibleForDormantStop_iff.mp heligible
  obtain ⟨row', template', hrow', htemplate', hread, htil⟩ :=
    h.read worker now rows stats (List.mem_of_getElem? htask) ws (List.mem_of_getElem? hws)
  obtain rfl : row = row' := Option.some.inj (hrow.symm.trans hrow')
  obtain rfl : template = template' := Option.some.inj (htemplate.symm.trans htemplate')
  rw [htil] at hpositive helapsed
  rw [hread] at helapsed
  obtain hnever | hsince := hused
  · exact absurd hpositive (Int.not_lt.mpr hnever)
  · have hle : t.unixNanos ≤ row.lastUsedAt.unixNanos := hsince
    unfold elapsed at helapsed ⊢
    omega

section

variable [Rfc3339] [UuidText] [Cron]

end

/-! ## Runs on fixed inputs -/

/-- RFC 3339 texts that are not read. -/
@[reducible] def unread : Rfc3339 where
  parse _ := none

def hours (n : Nat) : OffsetDateTime :=
  (OffsetDateTime.unixEpoch.add (n * (3600 * 10 ^ 9))).getD .unixEpoch

/-- Dormant after an hour without use, deleted a day after that. -/
def drowsyTemplate : Builds.TemplateRow :=
  { Builds.templateOf Builds.orgId ⟨6⟩ with
    timeTilDormant := 3600 * 10 ^ 9
    timeTilDormantAutodelete := 24 * 3600 * 10 ^ 9 }

def awakeRow : WorkspaceRow where
  createdAt := .unixEpoch
  updatedAt := .unixEpoch
  deleted := false
  ownerId := Builds.userId
  organizationId := Builds.orgId
  templateId := Builds.templateId
  name := "dev"
  autostartSchedule := none
  ttl := none
  lastUsedAt := .unixEpoch
  dormantAt := none
  deletingAt := none
  automaticUpdates := "never"
  nextStartAt := none

def startedBuild : Catalog.WorkspaceBuildRow where
  createdAt := .unixEpoch
  updatedAt := .unixEpoch
  workspaceId := ⟨20⟩
  buildNumber := 1
  transition := "start"
  jobId := some ⟨21⟩
  templateVersionId := ⟨6⟩
  initiatorId := Builds.userId
  provisionerState := none
  deadline := none
  maxDeadline := none
  reason := "initiator"
  dailyCost := 0

def doneJob : Provisioner.ProvisionerJobRow where
  createdAt := .unixEpoch
  updatedAt := .unixEpoch
  startedAt := some .unixEpoch
  canceledAt := none
  completedAt := some .unixEpoch
  error := ""
  errorCode := ""
  organizationId := Builds.orgId
  provisioner := .echo
  tags := ∅
  workerId := none

/-- One workspace, with a build that has been made. -/
def tablesOf (row : WorkspaceRow) (build : Catalog.WorkspaceBuildRow)
    (hjob : build.jobId = some ⟨21⟩) : World :=
  { Builds.oneTemplate with
    templates := HashMap.singleRow Builds.templateId drowsyTemplate
    workspaces := HashMap.singleRow ⟨20⟩ row
    builds := HashMap.singleRow ⟨22⟩ build
    jobs := HashMap.singleRow ⟨21⟩ doneJob
    jobOfBuild := by
      intro id row' jobId hrow hof
      obtain ⟨-, rfl⟩ := HashMap.lookup_singleRow.mp hrow
      rw [hjob, Option.some.injEq] at hof
      rw [← hof, HashMap.lookup_singleRow_self]
      rfl
    oneNumber := by
      intro id id' row' row'' hrow hrow' _ _
      rw [(HashMap.lookup_singleRow.mp hrow).1, (HashMap.lookup_singleRow.mp hrow').1] }

theorem startedBuild_job : startedBuild.jobId = some ⟨21⟩ := rfl

def awake : World := tablesOf awakeRow startedBuild startedBuild_job

@[reducible] def plainLifecycle : Program World Task Request Choice Event :=
  @lifecycle unread Uuid.hyphenated everyMinute

abbrev plainPool (w : World) (moves : List (Move Request Choice Event)) : Pool World Task :=
  plainLifecycle.run { shared := w, tasks := [] } moves

/-- The next call of a task, at that time. -/
def runAt (task : Nat) (now : OffsetDateTime) : Move Request Choice Event :=
  .run task ⟨now, 0, none⟩

def setDormant (task : Nat) (dormant : Bool) (now : OffsetDateTime) :
    List (Move Request Choice Event) :=
  [.spawn (.putWorkspaceDormant Builds.owner ⟨20⟩ (some dormant)), runAt task now, runAt task now]

/-- A tick of a worker at that time, up to its first row. -/
def tickAt (task : Nat) (worker : Worker) (now : OffsetDateTime) :
    List (Move Request Choice Event) :=
  [.spawn (.tick worker now), runAt task now, runAt task now]

theorem awake_consistent : Consistent awake := by
  intro id row template hrow _ _
  obtain ⟨-, rfl⟩ := HashMap.lookup_singleRow.mp hrow
  exact ⟨fun _ => rfl, fun _ => rfl, fun _ hdormant => by cases hdormant⟩

theorem awake_wholeSettings : WholeSettings awake := by
  intro id template htemplate
  obtain ⟨-, rfl⟩ := HashMap.lookup_singleRow.mp htemplate
  decide

/-- A test that is passed where workspaces are woken that are awake, and were used last. -/
def settlesCheck (w : Pool World Task) : Move Request Choice Event → Bool
  | .run i choice =>
    match w.tasks[i]? with
    | some (.updateDormant id dormantAt) => (w.shared.workspaces.lookup id).all fun row =>
      dormantAt = row.dormantAt && choice.now ≤ row.lastUsedAt
    | _ => true
  | .outside (.flush _ _) => false
  | _ => true

theorem settles_of_check {w : Pool World Task} {move : Move Request Choice Event}
    (h : settlesCheck w move = true) : Settles w move := by
  cases move with
  | spawn request => trivial
  | run i choice =>
    intro id dormantAt row template htask _ hrow _ _ _
    simp only [settlesCheck, htask, hrow, Option.all_some, Bool.and_eq_true, decide_eq_true_eq] at h
    exact ⟨.inl h.1, fun _ => .inr h.2⟩
  | outside event =>
    cases event with
    | flush ids lastUsedAt => cases h
    | _ => trivial

/-- The workspace is woken as it was used, and falls asleep two hours later. -/
def restRun : List (Move Request Choice Event) :=
  setDormant 0 false .unixEpoch ++ tickAt 1 .dormancyCheck (hours 2)

/-- The task is about to write `dormant_at`. -/
def Task.updating : Task → Option (Uuid × Option OffsetDateTime)
  | .updateDormant id dormantAt => some (id, dormantAt)
  | _ => none

theorem Task.eq_of_updating {t : Task} {id : Uuid} {dormantAt : Option OffsetDateTime}
    (h : t.updating = some (id, dormantAt)) : t = .updateDormant id dormantAt := by
  cases t <;> cases h
  rfl

/-- The workspace is woken two hours after it was used. -/
def wakeRun : List (Move Request Choice Event) :=
  setDormant 0 false (hours 2) ++ tickAt 1 .dormancyCheck (hours 2)

end Coderd.Lifecycle
