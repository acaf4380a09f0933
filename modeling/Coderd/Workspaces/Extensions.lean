import Coderd.Workspaces.StillDue

namespace Coderd.Lifecycle

open Coderd.Foundation Coderd.Rbac
open Coderd.Builds (World CreateProvisionerJobInput CreateWorkspaceBuildInput)
open Coderd.Catalog (WorkspaceBuildRow)
open Coderd.CryptoKeys (OffsetDateTime)
open Coderd.Workspaces hiding WorkspaceRow WorkspaceBuildRow TemplateRow

/-! ## Deadlines -/

/-- No later than the limit, where one is set. The epoch stands for none. -/
def Within (deadline maxDeadline : Option OffsetDateTime) : Prop :=
  ∀ t max, deadline = some t → setDeadline maxDeadline = some max → t ≤ max

def Bounded (w : World) : Prop :=
  ∀ id build, w.builds.lookup id = some build → Within build.deadline build.maxDeadline

theorem within_self (deadline : Option OffsetDateTime) : Within deadline deadline := by
  intro t max ht hmax
  rw [setDeadline_eq_some hmax] at ht
  cases ht
  exact le_refl _

theorem within_clampDeadline (deadline : OffsetDateTime) (maxDeadline : Option OffsetDateTime) :
    Within (some (clampDeadline deadline maxDeadline)) maxDeadline := by
  intro t max ht hmax
  cases ht
  rw [setDeadline_eq_some hmax]
  simp only [clampDeadline]
  split
  · exact le_refl _
  · rename_i hle
    exact not_lt.mp hle

theorem within_clampToMax (maxDeadline : Option OffsetDateTime) (deadline : OffsetDateTime) :
    Within (some (clampToMax maxDeadline deadline)) maxDeadline := by
  intro t max ht hmax
  cases ht
  have hclamp := unixNanos_clampToMax maxDeadline deadline
  rw [hmax] at hclamp
  show (clampToMax maxDeadline deadline).unixNanos ≤ max.unixNanos
  rw [hclamp]
  exact min_le_right _ _

theorem within_bump {ws : WorkspaceTransitionRow} {now deadline : OffsetDateTime}
    (h : bump ws now = .update deadline) : Within (some deadline) ws.maxDeadline := by
  obtain ⟨-, -, -, _, _, extended, -, -, -, -, -, rfl⟩ := bump_eq_update.mp h
  exact within_clampToMax ws.maxDeadline extended

/-- A deadline is brought forward by no bump, as the tick has read it. -/
theorem le_of_bump {ws : WorkspaceTransitionRow} {now deadline stored : OffsetDateTime}
    (h : bump ws now = .update deadline) (hstored : ws.buildDeadline = some stored) :
    stored ≤ deadline := by
  obtain ⟨-, -, -, _, current, _, -, -, hcurrent, -, hlater, rfl⟩ := bump_eq_update.mp h
  obtain rfl : stored = current :=
    Option.some.inj (hstored.symm.trans (setDeadline_eq_some hcurrent))
  exact hlater.le

/-! ## What is stored -/

/-- The next call of the task stores the deadline, if there is such a build. -/
def Task.Stores [Cron] (t : Task) (choice : Choice) (buildId : Uuid)
    (deadline maxDeadline : Option OffsetDateTime) : Prop :=
  choice.fails = none ∧ (t = .updateDeadline buildId deadline maxDeadline ∨
    ∃ worker now ws new, t.Makes choice worker now ws (.deadline buildId new maxDeadline) ∧
      deadline = some new)

/-- No step stores a deadline that is later than one that a tick is to store for the build, and a
build is inserted with its `deadline` and its `max_deadline` the same, or without. -/
def LeavesBumps [Cron] (w : Pool World Task) : Move Request Choice Event → Prop
  | .run i choice => ∀ t j u now buildId new max deadline max', w.tasks[i]? = some t → j ≠ i →
    w.tasks[j]? = some u → u.Pending now (.deadline buildId new max) →
      t.Stores choice buildId (some deadline) max' → deadline ≤ new
  | .outside (.createBuild input _) => input.deadline = input.maxDeadline
  | _ => True

/-- An extension is stored. -/
def Extends (w : Pool World Task) (move : Move Request Choice Event) (buildId : Uuid)
    (deadline : OffsetDateTime) : Prop :=
  ∃ i choice max, move = .run i choice ∧
    w.tasks[i]? = some (.updateDeadline buildId (some deadline) max) ∧ choice.fails = none ∧
    (w.shared.builds.lookup buildId).isSome

/-- A bump brings the deadline of the build forward, to before `t`. -/
def Lowers [Cron] (w : Pool World Task) (move : Move Request Choice Event) (buildId : Uuid)
    (t : OffsetDateTime) : Prop :=
  ∃ i choice task worker now ws new max build deadline, move = .run i choice ∧
    w.tasks[i]? = some task ∧ task.Makes choice worker now ws (.deadline buildId new max) ∧
    choice.fails = none ∧ w.shared.builds.lookup buildId = some build ∧
    build.deadline = some deadline ∧ new < deadline ∧ new < t

section

variable [Cron] {w w' : World} {choice : Choice} {t : Task}

/-- The builds after a step of a task. -/
theorem builds_of_effect (h : Effect w choice t w') : w'.builds = w.builds ∨
    ∃ buildId deadline maxDeadline, t.Stores choice buildId deadline maxDeadline ∧
      w' = (updateWorkspaceBuildDeadline w buildId deadline maxDeadline choice.now).2 := by
  cases h with
  | extend hfails => exact .inr ⟨_, _, _, ⟨hfails, .inl rfl⟩, rfl⟩
  | bump hfails hmakes => exact .inr ⟨_, _, _, ⟨hfails, .inr ⟨_, _, _, _, hmakes, rfl⟩⟩, rfl⟩
  | _ => exact .inl rfl

end

theorem lookup_of_findLatestWorkspaceBuild {w : World} {workspaceId : Uuid}
    {build : Catalog.WorkspaceBuildRecord}
    (h : Builds.findLatestWorkspaceBuild w workspaceId = .ok (some build)) :
    ∃ row, w.builds.lookup build.id = some row ∧ row.maxDeadline = build.maxDeadline := by
  unfold Builds.findLatestWorkspaceBuild Catalog.workspaceBuildRecordFromRow at h
  split at h
  · cases h
  · rename_i id row hgreatest
    obtain ⟨hlookup, -⟩ := HashMap.selectGreatest_spec hgreatest
    split at h
    · rename_i hrecord
      cases h
      split at hrecord
      · cases hrecord
      · cases hrecord
        exact ⟨row, hlookup, rfl⟩
    · cases h

/-! ## What steps keep -/

/-- The `max_deadline` of a build that a task has read is the one of the build, and what a tick has
to store is no earlier than what is stored. -/
structure Mindful [Cron] (w : World) (t : Task) : Prop where
  extension : ∀ buildId deadline maxDeadline, t = .updateDeadline buildId deadline maxDeadline →
    Within deadline maxDeadline ∧
      ∃ build, w.builds.lookup buildId = some build ∧ build.maxDeadline = maxDeadline
  rows : ∀ worker now rows stats, t = .working worker now rows stats →
    (rows.map (·.buildId)).Nodup ∧ ∀ ws ∈ rows,
      ∃ build, w.builds.lookup ws.buildId = some build ∧ build.maxDeadline = ws.maxDeadline
  later : ∀ now buildId new max build deadline, t.Pending now (.deadline buildId new max) →
    w.builds.lookup buildId = some build → build.deadline = some deadline → deadline ≤ new

section

variable [Cron] {w w' : World} {choice : Choice} {t u : Task} {buildId : Uuid}
  {deadline maxDeadline : Option OffsetDateTime}

theorem Mindful.stores (h : Mindful w t) (hstores : t.Stores choice buildId deadline maxDeadline) :
    Within deadline maxDeadline ∧
      ∃ build, w.builds.lookup buildId = some build ∧ build.maxDeadline = maxDeadline := by
  obtain ⟨-, ht | ⟨worker, now, ws, new, hmakes, rfl⟩⟩ := hstores
  · exact h.extension buildId deadline maxDeadline ht
  · obtain ⟨rows, stats, ht, hws⟩ := hmakes.next
    obtain ⟨hbump, rfl, rfl⟩ := Worker.decide_deadline hmakes.decides
    exact ⟨within_bump hbump, (h.rows worker now rows stats ht).2 ws (List.mem_of_getElem? hws)⟩

/-- What another task may count on after a deadline has been stored. -/
theorem Mindful.setDeadline (h : Mindful w u) (hown : Mindful w t)
    (hstores : t.Stores choice buildId deadline maxDeadline)
    (hlater : ∀ now new max t, u.Pending now (.deadline buildId new max) → deadline = some t →
      t ≤ new) {now : OffsetDateTime} :
    Mindful (updateWorkspaceBuildDeadline w buildId deadline maxDeadline now).2 u := by
  have hlookup : ∀ id, (updateWorkspaceBuildDeadline w buildId deadline maxDeadline
      now).2.builds.lookup id = _ := fun id => HashMap.lookup_mapValues w.builds _ id
  obtain ⟨-, stored, hstored, hmax⟩ := hown.stores hstores
  have hkeeps : ∀ {id build}, w.builds.lookup id = some build →
      ∃ build',
        (updateWorkspaceBuildDeadline w buildId deadline maxDeadline now).2.builds.lookup id =
          some build' ∧ build'.maxDeadline = build.maxDeadline := by
    intro id build hbuild
    refine ⟨_, (hlookup id).trans (by rw [hbuild]; rfl), ?_⟩
    split
    · rename_i hid
      rw [hid, hstored] at hbuild
      cases hbuild
      exact hmax.symm
    · rfl
  refine ⟨fun id d m hu => ?_, fun worker tick rows stats hu => ?_, ?_⟩
  · obtain ⟨hwithin, build, hbuild, rfl⟩ := h.extension id d m hu
    exact ⟨hwithin, hkeeps hbuild⟩
  · obtain ⟨hnodup, hrows⟩ := h.rows worker tick rows stats hu
    refine ⟨hnodup, fun ws hws => ?_⟩
    obtain ⟨build, hbuild, hsame⟩ := hrows ws hws
    exact hsame ▸ hkeeps hbuild
  · intro tick id new max build t' hpending hbuild hdeadline
    rw [hlookup, Option.map_eq_some_iff] at hbuild
    obtain ⟨old, hold, rfl⟩ := hbuild
    split at hdeadline
    · rename_i hid
      subst hid
      exact hlater tick new max t' hpending hdeadline
    · exact h.later tick id new max old t' hpending hold hdeadline

theorem Mindful.of_effect (h : Mindful w u) (hown : Mindful w t) (heffect : Effect w choice t w')
    (hlater : ∀ buildId deadline maxDeadline now new max,
      t.Stores choice buildId (some deadline) maxDeadline →
      u.Pending now (.deadline buildId new max) → deadline ≤ new) : Mindful w' u := by
  obtain hsame | ⟨buildId, deadline, maxDeadline, hstores, rfl⟩ := builds_of_effect heffect
  · exact ⟨hsame ▸ h.extension, hsame ▸ h.rows, hsame ▸ h.later⟩
  · refine h.setDeadline hown hstores fun now new max t' hpending heq => ?_
    exact hlater buildId t' maxDeadline now new max (heq ▸ hstores) hpending

theorem bounded_of_effect (h : Bounded w) (hown : Mindful w t) (heffect : Effect w choice t w') :
    Bounded w' := by
  obtain hsame | ⟨buildId, deadline, maxDeadline, hstores, rfl⟩ := builds_of_effect heffect
  · intro id build hbuild
    exact h id build (hsame ▸ hbuild)
  · intro id build hbuild
    have hlookup := (HashMap.lookup_mapValues w.builds _ id).symm.trans hbuild
    obtain ⟨old, hold, rfl⟩ := Option.map_eq_some_iff.mp hlookup
    split
    · exact (hown.stores hstores).1
    · exact h id old hold

end

section

variable [Rfc3339] [UuidText] [Cron] {w w' : World} {choice : Choice} {t t' : Task}

/-- What a request stores is what it has made of the build that it has read. -/
theorem extension_of_advance {buildId : Uuid} {deadline maxDeadline : Option OffsetDateTime}
    (h : advance w choice t = some (w', .updateDeadline buildId deadline maxDeadline)) :
    w' = w ∧ Within deadline maxDeadline ∧
      ∃ build, w.builds.lookup buildId = some build ∧ build.maxDeadline = maxDeadline := by
  cases t with
  | putWorkspaceDormant actor id dormant =>
    simp only [advance, advanceDormant] at h
    cases hfails : choice.fails with
    | some e => simp [hfails] at h
    | none =>
      simp only [hfails, Option.elim_none, Option.some.injEq, Prod.mk.injEq] at h
      obtain ⟨-, h⟩ := h
      repeat' split at h
      all_goals cases h
  | putWorkspaceExtend actor id text =>
    simp only [advance, advanceExtend] at h
    cases hfails : choice.fails with
    | some e => simp [hfails] at h
    | none =>
      simp only [hfails, Option.elim_none, Option.some.injEq, Prod.mk.injEq] at h
      obtain ⟨-, h⟩ := h
      repeat' split at h
      all_goals cases h
  | updateDormant id dormantAt =>
    simp only [advance] at h
    split at h
    · cases h
    · split at h <;> cases h
  | findBuild id t =>
    simp only [advance] at h
    split at h
    any_goals cases h
    rename_i build hfind
    exact ⟨rfl, within_clampDeadline _ _, lookup_of_findLatestWorkspaceBuild hfind⟩
  | updateDeadline id deadline maxDeadline =>
    simp only [advance] at h
    split at h <;> cases h
  | listing worker now =>
    simp only [advance] at h
    split at h <;> cases h
  | working worker now rows stats =>
    simp only [advance] at h
    split at h
    · cases h
    · simp only [advanceWorking] at h
      split at h
      · cases h
      · cases h
      · split at h <;> cases h
  | _ => cases h

omit [Rfc3339] [UuidText] in
theorem Mindful.eraseIdx {worker : Worker} {now : OffsetDateTime}
    {rows : List WorkspaceTransitionRow} {stats : AutobuildStats}
    (h : Mindful w (.working worker now rows stats)) (i : Nat) (stats' : AutobuildStats) :
    Mindful w (.working worker now (rows.eraseIdx i) stats') := by
  refine ⟨fun _ _ _ ht => (by cases ht), fun _ _ _ _ ht => ?_, ?_⟩
  · cases ht
    obtain ⟨hnodup, hrows⟩ := h.rows worker now rows stats rfl
    exact ⟨hnodup.sublist ((List.eraseIdx_sublist _ _).map _),
      fun ws hws => hrows ws (List.mem_of_mem_eraseIdx hws)⟩
  · rintro tick buildId new max build deadline ⟨_, _, _, ws, ht, hws, hdecide⟩
    cases ht
    exact h.later now buildId new max build deadline
      ⟨worker, rows, stats, ws, rfl, List.mem_of_mem_eraseIdx hws, hdecide⟩

/-- A task that makes a step goes on with what it may count on. -/
theorem Mindful.advance (h : Mindful w t) (hadvance : advance w choice t = some (w', t')) :
    Mindful w' t' := by
  cases t' with
  | updateDeadline buildId deadline maxDeadline =>
    obtain ⟨rfl, hread⟩ := extension_of_advance hadvance
    refine ⟨fun _ _ _ ht => ?_, fun _ _ _ _ ht => (by cases ht), ?_⟩
    · cases ht
      exact hread
    · rintro _ _ _ _ _ _ ⟨_, _, _, _, ht, _⟩
      cases ht
  | working worker now rows stats =>
    obtain ⟨rfl, rfl, rfl⟩ | ⟨rows', stats', rfl, rfl⟩ := working_of_advance hadvance
    · -- what is listed is as it is stored
      refine ⟨fun _ _ _ ht => (by cases ht), fun _ _ _ _ ht => ?_, ?_⟩
      · cases ht
        refine ⟨listing_buildId_nodup w' now, fun ws hws => ?_⟩
        obtain ⟨_, _, build, _, _, _, hstanding, heq⟩ := current_iff.mp (current_of_listed hws)
        rw [heq]
        exact ⟨build, hstanding.hbuild, rfl⟩
      · rintro _ _ new max build deadline ⟨_, _, _, ws, ht, hws, hdecide⟩ hbuild hdeadline
        cases ht
        obtain ⟨_, _, build', _, _, _, hstanding, heq⟩ := current_iff.mp (current_of_listed hws)
        obtain ⟨hbump, rfl, rfl⟩ := Worker.decide_deadline hdecide
        refine le_of_bump hbump ?_
        rw [heq] at hbuild ⊢
        obtain rfl : build' = build := Option.some.inj (hstanding.hbuild.symm.trans hbuild)
        exact hdeadline
    · refine (h.eraseIdx _ stats).of_effect h (effect_of_advance hadvance) ?_
      rintro buildId deadline max tick new max' ⟨-, hnot | ⟨_, _, ws, _, hmakes, -⟩⟩
        ⟨_, _, _, ws', ht, hws', hdecide⟩
      · cases hnot
      · cases ht
        obtain ⟨_, _, heq, hws⟩ := hmakes.next
        cases heq
        have hne := ne_of_mem_eraseIdx (h.rows worker now rows' stats' rfl).1 hws hws'
        obtain ⟨-, hid, -⟩ := Worker.decide_deadline hdecide
        obtain ⟨-, hid', -⟩ := Worker.decide_deadline hmakes.decides
        exact absurd (hid.trans hid'.symm) hne
  | _ =>
    refine ⟨fun _ _ _ ht => (by cases ht), fun _ _ _ _ ht => (by cases ht), ?_⟩
    rintro _ _ _ _ _ _ ⟨_, _, _, _, ht, _⟩
    cases ht

omit [Rfc3339] [UuidText] [Cron] in
/-- The builds that there are stay as they are, and one is inserted at most. -/
theorem lookup_after {event : Event} {id : Uuid} {build : WorkspaceBuildRow}
    (h : (after w event).builds.lookup id = some build) :
    w.builds.lookup id = some build ∨ ∃ input choice number now,
      event = .createBuild input choice ∧ build = input.row number now := by
  cases event with
  | flush ids lastUsedAt => exact .inl h
  | createJob input choice =>
    simp only [after, Builds.createProvisionerJob] at h
    split at h
    · exact .inl h
    · split at h <;> exact .inl h
  | createBuild input choice =>
    simp only [after, Builds.insertWorkspaceBuild] at h
    split at h
    · split at h
      · have hlookup := (HashMap.lookup_insert_ite _ _ _ _).symm.trans h
        split at hlookup
        · cases hlookup
          exact .inr ⟨input, choice, _, _, rfl, rfl⟩
        · exact .inl hlookup
      · exact .inl h
    · exact .inl h

omit [Rfc3339] [UuidText] [Cron] in
theorem lookup_after_of_lookup {event : Event} {id : Uuid} {build : WorkspaceBuildRow}
    (h : w.builds.lookup id = some build) : (after w event).builds.lookup id = some build := by
  cases event with
  | flush ids lastUsedAt => exact h
  | createJob input choice =>
    simp only [after, Builds.createProvisionerJob]
    split
    · exact h
    · split <;> exact h
  | createBuild input choice =>
    simp only [after, Builds.insertWorkspaceBuild]
    split
    · rename_i hfree _
      split
      · refine (HashMap.lookup_insert_ite _ _ _ _).trans ((if_neg ?_).trans h)
        rintro rfl
        rw [hfree] at h
        cases h
      · exact h
    · exact h

omit [Rfc3339] [UuidText] in
theorem Mindful.after (h : Mindful w t) (event : Event) : Mindful (after w event) t where
  extension buildId deadline maxDeadline ht := by
    obtain ⟨hwithin, build, hbuild, hmax⟩ := h.extension buildId deadline maxDeadline ht
    exact ⟨hwithin, build, lookup_after_of_lookup hbuild, hmax⟩
  rows worker now rows stats ht := by
    obtain ⟨hnodup, hrows⟩ := h.rows worker now rows stats ht
    refine ⟨hnodup, fun ws hws => ?_⟩
    obtain ⟨build, hbuild, hmax⟩ := hrows ws hws
    exact ⟨build, lookup_after_of_lookup hbuild, hmax⟩
  later now buildId new max build deadline hpending hbuild := by
    -- the tick has read the build, so that it is not the one that is inserted
    obtain ⟨worker, rows, stats, ws, ht, hws, hdecide⟩ := hpending
    obtain ⟨-, rfl, -⟩ := Worker.decide_deadline hdecide
    obtain ⟨build', hbuild', -⟩ := (h.rows worker now rows stats ht).2 ws hws
    obtain rfl : build' = build :=
      Option.some.inj ((lookup_after_of_lookup hbuild').symm.trans hbuild)
    exact h.later now _ new max build' deadline ⟨worker, rows, stats, ws, ht, hws, hdecide⟩ hbuild'

/-- What holds in every state of a run that meets the condition. -/
structure Heeded (w : Pool World Task) : Prop where
  bounded : Bounded w.shared
  mindful : ∀ t ∈ w.tasks, Mindful w.shared t

theorem Heeded.step {w : Pool World Task} (h : Heeded w) {move : Move Request Choice Event}
    (hallowed : LeavesBumps w move) : Heeded (lifecycle.step w move) := by
  have hsteps := lifecycle.steps_step w move
  generalize lifecycle.step w move = w' at hsteps ⊢
  cases hsteps with
  | idle => exact h
  | spawn request =>
    refine ⟨h.bounded, fun t ht => ?_⟩
    obtain ht | ht := List.mem_append.mp ht
    · exact h.mindful t ht
    · obtain rfl := List.mem_singleton.mp ht
      have hnew : (∀ worker now rows stats,
          lifecycle.enter request ≠ .working worker now rows stats) ∧
          ∀ buildId deadline max,
            lifecycle.enter request ≠ .updateDeadline buildId deadline max := by
        constructor <;> intros <;> intro henter <;> cases request with
        | tick worker now => cases worker <;> cases henter
        | _ => cases henter
      refine ⟨fun _ _ _ ht => absurd ht (hnew.2 _ _ _),
        fun _ _ _ _ ht => absurd ht (hnew.1 _ _ _ _), ?_⟩
      rintro _ _ _ _ _ _ ⟨_, _, _, _, ht, _⟩
      exact absurd ht (hnew.1 _ _ _ _)
  | @run i choice t t' s htask hadvance =>
    have hown := h.mindful t (List.mem_of_getElem? htask)
    have heffect := effect_of_advance hadvance
    refine ⟨bounded_of_effect h.bounded hown heffect, fun u hu => ?_⟩
    obtain ⟨j, hj⟩ := List.mem_iff_getElem?.mp hu
    obtain ⟨-, rfl⟩ | ⟨hne, hbefore⟩ := Pool.getElem?_set_cases hj
    · exact hown.advance hadvance
    · refine (h.mindful u (List.mem_of_getElem? hbefore)).of_effect hown heffect ?_
      intro buildId deadline max now new max' hstores hpending
      exact hallowed t j u now buildId new max' deadline max htask hne hbefore hpending hstores
  | outside event =>
    refine ⟨fun id build hbuild => ?_, fun t ht => (h.mindful t ht).after event⟩
    obtain hbuild | ⟨input, choice, number, now, rfl, rfl⟩ := lookup_after hbuild
    · exact h.bounded id build hbuild
    · have hsame : input.deadline = input.maxDeadline := hallowed
      show Within input.deadline input.maxDeadline
      rw [hsame]
      exact within_self input.maxDeadline

end

/-! ## Runs on fixed inputs -/

/-- The texts of two instants. -/
@[reducible] def twoTexts : Rfc3339 where
  parse text :=
    if text = "1970-01-01T01:00:00Z" then some (hours 1)
    else if text = "1970-01-01T08:00:00Z" then some (hours 8)
    else none

/-- Extended by an hour when it is used. -/
def busyTemplate : Builds.TemplateRow :=
  { Builds.templateOf Builds.orgId ⟨6⟩ with
    activityBump := 3600 * 10 ^ 9 }

/-- One workspace, whose build has no deadline. -/
def busy : World :=
  { tablesOf awakeRow startedBuild startedBuild_job with
    templates := HashMap.singleRow Builds.templateId busyTemplate }

@[reducible] def readingLifecycle : Program World Task Request Choice Event :=
  @lifecycle twoTexts Uuid.hyphenated everyMinute

abbrev readingPool (moves : List (Move Request Choice Event)) : Pool World Task :=
  readingLifecycle.run { shared := busy, tasks := [] } moves

/-- A request for an extension, up to the call that stores it. -/
def extend (task : Nat) (text : String) (now : OffsetDateTime) : List (Move Request Choice Event) :=
  [.spawn (.putWorkspaceExtend Builds.owner ⟨20⟩ (some text)), runAt task now, runAt task now,
    runAt task now]

/-- The workspace is to be stopped after an hour, and is in use at the second, as a tick lists
it. -/
def inUse : List (Move Request Choice Event) :=
  extend 0 "1970-01-01T01:00:00Z" .unixEpoch ++
    [.outside (.flush [⟨20⟩] (hours 2)), .spawn (.tick .activityBump (hours 2)), runAt 1 (hours 2)]

/-- What the task is about to store for a request. -/
def Task.extending : Task → Option (Uuid × Option OffsetDateTime)
  | .updateDeadline buildId deadline _ => some (buildId, deadline)
  | _ => none

theorem Task.eq_of_extending {t : Task} {buildId : Uuid} {deadline : Option OffsetDateTime}
    (h : t.extending = some (buildId, deadline)) :
    ∃ max, t = .updateDeadline buildId deadline max := by
  cases t with
  | updateDeadline _ _ max =>
    cases h
    exact ⟨max, rfl⟩
  | _ => cases h

/-- A test that is passed where nothing is stored while a tick has a write to make. -/
def leavesBumpsCheck [Cron] (w : Pool World Task) : Move Request Choice Event → Bool
  | .run i choice =>
    match w.tasks[i]? with
    | none => true
    | some t => (t.extending.isNone && (t.making choice).isNone) ||
      (w.others i).all fun u => u.writes.isEmpty
  | .outside (.createBuild input _) => input.deadline = input.maxDeadline
  | _ => true

theorem leavesBumps_of_check [Cron] {w : Pool World Task} {move : Move Request Choice Event}
    (h : leavesBumpsCheck w move = true) : LeavesBumps w move := by
  cases move with
  | spawn request => trivial
  | run i choice =>
    intro t j u now buildId new max deadline max' htask hne hother hpending hstores
    simp only [leavesBumpsCheck, htask, Bool.or_eq_true, Bool.and_eq_true,
      Option.isNone_iff_eq_none] at h
    obtain ⟨hextending, hmaking⟩ | hall := h
    · obtain ⟨-, rfl | ⟨worker, tick, ws, new', hmakes, -⟩⟩ := hstores
      · cases hextending
      · rw [hmakes.making_eq] at hmaking
        cases hmaking
    · exact absurd (List.all_eq_true.mp hall u (Pool.mem_others.mpr ⟨j, hne, hother⟩))
        hpending.not_isEmpty
  | outside event =>
    cases event with
    | createBuild input choice =>
      have hsame : input.deadline = input.maxDeadline := of_decide_eq_true h
      exact hsame
    | _ => trivial

theorem busy_bounded : Bounded busy := by
  intro id build hbuild
  obtain ⟨-, rfl⟩ := HashMap.lookup_singleRow.mp hbuild
  exact within_self none

/-- The tick has stored what it is to store when the second extension is. -/
def extendRun : List (Move Request Choice Event) :=
  inUse ++ [runAt 1 (hours 2)] ++ extend 2 "1970-01-01T08:00:00Z" (hours 2)

/-- The second extension is stored before the tick comes to the workspace. -/
def undoneRun : List (Move Request Choice Event) :=
  inUse ++ extend 2 "1970-01-01T08:00:00Z" (hours 2) ++ [runAt 1 (hours 2)]

end Coderd.Lifecycle
