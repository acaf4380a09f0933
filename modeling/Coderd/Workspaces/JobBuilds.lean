import Coderd.Workspaces.OneBuild

namespace Coderd.Builds

open Coderd.Foundation Coderd.Rbac
open Coderd.Catalog (WorkspaceBuildRow)
open Coderd.Provisioner
open Coderd.Workspaces (Cron JoinedRow)

/-! ## What a task owes -/

/-- A call that inserts neither a job nor a build. -/
def StoreCall.Plain : StoreCall → Prop
  | createProvisionerJob _ | insertWorkspaceBuild _ => False
  | _ => True

namespace Op

/-- While the build of a job is owed, the only calls are ones that can fail but once, or insert it. -/
def Fits : Op → Option Uuid → Prop
  | nowUtc, _ | newUuid, _ | store (.getUserConfig _ _), _ => True
  | store (.insertWorkspaceBuild input), pending => pending = some input.jobId
  | store _, pending => pending = none

/-- The job whose build is owed after the answer. -/
def leaves : (op : Op) → Option Uuid → op.Response → Option Uuid
  | store (.createProvisionerJob input), _, .ok _ => some input.id
  | store (.insertWorkspaceBuild _), _, _ => none
  | _, pending, _ => pending

/-- An answer that is not an error. -/
def Answers : (op : Op) → op.Response → Prop
  | store _, .error _ => False
  | _, _ => True

end Op

/-- The task is between the two inserts of the build of that job; with `none`, of no job. -/
def Owes {α : Type} : Option Uuid → Handler α → Prop
  | pending, .done _ => pending = none
  | pending, .call op next =>
    op.Fits pending ∧ ∀ r, (pending = none ∨ op.Answers r) → Owes (op.leaves pending r) (next r)

section

variable {α β : Type} {pending : Option Uuid}

theorem Owes.bind {p : Handler α} {k : α → Handler β} (h : Owes pending p)
    (hk : ∀ a, Owes none (k a)) : Owes pending (p.bind k) := by
  induction p generalizing pending with
  | done a =>
    cases h
    exact hk a
  | call op next ih => exact ⟨h.1, fun r hr => ih r (h.2 r hr)⟩

theorem Owes.bindOk {p : Outcome α} {k : α → Outcome β} (h : Owes pending p)
    (hk : ∀ a, Owes none (k a)) : Owes pending (p.bindOk k) := by
  refine h.bind fun r => ?_
  cases r with
  | error e => rfl
  | ok a => exact hk a

/-- A call with nothing owed before and after it. -/
theorem owes_ask {query : StoreCall} (h : query.Plain) : Owes none (ask query) := by
  cases query with
  | createProvisionerJob input => cases h
  | insertWorkspaceBuild input => cases h
  | getUserConfig userId key => exact ⟨trivial, fun _ _ => rfl⟩
  | _ => exact ⟨rfl, fun _ _ => rfl⟩

theorem owes_read {query : StoreCall} {k : query.Response → Outcome α} (h : query.Plain)
    (hk : ∀ a, Owes none (k a)) : Owes none ((ask query).bindOk k) :=
  (owes_ask h).bindOk hk

/-- A job is inserted, and what follows owes its build. -/
theorem owes_createJob {input : CreateProvisionerJobInput} {k : ProvisionerJobRow → Outcome α}
    (hk : ∀ row, Owes (some input.id) (k row)) :
    Owes none ((ask (.createProvisionerJob input)).bindOk k) := by
  refine ⟨rfl, fun (r : Except StorageError ProvisionerJobRow) _ => ?_⟩
  cases r with
  | error e => exact rfl
  | ok row => exact hk row

/-- The build is inserted, or the call fails: nothing is owed any more. -/
theorem owes_insertBuild {input : CreateWorkspaceBuildInput} {jobId : Uuid}
    (hjob : input.jobId = jobId) : Owes (some jobId) (ask (.insertWorkspaceBuild input)) :=
  ⟨hjob ▸ rfl, fun _ _ => rfl⟩

end

/-! ## The programs -/

section

theorem owes_buildProvisionerTags {ownerId versionId : Uuid} :
    Owes none (buildProvisionerTags ownerId versionId) := by
  refine owes_read trivial fun version => ?_
  cases version with
  | none => exact rfl
  | some version => exact owes_read trivial fun _ => rfl

theorem owes_triggerWorkspaceBuild {ws : JoinedRow} {transition reason : String}
    {now : CryptoKeys.OffsetDateTime} :
    Owes none (triggerWorkspaceBuild ws transition reason now) := by
  refine owes_read trivial fun latest => ?_
  cases latest with
  | none => exact rfl
  | some latestBuild =>
    refine owes_read trivial fun workspace => ?_
    cases workspace with
    | none => exact rfl
    | some workspace =>
      refine ⟨trivial, fun jobId _ => owes_buildProvisionerTags.bindOk fun tags => ?_⟩
      refine owes_createJob fun job => ⟨trivial, fun buildId _ => ?_⟩
      exact (owes_insertBuild rfl).bindOk fun _ => rfl

theorem owes_lifecycleTransitions [Cron] {now : CryptoKeys.OffsetDateTime}
    {quietHours : Option QuietHoursWindow} (workspaces : List JoinedRow) (stats : LifecycleStats) :
    Owes none (lifecycleTransitions now quietHours workspaces stats) := by
  induction workspaces generalizing stats with
  | nil => exact rfl
  | cons ws rest ih =>
    unfold lifecycleTransitions
    split
    · exact owes_triggerWorkspaceBuild.bind fun _ => ih _
    · split
      · split
        · exact ih _
        · exact owes_triggerWorkspaceBuild.bind fun _ => ih _
      · split
        · exact owes_triggerWorkspaceBuild.bind fun _ => ih _
        · exact ih _

theorem owes_insertPrebuild {workspaceId organizationId versionId jobId buildId : Uuid}
    {transition : String} {input : JobInput} {now : CryptoKeys.OffsetDateTime} :
    Owes none (PrebuildBuilder.insertBuild workspaceId organizationId versionId jobId buildId
      transition input now) :=
  owes_createJob fun _ => owes_insertBuild rfl

theorem owes_startPrebuild {input : PrebuildBuilder.PrebuildStartInput} :
    Owes none (PrebuildBuilder.start input) := by
  refine ⟨trivial, fun now _ => ⟨trivial, fun workspaceId _ => ⟨trivial, fun jobId _ => ?_⟩⟩⟩
  refine ⟨trivial, fun buildId _ => owes_read trivial fun workspace => ?_⟩
  exact owes_insertPrebuild

theorem owes_deletePrebuild {workspaceId : Uuid} : Owes none (PrebuildBuilder.delete workspaceId) := by
  refine ⟨trivial, fun now _ => ⟨trivial, fun jobId _ => ⟨trivial, fun buildId _ => ?_⟩⟩⟩
  refine owes_read trivial fun workspace => ?_
  cases workspace with
  | none => exact rfl
  | some workspace =>
    exact owes_read trivial fun latest => owes_insertPrebuild

variable [QuietHours] {config : Config}

/-- Between the inserts there is the clock, and the quiet hours of the user at most. -/
theorem owes_startBuild {initiatorId organizationId ownerId workspaceId versionId : Uuid}
    {template : TemplateRow} {transition : String} :
    Owes none (startBuild config initiatorId organizationId ownerId workspaceId template versionId
      transition) := by
  refine ⟨trivial, fun jobId _ => ⟨trivial, fun buildId _ => ?_⟩⟩
  refine owes_buildProvisionerTags.bindOk fun tags => ⟨trivial, fun createdAt _ => ?_⟩
  refine ⟨trivial, fun updatedAt _ => owes_createJob fun job => ⟨trivial, fun now _ => ?_⟩⟩
  unfold resolveBuildMaxDeadline
  split
  · exact (owes_insertBuild rfl).bindOk fun _ => rfl
  · split
    · refine ⟨trivial, fun (r : Except StorageError (Option String)) hr => ?_⟩
      cases r with
      | error e => exact absurd hr (by simp [Op.Answers, Op.leaves])
      | ok record => exact (owes_insertBuild rfl).bindOk fun _ => rfl
    · exact (owes_insertBuild rfl).bindOk fun _ => rfl

variable [UuidText] {actor : Actor}

theorem owes_postWorkspaceBuild {workspaceId : Uuid} {body : BuildBody} :
    Owes none (postWorkspaceBuild config actor workspaceId body) := by
  refine owes_read trivial fun workspace => ?_
  split
  · exact rfl
  · split
    · exact rfl
    · refine owes_read trivial fun template => ?_
      split
      · exact rfl
      · exact owes_startBuild.bindOk fun _ => rfl

omit [UuidText] in
theorem owes_createWorkspace {targetUser organizationId templateId : Uuid} {template : TemplateRow}
    {name : String} {body : WorkspaceBody} :
    Owes none (createWorkspace config actor targetUser organizationId templateId template name
      body) := by
  refine ⟨trivial, fun workspaceId _ => owes_read trivial fun workspace => ?_⟩
  refine owes_startBuild.bindOk fun build => ?_
  split
  · exact rfl
  · exact owes_read trivial fun _ => rfl

omit [QuietHours] [UuidText] in
theorem owes_resolveUser {user : String} : Owes none (resolveUser actor user) := by
  unfold resolveUser
  dsimp only
  split
  · exact owes_read trivial fun _ => rfl
  · split
    · exact owes_read trivial fun _ => rfl
    · exact owes_read trivial fun _ => rfl

theorem owes_postUserWorkspace {user : String} {body : WorkspaceBody} :
    Owes none (postUserWorkspace config actor user body) := by
  refine owes_resolveUser.bindOk fun target => ?_
  split
  · exact rfl
  · split
    · exact rfl
    · split
      · exact rfl
      · refine owes_read trivial fun template => ?_
        split
        · exact rfl
        · exact owes_createWorkspace

theorem owes_postOrgMemberWorkspace {organization user : String} {body : WorkspaceBody} :
    Owes none (postOrgMemberWorkspace config actor organization user body) := by
  refine Owes.bindOk ?_ fun orgId => ?_
  · unfold resolveOrganization
    split
    · exact owes_read trivial fun _ => rfl
    · exact owes_read trivial fun _ => rfl
  · split
    · exact rfl
    · refine owes_resolveUser.bindOk fun target => ?_
      split
      · exact rfl
      · split
        · exact rfl
        · split
          · exact rfl
          · refine owes_read trivial fun template => ?_
            split
            · exact rfl
            · split
              · exact rfl
              · exact owes_createWorkspace

/-- A request owes nothing when it comes in. -/
theorem owes_handle [Cron] (request : Request) : Owes none (handle config request) := by
  cases request with
  | postWorkspaceBuild actor workspaceId body => exact owes_postWorkspaceBuild.bind fun _ => rfl
  | postUserWorkspace actor user body => exact owes_postUserWorkspace.bind fun _ => rfl
  | postOrgMemberWorkspace actor organization user body =>
    exact owes_postOrgMemberWorkspace.bind fun _ => rfl
  | lifecycleTick now quietHours =>
    refine Owes.bind (owes_read trivial fun workspaces => ?_) fun _ => rfl
    exact (owes_lifecycleTransitions workspaces _).bind fun _ => rfl
  | startPrebuild input => exact owes_startPrebuild.bind fun _ => rfl
  | deletePrebuild workspaceId => exact owes_deletePrebuild.bind fun _ => rfl
  | acquireJob input => exact Owes.bind (owes_ask trivial) fun _ => rfl
  | completeJob input => exact Owes.bind (owes_ask trivial) fun _ => rfl

end

/-! ## Jobs and their builds -/

namespace World

/-- There is a build with that job. -/
def Built (w : World) (jobId : Uuid) : Prop :=
  ∃ id row, w.builds.lookup id = some row ∧ row.jobId = some jobId

/-- A job of the type of builds, without its build. -/
def Unbuilt (w : World) (jobId : Uuid) (job : ProvisionerJobRow) : Prop :=
  w.jobs.lookup jobId = some job ∧
    (∃ details, w.jobDetails.lookup jobId = some details ∧ details.jobType = "workspace_build") ∧
    ¬ w.Built jobId

end World

/-- A job that waits for its build has not been acquired, and a task owes the build. -/
structure Tended (w : Pool World (Handler Unit)) : Prop where
  each : ∀ t ∈ w.tasks, ∃ pending, Owes pending t
  unbuilt : ∀ jobId job, w.shared.Unbuilt jobId job → job.startedAt = none ∧
    ∃ t ∈ w.tasks, Owes (some jobId) t

/-! ## The condition -/

/-- The call does what it is for. -/
def Succeeds : Op → World → Choice → Prop
  | .store (.insertWorkspaceBuild input), w, choice => w.Takes choice input
  | .store _, _, choice => choice.fails = none
  | _, _, _ => True

/-- No call of a task fails between the two inserts of a build, the insert of a job does not fail
after it has taken place, and a job that is between the two inserts is not acquired. -/
def Undisturbed (w : Pool World (Handler Unit)) : Move Request Choice Event → Prop
  | .run i choice => ∀ op next, w.tasks[i]? = some (.call op next) →
    ((∃ jobId, Owes (some jobId) (.call op next)) → Succeeds op w.shared choice) ∧
    (∀ input, op = .store (.createProvisionerJob input) → choice.unread = none) ∧
    (∀ input, op = .store (.acquireProvisionerJob input) → ∀ t ∈ w.tasks, ∀ jobId job,
      Owes (some jobId) t → w.shared.jobs.lookup jobId = some job → input.accepts job = false)
  | _ => True

/-! ## Every run -/

namespace World

variable {w w' : World} {jobId : Uuid} {job : ProvisionerJobRow}

theorem Unbuilt.of_eq (h : w'.Unbuilt jobId job) (hjobs : w'.jobs = w.jobs)
    (hdetails : w'.jobDetails = w.jobDetails) (hbuilds : w'.builds = w.builds) :
    w.Unbuilt jobId job := by
  unfold Unbuilt Built at h ⊢
  rwa [hjobs, hdetails, hbuilds] at h

/-- An update of a job leaves it as unbuilt as it was. -/
theorem Unbuilt.of_writeJobs {id : Uuid} {set : ProvisionerJobRow → ProvisionerJobRow}
    (h : (w.writeJobs id set).Unbuilt jobId job) :
    w.Unbuilt jobId job ∨ jobId = id ∧ ∃ old, w.Unbuilt jobId old ∧ job = set old := by
  obtain ⟨hjob, hdetails, hbuilt⟩ := h
  change (w.jobs.update id set).lookup jobId = some job at hjob
  rw [JobTable.lookup_update] at hjob
  split at hjob
  · rename_i heq
    obtain ⟨old, hold, rfl⟩ := Option.map_eq_some_iff.mp hjob
    exact .inr ⟨heq, old, ⟨heq ▸ hold, hdetails, hbuilt⟩, rfl⟩
  · exact .inl ⟨hjob, hdetails, hbuilt⟩

theorem Unbuilt.of_createJob {input : CreateProvisionerJobInput}
    (h : (w.createJob input).Unbuilt jobId job) :
    w.Unbuilt jobId job ∨ jobId = input.id ∧ job = input.row := by
  obtain ⟨hjob, ⟨details, hdetails, htype⟩, hbuilt⟩ := h
  change (w.jobs.insert input.id input.row).lookup jobId = some job at hjob
  change (w.jobDetails.insert input.id input.details).lookup jobId = some details at hdetails
  rw [HashMap.lookup_insert_ite] at hjob hdetails
  split at hjob
  · rename_i heq
    cases hjob
    exact .inr ⟨heq, rfl⟩
  · rename_i hne
    rw [if_neg hne] at hdetails
    exact .inl ⟨hjob, ⟨details, hdetails, htype⟩, hbuilt⟩

theorem Unbuilt.of_createBuild {input : CreateWorkspaceBuildInput} {now : CryptoKeys.OffsetDateTime}
    {hjob : (w.jobs.lookup input.jobId).isSome} (hfree : w.builds.lookup input.id = none)
    (h : (w.createBuild input now hjob).Unbuilt jobId job) :
    w.Unbuilt jobId job ∧ jobId ≠ input.jobId := by
  obtain ⟨hrow, hdetails, hbuilt⟩ := h
  refine ⟨⟨hrow, hdetails, ?_⟩, ?_⟩
  · rintro ⟨id, row, hlookup, hof⟩
    refine hbuilt ⟨id, row, ?_, hof⟩
    refine (HashMap.lookup_insert_ite _ _ _ _).trans ((if_neg ?_).trans hlookup)
    rintro rfl
    rw [hfree] at hlookup
    cases hlookup
  · rintro rfl
    refine hbuilt ⟨input.id, input.row (nextBuildNumber w.builds input.workspaceId) now, ?_, rfl⟩
    exact (HashMap.lookup_insert_ite _ _ _ _).trans (if_pos rfl)

end World

namespace Tended

variable {w : Pool World (Handler Unit)} {i : Nat} {s : World} {t : Handler Unit}

/-- A step of a task: who owes the jobs that are unbuilt then. -/
theorem set {t' : Handler Unit} (h : Tended w) (hi : w.tasks[i]? = some t)
    (hown : ∃ pending, Owes pending t')
    (hunbuilt : ∀ jobId job, s.Unbuilt jobId job → job.startedAt = none ∧
      (Owes (some jobId) t' ∨
        ((∃ old, w.shared.Unbuilt jobId old) ∧ (Owes (some jobId) t → Owes (some jobId) t')))) :
    Tended { shared := s, tasks := w.tasks.set i t' } where
  each u hu := by
    obtain hu | rfl := List.mem_or_eq_of_mem_set hu
    · exact h.each u hu
    · exact hown
  unbuilt jobId job hjob := by
    have hlt : i < w.tasks.length := (List.getElem?_eq_some_iff.mp hi).choose
    obtain ⟨hstarted, hwho⟩ := hunbuilt jobId job hjob
    refine ⟨hstarted, ?_⟩
    obtain howes | ⟨⟨old, hold⟩, hkeeps⟩ := hwho
    · exact ⟨t', List.mem_set hlt t', howes⟩
    · obtain ⟨-, u, hu, howes⟩ := h.unbuilt jobId old hold
      obtain ⟨j, hj⟩ := List.getElem?_of_mem hu
      by_cases hij : i = j
      · subst hij
        rw [hi, Option.some.injEq] at hj
        subst hj
        exact ⟨t', List.mem_set hlt t', hkeeps howes⟩
      · refine ⟨u, ?_, howes⟩
        exact List.mem_of_getElem? ((List.getElem?_set_ne hij).trans hj)

end Tended

section

variable [Collation] {op : Op} {w w' : World} {choice : Choice} {r : op.Response}

/-- A call of a task that owes a build is not answered by an error, if it succeeds. -/
theorem answers_of_succeeds {jobId : Uuid} (hfits : op.Fits (some jobId))
    (hsucceeds : Succeeds op w choice) (h : exec op w choice = some (r, w')) : op.Answers r := by
  cases op with
  | nowUtc => trivial
  | newUuid => trivial
  | store query =>
    cases query with
    | getUserConfig userId key =>
      have hfails : choice.fails = none := hsucceeds
      simp only [exec, hfails, perform] at h
      cases h
      trivial
    | insertWorkspaceBuild input =>
      obtain ⟨hfails, hfree, hworkspace, hjob⟩ : w.Takes choice input := hsucceeds
      obtain ⟨row, hrow⟩ := Option.isSome_iff_exists.mp hworkspace
      simp only [exec, hfails, perform, insertWorkspaceBuild, hfree, hrow, hjob, dite_true] at h
      cases h
      trivial
    | _ => cases hfits

theorem Owes.next {next : op.Response → Handler Unit} {pending : Option Uuid}
    (h : Owes pending (.call op next))
    (hsucceeds : (∃ jobId, Owes (some jobId) (.call op next)) → Succeeds op w choice)
    (hexec : exec op w choice = some (r, w')) : Owes (op.leaves pending r) (next r) := by
  refine h.2 r ?_
  cases pending with
  | none => exact .inl rfl
  | some jobId => exact .inr (answers_of_succeeds h.1 (hsucceeds ⟨jobId, h⟩) hexec)

theorem createProvisionerJob_cases {input : CreateProvisionerJobInput}
    {r : Except StorageError ProvisionerJobRow} (hunread : choice.unread = none)
    (h : exec (.store (.createProvisionerJob input)) w choice = some (r, w')) :
    w' = w ∨ (∃ row, r = .ok row) ∧ w' = w.createJob input := by
  simp only [exec] at h
  split at h
  · cases h
    exact .inl rfl
  · simp only [perform, createProvisionerJob, hunread] at h
    split at h
    · cases h
      exact .inl rfl
    · cases h
      exact .inr ⟨⟨_, rfl⟩, rfl⟩

end

namespace Tended

section

variable [Collation] {w : Pool World (Handler Unit)} {i : Nat} {s : World} {op : Op}
  {next : op.Response → Handler Unit} {choice : Choice} {r : op.Response}

/-- A call that inserts neither a job nor a build. -/
theorem run_plain (h : Tended w) (hi : w.tasks[i]? = some (.call op next))
    (hexec : exec op w.shared choice = some (r, s))
    (hsucceeds : (∃ jobId, Owes (some jobId) (.call op next)) → Succeeds op w.shared choice)
    (hleaves : ∀ pending, op.leaves pending r = pending)
    (hunbuilt : ∀ jobId job, s.Unbuilt jobId job → job.startedAt = none ∧
      ∃ old, w.shared.Unbuilt jobId old) :
    Tended { shared := s, tasks := w.tasks.set i (next r) } := by
  have hnext : ∀ {pending}, Owes pending (.call op next) → Owes pending (next r) := by
    intro pending howes
    have hrest := howes.next hsucceeds hexec
    rwa [hleaves] at hrest
  obtain ⟨pending, howes⟩ := h.each _ (List.mem_of_getElem? hi)
  refine h.set hi ⟨pending, hnext howes⟩ fun jobId job hjob => ?_
  obtain ⟨hstarted, hold⟩ := hunbuilt jobId job hjob
  exact ⟨hstarted, .inr ⟨hold, hnext⟩⟩

theorem run (h : Tended w) (hi : w.tasks[i]? = some (.call op next))
    (hexec : exec op w.shared choice = some (r, s)) (hallowed : Undisturbed w (.run i choice)) :
    Tended { shared := s, tasks := w.tasks.set i (next r) } := by
  obtain ⟨hsucceeds, hunread, hacquire⟩ := hallowed op next hi
  obtain ⟨pending, howes⟩ := h.each _ (List.mem_of_getElem? hi)
  by_cases hcreate : ∃ input, op = .store (.createProvisionerJob input)
  · obtain ⟨input, rfl⟩ := hcreate
    have hnone : ∀ jobId, ¬ Owes (some jobId) (.call (.store (.createProvisionerJob input)) next) :=
      fun jobId howes => by cases howes.1
    refine h.set hi ⟨_, howes.next hsucceeds hexec⟩ fun jobId job hjob => ?_
    obtain rfl | ⟨⟨row, rfl⟩, rfl⟩ := createProvisionerJob_cases (hunread input rfl) hexec
    · exact ⟨(h.unbuilt jobId job hjob).1,
        .inr ⟨⟨job, hjob⟩, fun howes => absurd howes (hnone jobId)⟩⟩
    · obtain hold | ⟨rfl, rfl⟩ := hjob.of_createJob
      · exact ⟨(h.unbuilt jobId job hold).1,
          .inr ⟨⟨job, hold⟩, fun howes => absurd howes (hnone jobId)⟩⟩
      · exact ⟨rfl, .inl (howes.next hsucceeds hexec)⟩
  by_cases hinsert : ∃ input, op = .store (.insertWorkspaceBuild input)
  · obtain ⟨input, rfl⟩ := hinsert
    refine h.set hi ⟨_, howes.next hsucceeds hexec⟩ fun jobId job hjob => ?_
    obtain ⟨htakes, rfl⟩ | ⟨hnot, rfl⟩ := insertWorkspaceBuild_cases hexec
    · obtain ⟨hold, hne⟩ := hjob.of_createBuild htakes.free
      refine ⟨(h.unbuilt jobId job hold).1, .inr ⟨⟨job, hold⟩, fun howes => ?_⟩⟩
      exact absurd (Option.some.inj howes.1) hne
    · refine ⟨(h.unbuilt jobId job hjob).1, .inr ⟨⟨job, hjob⟩, fun howes => ?_⟩⟩
      exact absurd (hsucceeds ⟨jobId, howes⟩) hnot
  have hleaves : ∀ pending, op.leaves pending r = pending := by
    intro pending
    unfold Op.leaves
    split
    · exact absurd ⟨_, rfl⟩ hcreate
    · exact absurd ⟨_, rfl⟩ hinsert
    · rfl
  refine h.run_plain hi hexec hsucceeds hleaves fun jobId job hjob => ?_
  have hunchanged : ∀ {s : World}, s.Unbuilt jobId job → s.jobs = w.shared.jobs →
      s.jobDetails = w.shared.jobDetails → s.builds = w.shared.builds →
      job.startedAt = none ∧ ∃ old, w.shared.Unbuilt jobId old := by
    intro s hjob hjobs hdetails hbuilds
    have hold := hjob.of_eq hjobs hdetails hbuilds
    exact ⟨(h.unbuilt jobId job hold).1, job, hold⟩
  cases effect_of_exec hexec with
  | none => exact hunchanged hjob rfl rfl rfl
  | insertWorkspace _ => exact hunchanged hjob rfl rfl rfl
  | parameters _ => exact hunchanged hjob rfl rfl rfl
  | createJob _ => exact absurd ⟨_, rfl⟩ hcreate
  | createBuild _ _ _ => exact absurd ⟨_, rfl⟩ hinsert
  | complete =>
    obtain hold | ⟨-, old, hold, rfl⟩ := hjob.of_writeJobs
    · exact ⟨(h.unbuilt jobId job hold).1, job, hold⟩
    · exact ⟨(h.unbuilt jobId old hold).1, old, hold⟩
  | @acquire input id row hrow haccepts =>
    obtain hold | ⟨rfl, old, hold, rfl⟩ := hjob.of_writeJobs
    · exact ⟨(h.unbuilt jobId job hold).1, job, hold⟩
    · -- the job that is acquired would be one that a task owes the build of
      obtain ⟨-, u, hu, howes⟩ := h.unbuilt jobId old hold
      have hrejects := hacquire input rfl u hu jobId old howes hold.1
      obtain rfl : row = old := Option.some.inj (hrow.symm.trans hold.1)
      rw [hrejects] at haccepts
      cases haccepts

omit [Collation] in
theorem outside (h : Tended w) (event : Event) :
    Tended { w with shared := w.shared.after event } where
  each := h.each
  unbuilt jobId job hjob := by
    refine h.unbuilt jobId job ?_
    cases event with
    | importVersion id row =>
      simp only [World.after] at hjob
      split at hjob
      · exact hjob
      · exact hjob.of_eq rfl rfl rfl
    | promote templateId versionId =>
      simp only [World.after] at hjob
      split at hjob
      · exact hjob
      · exact hjob.of_eq rfl rfl rfl

end

variable [Collation] [Cron] [QuietHours] [UuidText] {config : Config}

omit [Collation] in
theorem spawn {w : Pool World (Handler Unit)} (h : Tended w) (request : Request) :
    Tended { w with tasks := w.tasks ++ [handle config request] } where
  each t ht := by
    obtain ht | ht := List.mem_append.mp ht
    · exact h.each t ht
    · obtain rfl := List.mem_singleton.mp ht
      exact ⟨none, owes_handle request⟩
  unbuilt jobId job hjob := by
    obtain ⟨hstarted, t, ht, howes⟩ := h.unbuilt jobId job hjob
    exact ⟨hstarted, t, List.mem_append_left _ ht, howes⟩

theorem step {w : Pool World (Handler Unit)} {move : Move Request Choice Event} (h : Tended w)
    (hallowed : Undisturbed w move) : Tended ((builds config).program.step w move) := by
  have hsteps := (builds config).program.steps_step w move
  generalize (builds config).program.step w move = w' at hsteps ⊢
  cases hsteps with
  | idle => exact h
  | spawn request => exact h.spawn request
  | @run i choice t t' s htask hadvance =>
    cases t with
    | done a => cases hadvance
    | call op next =>
      obtain ⟨⟨r, s'⟩, hexec, heq⟩ := Option.map_eq_some_iff.mp hadvance
      cases heq
      exact h.run htask hexec hallowed
  | outside event => exact h.outside event

end Tended

/-- Every job of the type of builds has its build. -/
def World.AllBuilt (w : World) : Prop := ∀ jobId job, ¬ w.Unbuilt jobId job

section

variable [Collation] [Cron] [QuietHours] [UuidText] {config : Config}

end

/-! ## Runs on fixed inputs -/

def succeedsCheck : Op → World → Choice → Bool
  | .store (.insertWorkspaceBuild input), w, choice =>
    choice.fails.isNone && (w.builds.lookup input.id).isNone &&
      (w.workspaces.lookup input.workspaceId).isSome && (w.jobs.lookup input.jobId).isSome
  | _, _, choice => choice.fails.isNone

def acquires : Op → Bool
  | .store (.acquireProvisionerJob _) => true
  | _ => false

/-- A test that is passed where all calls succeed, and the other tasks are done when a job is
acquired. -/
def undisturbedCheck (w : Pool World (Handler Unit)) : Move Request Choice Event → Bool
  | .run i choice =>
    match w.tasks[i]? with
    | some (.call op _) => succeedsCheck op w.shared choice && choice.unread.isNone &&
      (!acquires op || (w.tasks.eraseIdx i).all Calls.isDone)
    | _ => true
  | _ => true

theorem succeeds_of_check {op : Op} {w : World} {choice : Choice}
    (h : succeedsCheck op w choice = true) : Succeeds op w choice := by
  cases op with
  | nowUtc => trivial
  | newUuid => trivial
  | store query =>
    cases query with
    | insertWorkspaceBuild input =>
      simp only [succeedsCheck, Bool.and_eq_true, Option.isNone_iff_eq_none] at h
      exact ⟨h.1.1.1, h.1.1.2, h.1.2, h.2⟩
    | _ => exact Option.isNone_iff_eq_none.mp h

theorem undisturbed_of_check {w : Pool World (Handler Unit)} {move : Move Request Choice Event}
    (h : undisturbedCheck w move = true) : Undisturbed w move := by
  cases move with
  | spawn request => trivial
  | outside event => trivial
  | run i choice =>
    intro op next htask
    simp only [undisturbedCheck, htask, Bool.and_eq_true, Option.isNone_iff_eq_none] at h
    refine ⟨fun _ => succeeds_of_check h.1.1, fun _ _ => h.1.2, ?_⟩
    rintro input rfl u hu jobId job howes -
    exfalso
    obtain ⟨j, hj⟩ := List.getElem?_of_mem hu
    by_cases hij : j = i
    · subst hij
      rw [htask, Option.some.injEq] at hj
      subst hj
      cases howes.1
    · have hdone : (w.tasks.eraseIdx i).all Calls.isDone = true := by
        simpa [acquires] using h.2
      have hmem : u ∈ w.tasks.eraseIdx i := List.mem_eraseIdx_iff_getElem?.mpr ⟨j, hij, hj⟩
      obtain ⟨a, rfl⟩ := Calls.isDone_iff.mp (List.all_eq_true.mp hdone u hmem)
      cases howes

/-- A daemon of the organization, which takes untagged jobs. -/
def acquisition : AcquireProvisionerJobInput where
  workerId := ⟨40⟩
  startedAt := .unixEpoch
  organizationId := orgId
  types := [.echo]
  provisionerTags := untagged

theorem oneTemplate_allBuilt : oneTemplate.AllBuilt := by
  rintro jobId job ⟨hjob, -⟩
  cases hjob

/-- The job 21 is acquired when the request has been answered. -/
def answeredRun : List (Move Request Choice Event) :=
  createRun ++ [.spawn (.acquireJob acquisition), .run 1 (drawing 1)]

/-- The job 21 is acquired as soon as it is there. -/
def hastyRun : List (Move Request Choice Event) :=
  createRun.take 12 ++ [.spawn (.acquireJob acquisition), .run 1 (drawing 1)]

/-- The insert of the build fails. -/
def failingRun : List (Move Request Choice Event) :=
  createRun.take 13 ++ [.run 0 { drawing 1 with fails := some (.unavailable "closed") }]

/-- A test that is passed by a job of the type of builds without a build. -/
def World.unbuiltCheck (w : World) (jobId : Uuid) : Bool :=
  (w.jobDetails.lookup jobId).any (·.jobType = "workspace_build") &&
    (w.builds.selectFirst fun _ row => row.jobId = some jobId).isNone

theorem World.unbuilt_of_check {w : World} {jobId : Uuid} {job : ProvisionerJobRow}
    (hjob : w.jobs.lookup jobId = some job) (h : w.unbuiltCheck jobId = true) :
    w.Unbuilt jobId job := by
  rw [unbuiltCheck, Bool.and_eq_true] at h
  obtain ⟨details, hdetails, htype⟩ := (Option.any_eq_true _ _).mp h.1
  refine ⟨hjob, ⟨details, hdetails, of_decide_eq_true htype⟩, ?_⟩
  rintro ⟨id, row, hrow, hof⟩
  have hnone := HashMap.selectFirst_eq_none_iff.mp (Option.isNone_iff_eq_none.mp h.2) id row hrow
  simp [hof] at hnone

end Coderd.Builds
