import Coderd.Workspaces.JobBuilds

namespace Coderd.Builds

open Coderd.Foundation Coderd.Rbac
open Coderd.Catalog (WorkspaceRow WorkspaceBuildRow WorkspaceBuildRecord)
open Coderd.Provisioner
open Coderd.Workspaces (Cron JoinedRow)

/-! ## Versions and their templates -/

namespace World

/-- The version is there, and is one of the template. -/
def Owns (w : World) (versionId templateId : Uuid) : Prop :=
  ∃ version, w.versions.lookup versionId = some version ∧ version.templateId = some templateId

/-- The version is one of the template of the workspace. -/
def Buildable (w : World) (versionId workspaceId : Uuid) : Prop :=
  ∃ workspace, w.workspaces.lookup workspaceId = some workspace ∧
    w.Owns versionId workspace.templateId

/-- The template is there, and is one of the organization. -/
def InOrganization (w : World) (templateId organizationId : Uuid) : Prop :=
  ∃ template, w.templates.lookup templateId = some template ∧
    template.organizationId = organizationId

/-- Builds are of versions of their workspaces' templates, workspaces are in the organizations of
their templates, active versions are ones of their templates. -/
structure Own (w : World) : Prop where
  builds : ∀ id build, w.builds.lookup id = some build →
    w.Buildable build.templateVersionId build.workspaceId
  workspaces : ∀ id workspace, w.workspaces.lookup id = some workspace →
    w.InOrganization workspace.templateId workspace.organizationId
  active : ∀ id template, w.templates.lookup id = some template → w.Owns template.activeVersionId id

/-- Versions and workspaces stay as they are, templates in their organizations. -/
structure Later (w w' : World) : Prop where
  versions : ∀ id version, w.versions.lookup id = some version →
    w'.versions.lookup id = some version
  workspaces : ∀ id workspace, w.workspaces.lookup id = some workspace →
    w'.workspaces.lookup id = some workspace
  templates : ∀ templateId organizationId, w.InOrganization templateId organizationId →
    w'.InOrganization templateId organizationId

namespace Later

variable {w w' : World}

theorem of_eq (hversions : w'.versions = w.versions) (hworkspaces : w'.workspaces = w.workspaces)
    (htemplates : w'.templates = w.templates) : w.Later w' where
  versions _ _ h := hversions ▸ h
  workspaces _ _ h := hworkspaces ▸ h
  templates _ _ h := by
    unfold InOrganization at h ⊢
    rwa [htemplates]

theorem refl (w : World) : w.Later w := of_eq rfl rfl rfl

theorem trans {w'' : World} (h : w.Later w') (h' : w'.Later w'') : w.Later w'' where
  versions id version hlookup := h'.versions id version (h.versions id version hlookup)
  workspaces id workspace hlookup := h'.workspaces id workspace (h.workspaces id workspace hlookup)
  templates _ _ hin := h'.templates _ _ (h.templates _ _ hin)

theorem owns (h : w.Later w') {versionId templateId : Uuid} (howns : w.Owns versionId templateId) :
    w'.Owns versionId templateId := by
  obtain ⟨version, hversion, htemplate⟩ := howns
  exact ⟨version, h.versions versionId version hversion, htemplate⟩

theorem buildable (h : w.Later w') {versionId workspaceId : Uuid}
    (hbuildable : w.Buildable versionId workspaceId) : w'.Buildable versionId workspaceId := by
  obtain ⟨workspace, hworkspace, howns⟩ := hbuildable
  exact ⟨workspace, h.workspaces workspaceId workspace hworkspace, h.owns howns⟩

end Later

end World

section

variable [Collation] {w w' : World} {choice : Choice}

theorem later_of_exec {op : Op} {r : op.Response} (h : exec op w choice = some (r, w')) :
    w.Later w' := by
  cases effect_of_exec h with
  | none => exact .refl w
  | @insertWorkspace input hfree =>
    refine ⟨fun _ _ hversion => hversion, fun id workspace hworkspace => ?_, fun _ _ hin => hin⟩
    refine (HashMap.lookup_insert_ite _ _ _ _).trans ((if_neg ?_).trans hworkspace)
    rintro rfl
    rw [hfree] at hworkspace
    cases hworkspace
  | createJob _ => exact .of_eq rfl rfl rfl
  | createBuild _ _ _ => exact .of_eq rfl rfl rfl
  | parameters _ => exact .of_eq rfl rfl rfl
  | acquire _ _ => exact .of_eq rfl rfl rfl
  | complete => exact .of_eq rfl rfl rfl

omit [Collation] in
theorem later_after (w : World) (event : Event) : w.Later (w.after event) := by
  cases event with
  | importVersion id row =>
    simp only [World.after]
    split
    · exact .refl w
    · rename_i hfree
      refine ⟨fun id' version hversion => ?_, fun _ _ h => h, fun _ _ h => h⟩
      refine (HashMap.lookup_insert_ite _ _ _ _).trans ((if_neg ?_).trans hversion)
      rintro rfl
      rw [hfree] at hversion
      cases hversion
  | promote templateId versionId =>
    simp only [World.after]
    split
    · exact .refl w
    · rename_i template htemplate
      refine ⟨fun _ _ h => h, fun _ _ h => h, ?_⟩
      rintro id organizationId ⟨row, hrow, horg⟩
      unfold World.InOrganization
      simp only [HashMap.lookup_insert_ite]
      split
      · rename_i heq
        rw [heq, htemplate] at hrow
        cases hrow
        exact ⟨_, rfl, horg⟩
      · exact ⟨row, hrow, horg⟩

end

namespace World.Own

variable {w w' : World}

theorem of_eq (h : w.Own) (hversions : w'.versions = w.versions)
    (hworkspaces : w'.workspaces = w.workspaces) (htemplates : w'.templates = w.templates)
    (hbuilds : w'.builds = w.builds) : w'.Own where
  builds id build hbuild :=
    (Later.of_eq hversions hworkspaces htemplates).buildable (h.builds id build (hbuilds ▸ hbuild))
  workspaces id workspace hworkspace :=
    (Later.of_eq hversions hworkspaces htemplates).templates _ _
      (h.workspaces id workspace (hworkspaces ▸ hworkspace))
  active id template htemplate :=
    (Later.of_eq hversions hworkspaces htemplates).owns (h.active id template (htemplates ▸ htemplate))

theorem createBuild (h : w.Own) {input : CreateWorkspaceBuildInput}
    {now : CryptoKeys.OffsetDateTime} (hjob : (w.jobs.lookup input.jobId).isSome)
    (hbuildable : w.Buildable input.templateVersionId input.workspaceId) :
    (w.createBuild input now hjob).Own where
  builds id build hbuild := by
    have hlookup : (if id = input.id then some (input.row _ now) else w.builds.lookup id) =
        some build := (HashMap.lookup_insert_ite _ _ _ _).symm.trans hbuild
    split at hlookup
    · cases hlookup
      exact hbuildable
    · exact h.builds id build hlookup
  workspaces := h.workspaces
  active := h.active

theorem insertWorkspace (h : w.Own) {input : CreateWorkspaceInput}
    {now : CryptoKeys.OffsetDateTime}
    (hlater : w.Later { w with workspaces := w.workspaces.insert input.id (input.row now) })
    (hin : w.InOrganization input.templateId input.organizationId) :
    Own { w with workspaces := w.workspaces.insert input.id (input.row now) } where
  builds id build hbuild := hlater.buildable (h.builds id build hbuild)
  workspaces id workspace hworkspace := by
    have hlookup := (HashMap.lookup_insert_ite _ _ _ _).symm.trans hworkspace
    split at hlookup
    · cases hlookup
      exact hin
    · exact h.workspaces id workspace hlookup
  active := h.active

theorem after (h : w.Own) {event : Event}
    (howns : ∀ templateId versionId, event = .promote templateId versionId →
      w.Owns versionId templateId) : (w.after event).Own := by
  have hlater := later_after w event
  cases event with
  | importVersion id row =>
    simp only [World.after] at hlater ⊢
    split
    · exact h
    · rename_i hfree
      simp only [hfree] at hlater
      exact ⟨fun id build hbuild => hlater.buildable (h.builds id build hbuild),
        fun id workspace hworkspace => hlater.templates _ _ (h.workspaces id workspace hworkspace),
        fun id template htemplate => hlater.owns (h.active id template htemplate)⟩
  | promote templateId versionId =>
    simp only [World.after] at hlater ⊢
    split
    · exact h
    · rename_i template htemplate
      simp only [htemplate] at hlater
      refine ⟨fun id build hbuild => hlater.buildable (h.builds id build hbuild),
        fun id workspace hworkspace => hlater.templates _ _ (h.workspaces id workspace hworkspace),
        fun id row hrow => ?_⟩
      have hlookup := (HashMap.lookup_insert_ite _ _ _ _).symm.trans hrow
      split at hlookup
      · rename_i heq
        cases hlookup
        exact heq ▸ howns templateId versionId rfl
      · exact h.active id row hlookup

end World.Own

/-! ## The condition -/

/-- A version that a request names is one of the template that the request is for. -/
def Request.NamesOwn (w : World) : Request → Prop
  | .postWorkspaceBuild _ workspaceId body =>
    ∀ versionId, body.templateVersionId.bind Uuid.parse = some versionId →
      w.Buildable versionId workspaceId
  | .postUserWorkspace _ _ body | .postOrgMemberWorkspace _ _ _ body =>
    ∀ templateId name versionId, body.checked = .ok (templateId, name) →
      body.templateVersionId.bind Uuid.parse = some versionId → w.Owns versionId templateId
  | .startPrebuild input =>
    w.Owns input.templateVersionId input.templateId ∧
      w.InOrganization input.templateId input.organizationId
  | _ => True

/-- The latest build of a workspace is asked for when there is one. -/
def FindsBuild : Op → World → Choice → Prop
  | .store (.findLatestWorkspaceBuild workspaceId), w, choice =>
    choice.fails = none → ∃ id build, w.builds.lookup id = some build ∧
      build.workspaceId = workspaceId
  | _, _, _ => True

/-- An active version is one of its template. -/
def Event.PromotesOwn (w : World) : Event → Prop
  | .promote templateId versionId => w.Owns versionId templateId
  | .importVersion _ _ => True

def ownVersions : Regime Op World Choice Request Event where
  call := FindsBuild
  spawn w request := request.NamesOwn w
  outside w event := event.PromotesOwn w

/-! ## The programs -/

section

variable [Collation] [Cron] [QuietHours] [UuidText] (config : Config)

def growth : Growth (builds config) where
  Later := World.Later
  refl := World.Later.refl
  trans := World.Later.trans
  exec h := later_of_exec h
  outside := later_after

def owning : Method (growth config) ownVersions Unit :=
  .ofState (growth config) ownVersions World.Own

/-- What a task that knows the tables `seen` may call: it inserts no workspace, and builds of
workspaces from versions of their own. -/
def Prudent (seen : World) : Op → Prop
  | .store (.insertWorkspace _) => False
  | .store (.insertWorkspaceBuild input) =>
    seen.Buildable input.templateVersionId input.workspaceId
  | _ => True

variable {config}

omit [Cron] [QuietHours] [UuidText] in
theorem own_of_prudent {op : Op} {seen w w' : World} {choice : Choice} {r : op.Response}
    (h : w.Own) (hseen : seen.Later w) (hop : Prudent seen op)
    (hexec : exec op w choice = some (r, w')) : w'.Own := by
  cases effect_of_exec hexec with
  | none => exact h
  | insertWorkspace _ => cases hop
  | createJob _ => exact h.of_eq rfl rfl rfl rfl
  | createBuild _ _ hjob => exact h.createBuild hjob (hseen.buildable hop)
  | parameters _ => exact h.of_eq rfl rfl rfl rfl
  | acquire _ _ => exact h.of_eq rfl rfl rfl rfl
  | complete => exact h.of_eq rfl rfl rfl rfl

/-- Whatever it returns. -/
def Returns {α : Type} (_ : World) (_ : Unit) (_ : α) : Prop := True

variable {α : Type} {seen : World}

theorem plays_of_prudent_later {p : Handler α} (h : p.Uses (Prudent seen)) :
    (owning config).Plays (fun w _ _ => seen.Later w) p seen () := by
  have hlater : ∀ {p : Handler α} {w : World}, seen.Later w → p.Uses (Prudent seen) →
      (owning config).Plays (fun w _ _ => seen.Later w) p w () := by
    intro p w hw hp
    induction p generalizing w with
    | done a => exact hw
    | call op next ih =>
      intro s others choice r s' hs hinv hallowed hexec
      exact ⟨(), own_of_prudent hinv (hw.trans hs) hp.1 hexec,
        ih r (hw.trans (hs.trans (later_of_exec hexec))) (hp.2 r)⟩
  exact hlater (.refl seen) h

theorem plays_of_prudent {p : Handler α} (h : p.Uses (Prudent seen)) :
    (owning config).Plays Returns p seen () :=
  (plays_of_prudent_later h).mono fun _ _ _ _ _ => trivial

/-- A call that is prudent, and what is known after it. -/
theorem plays_call {op : Op} {next : op.Response → Handler α} (hop : Prudent seen op)
    (hnext : ∀ s choice r s', seen.Later s → s.Own → FindsBuild op s choice →
      exec op s choice = some (r, s') → (owning config).Plays Returns (next r) s' ()) :
    (owning config).Plays Returns (.call op next) seen () := by
  intro s others choice r s' hs hinv hallowed hexec
  exact ⟨(), own_of_prudent hinv hs hop hexec, hnext s choice r s' hs hinv hallowed hexec⟩

/-- A call to the store that fails, or does what it is for. -/
theorem plays_ask {query : StoreCall} {k : query.Response → Outcome α}
    (hop : Prudent seen (.store query))
    (hk : ∀ s choice a s', seen.Later s → s.Own → FindsBuild (.store query) s choice →
      choice.fails = none → perform choice s query = (.ok a, s') →
      (owning config).Plays Returns (k a) s' ()) :
    (owning config).Plays Returns ((ask query).bindOk k) seen () := by
  refine plays_call hop fun s choice (r : Except StorageError query.Response) s' hs hinv hallowed
    hexec => ?_
  cases r with
  | error e => trivial
  | ok a =>
    simp only [exec] at hexec
    split at hexec
    · cases hexec
    · rename_i hfails
      exact hk s choice a s' hs hinv hallowed hfails (Option.some.inj hexec)

omit [Collation] [Cron] [QuietHours] [UuidText] in
theorem prudent_of_buildsOnly {versionId workspaceId : Uuid}
    (h : seen.Buildable versionId workspaceId) {op : Op} (hop : BuildsOnly workspaceId versionId op) :
    Prudent seen op := by
  unfold Prudent
  split
  · exact hop
  · obtain ⟨rfl, rfl⟩ := hop
    exact h
  · trivial

theorem startBuild_plays {initiatorId orgId owner workspaceId versionId : Uuid}
    {template : TemplateRow} {transition : String} {k : Uuid × WorkspaceBuildRow → Outcome α}
    (h : seen.Buildable versionId workspaceId) (hk : ∀ build, (k build).Uses (Prudent seen)) :
    (owning config).Plays Returns ((startBuild config initiatorId orgId owner workspaceId template
      versionId transition).bindOk k) seen () :=
  plays_of_prudent ((startBuild_uses.mono fun _ hop => prudent_of_buildsOnly h hop).bindOk hk)

theorem postWorkspaceBuild_plays {actor : Actor} {workspaceId : Uuid} {body : BuildBody}
    (hnames : ∀ versionId, body.templateVersionId.bind Uuid.parse = some versionId →
      seen.Buildable versionId workspaceId) :
    (owning config).Plays Returns (postWorkspaceBuild config actor workspaceId body) seen () := by
  refine plays_ask trivial fun s choice (found : Option WorkspaceRow) s' hs _ _ _ hperform => ?_
  obtain ⟨hfound, rfl⟩ : _ ∧ s = s' := by simpa [perform] using hperform
  cases found with
  | none => trivial
  | some workspace =>
    obtain ⟨hworkspace, -⟩ := Option.filter_eq_some_iff.mp hfound
    dsimp only
    split
    · trivial
    · refine plays_ask trivial fun s₁ choice (template : Option TemplateRow) s₂ hs₁ hinv _ _
        hperform => ?_
      obtain ⟨htemplate, rfl⟩ : _ ∧ s₁ = s₂ := by simpa [perform] using hperform
      cases template with
      | none => trivial
      | some template =>
        refine startBuild_plays ?_ fun _ => trivial
        cases hnamed : body.templateVersionId.bind Uuid.parse with
        | some versionId => exact hs₁.buildable (hs.buildable (hnames versionId hnamed))
        | none =>
          exact ⟨workspace, hs₁.workspaces workspaceId workspace hworkspace,
            hinv.active workspace.templateId template htemplate⟩

omit [Collation] [Cron] [QuietHours] [UuidText] in
theorem findLatestWorkspaceBuild_some {w : World} {workspaceId : Uuid}
    {latest : WorkspaceBuildRecord} (h : findLatestWorkspaceBuild w workspaceId = .ok (some latest)) :
    ∃ id build, w.builds.lookup id = some build ∧ build.workspaceId = workspaceId ∧
      build.templateVersionId = latest.templateVersionId := by
  unfold findLatestWorkspaceBuild at h
  split at h
  · cases h
  · rename_i id row hselect
    obtain ⟨hrow, hof, -⟩ := HashMap.selectGreatest_spec hselect
    refine ⟨id, row, hrow, of_decide_eq_true hof, ?_⟩
    unfold Catalog.workspaceBuildRecordFromRow at h
    split at h
    · rename_i hrecord
      split at hrecord
      · cases hrecord
      · cases hrecord
        cases h
        rfl
    · cases h

omit [Collation] [Cron] [QuietHours] [UuidText] in
theorem findLatestWorkspaceBuild_none {w : World} {workspaceId : Uuid}
    (h : findLatestWorkspaceBuild w workspaceId = .ok none) :
    ∀ id build, w.builds.lookup id = some build → build.workspaceId ≠ workspaceId := by
  intro id build hbuild hof
  unfold findLatestWorkspaceBuild at h
  split at h
  · rename_i hselect
    have hnone := HashMap.selectGreatest_eq_none_iff.mp hselect id build hbuild
    simp [hof] at hnone
  · split at h
    · cases h
    · cases h

omit [Collation] [Cron] [QuietHours] [UuidText] in
/-- The version of the latest build is one of the template of the workspace. -/
theorem buildable_of_latest {w : World} (h : w.Own) {workspaceId : Uuid}
    {latest : WorkspaceBuildRecord}
    (hlatest : findLatestWorkspaceBuild w workspaceId = .ok (some latest)) :
    w.Buildable latest.templateVersionId workspaceId := by
  obtain ⟨id, build, hbuild, rfl, hversion⟩ := findLatestWorkspaceBuild_some hlatest
  exact hversion ▸ h.builds id build hbuild

theorem triggerWorkspaceBuild_plays {ws : JoinedRow} {transition reason : String}
    {now : CryptoKeys.OffsetDateTime} :
    (owning config).Plays Returns (triggerWorkspaceBuild ws transition reason now) seen () := by
  refine plays_ask trivial fun s choice (found : Option WorkspaceBuildRecord) s' _ hinv _ _
    hperform => ?_
  obtain ⟨hfound, rfl⟩ : findLatestWorkspaceBuild s ws.workspaceId = .ok found ∧ s = s' := by
    simpa [perform] using hperform
  cases found with
  | none => trivial
  | some latest =>
    have hbuildable := buildable_of_latest hinv hfound
    refine plays_of_prudent (Calls.Uses.mono ?_ fun _ => prudent_of_buildsOnly hbuildable)
    refine (uses_ask trivial).bindOk fun workspace => ?_
    cases workspace with
    | none => trivial
    | some workspace =>
      refine ⟨trivial, fun jobId => buildProvisionerTags_uses.bindOk fun tags => ?_⟩
      refine (uses_ask trivial).bindOk fun _ => ⟨trivial, fun buildId => ?_⟩
      exact (uses_ask ⟨rfl, rfl⟩).bindOk fun _ => trivial

theorem lifecycleTransitions_plays {now : CryptoKeys.OffsetDateTime}
    {quietHours : Option QuietHoursWindow} (workspaces : List JoinedRow) (stats : LifecycleStats) :
    (owning config).Plays Returns (lifecycleTransitions now quietHours workspaces stats) seen () := by
  induction workspaces generalizing seen stats with
  | nil => trivial
  | cons ws rest ih =>
    have htrigger : ∀ transition reason (count : Except StorageError Unit → LifecycleStats),
        (owning config).Plays Returns ((triggerWorkspaceBuild ws transition reason now).bind
          fun result => lifecycleTransitions now quietHours rest (count result)) seen () :=
      fun _ _ _ => .bind (triggerWorkspaceBuild_plays.mono fun _ _ _ _ _ => ih _)
    unfold lifecycleTransitions
    split
    · exact htrigger _ _ _
    · split
      · split
        · exact ih _
        · exact htrigger _ _ _
      · split
        · exact htrigger _ _ _
        · exact ih _

theorem deletePrebuild_plays {workspaceId : Uuid} :
    (owning config).Plays Returns (PrebuildBuilder.delete workspaceId) seen () := by
  refine plays_call trivial fun _ _ now _ _ _ _ _ => ?_
  refine plays_call trivial fun _ _ jobId _ _ _ _ _ => ?_
  refine plays_call trivial fun _ _ buildId _ _ _ _ _ => ?_
  refine plays_ask trivial fun _ _ (workspace : Option WorkspaceRow) _ _ _ _ _ _ => ?_
  cases workspace with
  | none => trivial
  | some workspace =>
    refine plays_ask trivial fun s choice (found : Option WorkspaceBuildRecord) s' _ hinv hfinds
      hfails hperform => ?_
    obtain ⟨hfound, rfl⟩ : findLatestWorkspaceBuild s workspaceId = .ok found ∧ s = s' := by
      simpa [perform] using hperform
    cases found with
    | none =>
      obtain ⟨id, build, hbuild, hof⟩ := hfinds hfails
      exact absurd hof (findLatestWorkspaceBuild_none hfound id build hbuild)
    | some latest =>
      refine plays_of_prudent ((uses_ask trivial).bindOk fun _ => uses_ask ?_)
      exact buildable_of_latest hinv hfound

/-- A workspace is inserted, and what is known of it then. -/
theorem insertWorkspace_plays {input : CreateWorkspaceInput} {k : WorkspaceRow → Outcome α}
    (hin : seen.InOrganization input.templateId input.organizationId)
    (hk : ∀ workspace s', (∀ versionId, seen.Owns versionId input.templateId →
      s'.Buildable versionId input.id) → (owning config).Plays Returns (k workspace) s' ()) :
    (owning config).Plays Returns ((ask (.insertWorkspace input)).bindOk k) seen () := by
  intro s others choice (r : Except StorageError WorkspaceRow) s' hs hinv _ hexec
  have hexec : exec (.store (.insertWorkspace input)) s choice = some (r, s') := hexec
  have hlater := later_of_exec hexec
  simp only [exec] at hexec
  split at hexec
  · cases hexec
    exact ⟨(), hinv, trivial⟩
  · simp only [perform, insertWorkspace] at hexec
    split at hexec
    · cases hexec
      exact ⟨(), hinv, trivial⟩
    · cases hexec
      refine ⟨(), World.Own.insertWorkspace hinv hlater (hs.templates _ _ hin), ?_⟩
      refine hk _ _ fun versionId howns => ⟨input.row choice.now, ?_, hlater.owns (hs.owns howns)⟩
      exact (HashMap.lookup_insert_ite _ _ _ _).trans (if_pos rfl)

theorem startPrebuild_plays {input : PrebuildBuilder.PrebuildStartInput}
    (howns : seen.Owns input.templateVersionId input.templateId)
    (hin : seen.InOrganization input.templateId input.organizationId) :
    (owning config).Plays Returns (PrebuildBuilder.start input) seen () := by
  refine plays_call trivial fun s _ now s' hs _ _ hexec => ?_
  have hlater := hs.trans (later_of_exec hexec)
  refine plays_call trivial fun s₁ _ workspaceId s₁' hs₁ _ _ hexec => ?_
  have hlater := hlater.trans (hs₁.trans (later_of_exec hexec))
  refine plays_call trivial fun s₂ _ jobId s₂' hs₂ _ _ hexec => ?_
  have hlater := hlater.trans (hs₂.trans (later_of_exec hexec))
  refine plays_call trivial fun s₃ _ buildId s₃' hs₃ _ _ hexec => ?_
  have hlater := hlater.trans (hs₃.trans (later_of_exec hexec))
  refine insertWorkspace_plays (hlater.templates _ _ hin) fun workspace s₄ hbuildable => ?_
  refine plays_of_prudent ((uses_ask trivial).bindOk fun _ => uses_ask ?_)
  exact hbuildable _ (hlater.owns howns)

theorem createWorkspace_plays {actor : Actor} {targetUser organizationId templateId : Uuid}
    {template : TemplateRow} {name : String} {body : WorkspaceBody}
    (hactive : seen.Owns template.activeVersionId templateId)
    (hnames : ∀ versionId, body.templateVersionId.bind Uuid.parse = some versionId →
      seen.Owns versionId templateId) (hin : seen.InOrganization templateId organizationId) :
    (owning config).Plays Returns (createWorkspace config actor targetUser organizationId templateId
      template name body) seen () := by
  refine plays_call trivial fun s _ workspaceId s' hs _ _ hexec => ?_
  have hlater := hs.trans (later_of_exec hexec)
  refine insertWorkspace_plays (hlater.templates _ _ hin) fun workspace s₁ hbuildable => ?_
  refine startBuild_plays (hbuildable _ (hlater.owns ?_)) fun build => ?_
  · cases hnamed : body.templateVersionId.bind Uuid.parse with
    | some versionId => exact hnames versionId hnamed
    | none => exact hactive
  · split
    · trivial
    · exact (uses_ask trivial).bindOk fun _ => trivial

/-- What is known before a user is looked up is known after it. -/
theorem resolveUser_plays {actor : Actor} {user : String} {k : Option Uuid → Outcome α}
    (hk : ∀ target w, seen.Later w → (owning config).Plays Returns (k target) w ()) :
    (owning config).Plays Returns ((resolveUser actor user).bindOk k) seen () := by
  refine .bindOk ((plays_of_prudent_later ?_).mono fun w _ r _ hw =>
    ⟨fun _ _ => trivial, fun target _ => hk target w hw⟩)
  unfold resolveUser
  dsimp only
  split
  · exact (uses_ask trivial).bindOk fun _ => trivial
  · split
    · exact (uses_ask trivial).bindOk fun _ => trivial
    · exact (uses_ask trivial).bindOk fun _ => trivial

/-- The template is found, and the workspace is created from it. -/
theorem findTemplate_plays {templateId : Uuid} {k : Option TemplateRow → Outcome α}
    (hnone : ∀ w, (owning config).Plays Returns (k none) w ())
    (hsome : ∀ template w, seen.Later w → w.Owns template.activeVersionId templateId →
      w.InOrganization templateId template.organizationId →
      (owning config).Plays Returns (k (some template)) w ()) :
    (owning config).Plays Returns ((ask (.findTemplateById templateId)).bindOk k) seen () := by
  refine plays_ask trivial fun s choice (found : Option TemplateRow) s' hs hinv _ _ hperform => ?_
  obtain ⟨htemplate, rfl⟩ : _ ∧ s = s' := by simpa [perform] using hperform
  cases found with
  | none => exact hnone s
  | some template =>
    exact hsome template s hs (hinv.active templateId template htemplate) ⟨template, htemplate, rfl⟩

theorem postUserWorkspace_plays {actor : Actor} {user : String} {body : WorkspaceBody}
    (hnames : ∀ templateId name versionId, body.checked = .ok (templateId, name) →
      body.templateVersionId.bind Uuid.parse = some versionId → seen.Owns versionId templateId) :
    (owning config).Plays Returns (postUserWorkspace config actor user body) seen () := by
  refine resolveUser_plays fun target w hw => ?_
  split
  · trivial
  · split
    · trivial
    · split
      · trivial
      · rename_i hchecked
        refine findTemplate_plays (fun _ => trivial) fun template w' hw' hactive hin => ?_
        exact createWorkspace_plays hactive
          (fun versionId hnamed => hw'.owns (hw.owns (hnames _ _ versionId hchecked hnamed))) hin

theorem postOrgMemberWorkspace_plays {actor : Actor} {organization user : String}
    {body : WorkspaceBody}
    (hnames : ∀ templateId name versionId, body.checked = .ok (templateId, name) →
      body.templateVersionId.bind Uuid.parse = some versionId → seen.Owns versionId templateId) :
    (owning config).Plays Returns (postOrgMemberWorkspace config actor organization user body) seen
      () := by
  refine .bindOk ((plays_of_prudent_later ?_).mono fun w _ r _ hw =>
    ⟨fun _ _ => trivial, fun orgId _ => ?_⟩)
  · unfold resolveOrganization
    split
    · exact (uses_ask trivial).bindOk fun _ => trivial
    · exact (uses_ask trivial).bindOk fun _ => trivial
  · split
    · trivial
    · refine resolveUser_plays fun target w₁ hw₁ => ?_
      split
      · trivial
      · split
        · trivial
        · split
          · trivial
          · rename_i hchecked
            refine findTemplate_plays (fun _ => trivial) fun template w₂ hw₂ hactive hin => ?_
            dsimp only
            split
            · trivial
            · rename_i hsame
              have horg := not_not.mp hsame
              exact createWorkspace_plays hactive (fun versionId hnamed =>
                (hw.trans (hw₁.trans hw₂)).owns (hnames _ _ versionId hchecked hnamed)) (horg ▸ hin)

theorem handle_plays {request : Request} (h : request.NamesOwn seen) :
    (owning config).Plays Returns (handle config request) seen () := by
  have hanswer : ∀ {β : Type} {p : Handler β}, (owning config).Plays Returns p seen () →
      (owning config).Plays Returns (p.bind fun _ => .done ()) seen () :=
    fun hp => .bind (hp.mono fun _ _ _ _ _ => trivial)
  cases request with
  | postWorkspaceBuild actor workspaceId body => exact hanswer (postWorkspaceBuild_plays h)
  | postUserWorkspace actor user body => exact hanswer (postUserWorkspace_plays h)
  | postOrgMemberWorkspace actor organization user body =>
    exact hanswer (postOrgMemberWorkspace_plays h)
  | lifecycleTick now quietHours =>
    refine hanswer (plays_ask trivial fun _ _ (workspaces : List JoinedRow) _ _ _ _ _ _ => ?_)
    exact .bind ((lifecycleTransitions_plays workspaces _).mono fun _ _ _ _ _ => trivial)
  | startPrebuild input => exact hanswer (startPrebuild_plays h.1 h.2)
  | deletePrebuild workspaceId => exact hanswer deletePrebuild_plays
  | acquireJob input => exact hanswer (plays_of_prudent (uses_ask trivial))
  | completeJob input => exact hanswer (plays_of_prudent (uses_ask trivial))

theorem owning_sound : (owning config).Sound Returns where
  spawn _ _ _ hinv hnames := ⟨(), hinv, handle_plays hnames⟩
  outside _ _ event hinv hpromotes := by
    refine World.Own.after hinv fun templateId versionId heq => ?_
    subst heq
    exact hpromotes

end

/-! ## Runs on fixed inputs -/

theorem oneTemplate_own : oneTemplate.Own where
  builds _ _ hbuild := by cases hbuild
  workspaces _ _ hworkspace := by cases hworkspace
  active id template htemplate := by
    obtain ⟨rfl, rfl⟩ := HashMap.lookup_singleRow.mp htemplate
    exact ⟨_, HashMap.lookup_singleRow_self, rfl⟩

/-- A test that is passed where requests name no version and latest builds are found. -/
def ownCheck (w : Pool World (Handler Unit)) : Move Request Choice Event → Bool
  | .spawn (.postUserWorkspace _ _ body) => body.templateVersionId.isNone
  | .spawn (.deletePrebuild _) => true
  | .spawn _ => false
  | .run i _ =>
    match w.tasks[i]? with
    | some (.call (.store (.findLatestWorkspaceBuild workspaceId)) _) =>
      (w.shared.builds.selectFirst fun _ build => build.workspaceId = workspaceId).isSome
    | _ => true
  | .outside _ => false

theorem ownVersions_of_check {w : Pool World (Handler Unit)} {move : Move Request Choice Event}
    (h : ownCheck w move = true) : ownVersions.Allows w move := by
  cases move with
  | outside event => cases h
  | spawn request =>
    cases request with
    | postUserWorkspace actor user body =>
      intro templateId name versionId _ hnamed
      have hnone : body.templateVersionId = none := Option.isNone_iff_eq_none.mp h
      rw [hnone] at hnamed
      cases hnamed
    | deletePrebuild workspaceId => trivial
    | _ => cases h
  | run i choice =>
    intro op next htask
    change FindsBuild op w.shared choice
    unfold FindsBuild
    split
    · intro _
      simp only [ownCheck, htask] at h
      obtain ⟨⟨id, build⟩, hselect⟩ := Option.isSome_iff_exists.mp h
      obtain ⟨hbuild, hof⟩ := HashMap.selectFirst_spec hselect
      exact ⟨id, build, hbuild, of_decide_eq_true hof⟩
    · trivial

/-- The workspace 20 is created, and deleted as a prebuild. -/
def deleteRun : List (Move Request Choice Event) :=
  createRun ++ .spawn (.deletePrebuild ⟨20⟩) ::
    [1, 31, 32, 1, 1, 1, 1].map fun n => .run 1 (drawing n)

/-- A build of the workspace 20 from the version 99, which is not there. -/
def strayRun : List (Move Request Choice Event) :=
  createRun ++ .spawn (.postWorkspaceBuild owner ⟨20⟩
    ⟨some "start", some "00000000-0000-0000-0000-000000000063"⟩) ::
      [1, 1, 31, 32, 1, 1, 1, 1, 1, 1].map fun n => .run 1 (drawing n)

end Coderd.Builds
