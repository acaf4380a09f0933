import Coderd.Workspaces.Builders

namespace Coderd.Builds

open Coderd.Foundation Coderd.Rbac
open Coderd.Auth (UserRow)

/-! ## What an endpoint may insert -/

section

variable [UuidText] [QuietHours] {config : Config} {actor : Actor} {ownerId organizationId : Uuid}

/-- The actor may create workspaces of that owner in that organization. -/
def Creatable (actor : Actor) (ownerId organizationId : Uuid) : Prop :=
  authorize actor .create (((Object.new .workspace).withOwner ownerId).inOrg organizationId) =
    .ok ()

/-- A workspace of that owner in that organization is inserted only where the actor may create
it. -/
def InsertsPermitted (actor : Actor) (ownerId organizationId : Uuid) : Op → Prop
  | .store (.insertWorkspace input) =>
    input.ownerId = ownerId → input.organizationId = organizationId →
      Creatable actor ownerId organizationId
  | _ => True

omit [QuietHours] in
/-- What the check of `post_user_workspace` leaves open is the ban of the organization. -/
theorem creatable_iff
    (h : authorize actor .create ((Object.new .workspace).withOwner ownerId) = .ok ()) :
    Creatable actor ownerId organizationId ↔ ¬ actor.BannedIn organizationId := by
  unfold Creatable
  rw [authorize_inOrg_iff rfl rfl h, not_iff_not]
  constructor
  · rintro ⟨-, -, orgId, hbanned, hreaches⟩
    have horg : organizationId = orgId := of_decide_eq_true hreaches
    exact horg ▸ hbanned
  · intro hbanned
    refine ⟨rfl, by decide, organizationId, hbanned, ?_⟩
    simp [Object.reaches, Object.inOrg]

/-! ## The calls of the endpoints -/

omit [UuidText] [QuietHours] in
theorem uses_ask {allowed : Op → Prop} {query : StoreCall} (h : allowed (.store query)) :
    (ask query).Uses allowed :=
  ⟨h, fun _ => trivial⟩

/-- No workspace is inserted, and builds of that workspace from that version only. -/
def BuildsOnly (workspaceId versionId : Uuid) : Op → Prop
  | .store (.insertWorkspace _) => False
  | .store (.insertWorkspaceBuild input) =>
    input.workspaceId = workspaceId ∧ input.templateVersionId = versionId
  | _ => True

omit [UuidText] [QuietHours] in
theorem buildProvisionerTags_uses {owner versionId versionId' workspaceId : Uuid} :
    (buildProvisionerTags owner versionId').Uses (BuildsOnly workspaceId versionId) := by
  refine (uses_ask trivial).bindOk fun version => ?_
  cases version with
  | none => trivial
  | some version => exact (uses_ask trivial).bindOk fun _ => trivial

omit [UuidText] in
theorem startBuild_uses {initiatorId orgId owner workspaceId versionId : Uuid}
    {template : TemplateRow} {transition : String} :
    (startBuild config initiatorId orgId owner workspaceId template versionId transition).Uses
      (BuildsOnly workspaceId versionId) := by
  refine ⟨trivial, fun jobId => ⟨trivial, fun buildId => ?_⟩⟩
  refine buildProvisionerTags_uses.bindOk fun tags => ?_
  refine ⟨trivial, fun createdAt => ⟨trivial, fun updatedAt => ?_⟩⟩
  refine (uses_ask trivial).bindOk fun _ => ⟨trivial, fun now => ?_⟩
  refine Calls.Uses.bindOk ?_ fun maxDeadline => (uses_ask ⟨rfl, rfl⟩).bindOk fun _ => trivial
  unfold resolveBuildMaxDeadline
  split
  · trivial
  · split
    · exact (uses_ask trivial).bindOk fun _ => trivial
    · trivial

/-- The calls of a build insert no workspace. -/
theorem startBuild_permitted {initiatorId orgId owner workspaceId versionId : Uuid}
    {template : TemplateRow} {transition : String} :
    (startBuild config initiatorId orgId owner workspaceId template versionId transition).Uses
      (InsertsPermitted actor ownerId organizationId) := by
  refine startBuild_uses.mono fun op hop => ?_
  unfold InsertsPermitted
  split
  · cases hop
  · trivial

theorem createWorkspace_permitted {targetUser orgId templateId : Uuid} {template : TemplateRow}
    {name : String} {body : WorkspaceBody}
    (h : targetUser = ownerId → orgId = organizationId → Creatable actor ownerId organizationId) :
    (createWorkspace config actor targetUser orgId templateId template name body).Uses
      (InsertsPermitted actor ownerId organizationId) := by
  refine ⟨trivial, fun workspaceId => (uses_ask h).bindOk fun workspace => ?_⟩
  refine startBuild_permitted.bindOk fun build => ?_
  split
  · trivial
  · exact (uses_ask trivial).bindOk fun _ => trivial

omit [QuietHours] in
theorem resolveUser_permitted {user : String} :
    (resolveUser actor user).Uses (InsertsPermitted actor ownerId organizationId) := by
  unfold resolveUser
  dsimp only
  split
  · exact (uses_ask trivial).bindOk fun _ => trivial
  · split
    · exact (uses_ask trivial).bindOk fun _ => trivial
    · exact (uses_ask trivial).bindOk fun _ => trivial

theorem postOrgMemberWorkspace_permitted (organization user : String) (body : WorkspaceBody) :
    (postOrgMemberWorkspace config actor organization user body).Uses
      (InsertsPermitted actor ownerId organizationId) := by
  refine Calls.Uses.bindOk ?_ fun orgId => ?_
  · unfold resolveOrganization
    split
    · exact (uses_ask trivial).bindOk fun _ => trivial
    · exact (uses_ask trivial).bindOk fun _ => trivial
  · split
    · trivial
    · rename_i orgId
      refine resolveUser_permitted.bindOk fun target => ?_
      split
      · trivial
      · rename_i targetUser
        split
        · trivial
        · rename_i hallowed
          split
          · trivial
          · refine (uses_ask trivial).bindOk fun template => ?_
            split
            · trivial
            · split
              · trivial
              · refine createWorkspace_permitted fun howner horg => ?_
                subst howner horg
                exact hallowed

/-- The other endpoint asks without an organization. -/
theorem postUserWorkspace_permitted
    (h : authorize actor .create ((Object.new .workspace).withOwner ownerId) = .ok () →
      ¬ actor.BannedIn organizationId) (user : String) (body : WorkspaceBody) :
    (postUserWorkspace config actor user body).Uses
      (InsertsPermitted actor ownerId organizationId) := by
  refine resolveUser_permitted.bindOk fun target => ?_
  split
  · trivial
  · rename_i targetUser
    split
    · trivial
    · rename_i hallowed
      split
      · trivial
      · refine (uses_ask trivial).bindOk fun template => ?_
        split
        · trivial
        · refine createWorkspace_permitted fun howner _ => ?_
          subst howner
          exact (creatable_iff hallowed).mpr (h hallowed)

/-! ## Reaching the insert -/

/-- A template of the organization, without an autostop requirement. -/
def templateOf (organizationId activeVersionId : Uuid) : TemplateRow where
  allowUserAutostart := true
  failureTtl := 0
  timeTilDormant := 0
  timeTilDormantAutodelete := 0
  activityBump := 0
  organizationId := organizationId
  activeVersionId := activeVersionId
  autostopRequirementDaysOfWeek := 0
  autostopRequirementWeeks := 0

def alice : UserRow where
  username := "alice"
  rbacRoles := []
  loginType := .password
  status := .active
  lastSeenAt := none
  deleted := false
  isSystem := false

/-- A request for a workspace from the template. -/
def workspaceBody (templateId : Uuid) (templateVersionId : Option String) : WorkspaceBody where
  templateId := some templateId.toHyphenated
  name := some "dev"
  autostartSchedule := none
  ttlMs := none
  automaticUpdates := none
  templateVersionId := templateVersionId
  richParameterValues := []

omit [UuidText] [QuietHours] in
theorem checked_workspaceBody (templateId : Uuid) (templateVersionId : Option String) :
    (workspaceBody templateId templateVersionId).checked = .ok (templateId, "dev") := by
  simp [WorkspaceBody.checked, workspaceBody, Uuid.parse_toHyphenated]

omit [UuidText] [QuietHours] in
theorem toHyphenated_ne_me (id : Uuid) : id.toHyphenated ≠ "me" := Uuid.toHyphenated_ne rfl id

-- the texts of ids are not to be computed in what follows
attribute [local irreducible] Uuid.toHyphenated Uuid.parse

/-- With answers that name the owner and a template of the organization, the endpoint comes to the
insert wherever its check lets it. -/
theorem creatable_of_permitted
    (hallowed : authorize actor .create ((Object.new .workspace).withOwner ownerId) = .ok ())
    (h : (postUserWorkspace config actor ownerId.toHyphenated (workspaceBody ⟨0⟩ none)).Uses
      (InsertsPermitted actor ownerId organizationId)) : Creatable actor ownerId organizationId := by
  have hresolve : resolveUser actor ownerId.toHyphenated =
      (ask (.findUserById ownerId)).bindOk fun user => .done (.ok (user.map fun _ => ownerId)) := by
    simp only [resolveUser, toHyphenated_ne_me, if_false, Uuid.parse_toHyphenated]
  rw [postUserWorkspace, hresolve] at h
  have huser := h.2 (.ok (some alice))
  simp only [Calls.bind, Calls.bindOk, ask, Option.map_some, hallowed, checked_workspaceBody]
    at huser
  have hinsert := (huser.2 (.ok (some (templateOf organizationId ⟨0⟩)))).2 ⟨0⟩
  exact hinsert.1 rfl rfl

/-- `post_org_member_workspace` inserts only workspaces that the actor may create; so does
`post_user_workspace`, exactly if the actor is not banned in the organization, or not let through
by the check without one. -/
theorem endpoints_agree_iff (config : Config) (actor : Actor) (ownerId organizationId : Uuid) :
    (∀ organization user body, (postOrgMemberWorkspace config actor organization user body).Uses
      (InsertsPermitted actor ownerId organizationId)) ∧
    ((∀ user body, (postUserWorkspace config actor user body).Uses
      (InsertsPermitted actor ownerId organizationId)) ↔
    (authorize actor .create ((Object.new .workspace).withOwner ownerId) = .ok () →
      ¬ actor.BannedIn organizationId)) := by
  refine ⟨postOrgMemberWorkspace_permitted, fun h hallowed => ?_, postUserWorkspace_permitted⟩
  exact (creatable_iff hallowed).mp (creatable_of_permitted hallowed (h _ _))

end

/-! ## A run on fixed tables -/

@[reducible] def noQuietHours : QuietHours where
  parseQuietHoursSchedule _ := none
  computeMaxDeadline _ _ _ _ := none

@[reducible] def sameCase : Collation where
  lower name := name

def userId : Uuid := ⟨1⟩

def orgId : Uuid := ⟨10⟩

def templateId : Uuid := ⟨5⟩

/-- A user, and a template with one version. -/
def oneTemplate : World where
  users := HashMap.singleRow userId alice
  organizations := HashMap.singleRow orgId ⟨"acme", false⟩
  templates := HashMap.singleRow templateId (templateOf orgId ⟨6⟩)
  versions := HashMap.singleRow ⟨6⟩ ⟨some templateId, ⟨7⟩⟩
  workspaces := ∅
  builds := ∅
  buildParameters := ∅
  jobs := ∅
  jobDetails := ∅
  userConfigs := ∅
  jobOfBuild _ _ _ h := by cases h
  oneNumber _ _ _ _ h := by cases h

/-- A choice that draws the id of that number; no call fails. -/
def drawing (n : Nat) : Choice where
  now := .unixEpoch
  uuid := ⟨BitVec.ofNat 128 n⟩
  locked := []
  fails := none
  unread := none

/-- An owner that may not create workspaces in the organization 10. -/
def bannedOwner : Actor where
  userId := userId
  username := "alice"
  organizationIds := [orgId]
  siteRoles := ["owner"]
  orgRoles := ["organization-workspace-creation-ban:00000000-0000-0000-0000-00000000000a"]
  groups := []
  scope := none
  scopeOverride := none

def defaults : Config := ⟨false, ""⟩

/-- The owner asks for a workspace of its own. -/
def bannedRun : List (Move Request Choice Event) :=
  .spawn (.postUserWorkspace bannedOwner "me" (workspaceBody templateId none)) ::
    [1, 2, 20, 20].map fun n => .run 0 (drawing n)

theorem bannedRun_creates :
    ((@poolAfter Workspaces.everyMinute noQuietHours Uuid.hyphenated defaults sameCase oneTemplate
        bannedRun).shared.workspaces.lookup ⟨20⟩).any
      (fun row => row.ownerId = userId ∧ row.organizationId = orgId) = true ∧
      ¬ @Creatable Uuid.hyphenated bannedOwner userId orgId := by
  constructor
  · decide +kernel
  · unfold Creatable
    decide +kernel

end Coderd.Builds
