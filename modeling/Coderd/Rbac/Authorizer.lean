import Coderd.Rbac.Roles

namespace Coderd.Rbac

open Coderd.Foundation

/-! ## Scopes -/

namespace Scope

def wildcardAllowList : List (String × String) := [(wildcard, wildcard)]

def scopeAll : Scope where
  role := siteRole "Scope_coder:all" "All operations" [.allowAll .wildcard]
  allowList := wildcardAllowList

def scopeApplicationConnect : Scope where
  role := siteRole "Scope_coder:application_connect" "Ability to connect to applications"
    [.allow .workspace .applicationConnect]
  allowList := wildcardAllowList

def scopeNoUserData : Scope where
  role := siteRole "Scope_no_user_data" "Scope without access to user data"
    ((allResourceTypes.filter (fun rt => rt ≠ .user)).map .allowAll)
  allowList := wildcardAllowList

def singlePermissionScope (name : String) (rt : ResourceType) (action : Action) : Scope where
  role := siteRole ("Scope_" ++ name) name [.allow rt action]
  allowList := wildcardAllowList

def scopeWorkspaceRead : Scope := singlePermissionScope "workspace:read" .workspace .read

def scopeWorkspaceStart : Scope := singlePermissionScope "workspace:start" .workspace .start

def scopeWorkspaceStop : Scope := singlePermissionScope "workspace:stop" .workspace .stop

def scopeTemplateRead : Scope := singlePermissionScope "template:read" .template .read

def scopeApiKeyRead : Scope := singlePermissionScope "api_key:read" .apiKey .read

def scopeUserSecretRead : Scope := singlePermissionScope "user_secret:read" .userSecret .read

def scopeUserSecretWrite : Scope := singlePermissionScope "user_secret:update" .userSecret .update

def scopeApiKeyCreate : Scope := singlePermissionScope "api_key:create" .apiKey .create

def scopeApiKeyWrite : Scope := singlePermissionScope "api_key:update" .apiKey .update

def scopeApiKeyDelete : Scope := singlePermissionScope "api_key:delete" .apiKey .delete

def scopeUserSecretCreate : Scope :=
  singlePermissionScope "user_secret:create" .userSecret .create

def scopeUserSecretDelete : Scope :=
  singlePermissionScope "user_secret:delete" .userSecret .delete

def scopeTaskRead : Scope := singlePermissionScope "task:read" .task .read

def scopeTaskWrite : Scope := singlePermissionScope "task:update" .task .update

def scopeTaskDelete : Scope := singlePermissionScope "task:delete" .task .delete

def scopeOrganizationRead : Scope := singlePermissionScope "organization:read" .organization .read

def scopeOrganizationWrite : Scope :=
  singlePermissionScope "organization:update" .organization .update

def scopeOrganizationDelete : Scope :=
  singlePermissionScope "organization:delete" .organization .delete

def scopeWorkspaceWrite : Scope := singlePermissionScope "workspace:update" .workspace .update

def scopeWorkspaceDelete : Scope := singlePermissionScope "workspace:delete" .workspace .delete

def scopeTemplateWrite : Scope := singlePermissionScope "template:update" .template .update

def scopeDeploymentConfigRead : Scope :=
  singlePermissionScope "deployment_config:read" .deploymentConfig .read

def scopeAuditLogRead : Scope := singlePermissionScope "audit_log:read" .auditLog .read

def scopeWorkspaceAgent [UuidText] (workspaceId templateId ownerId : Uuid)
    (blockUserData : Bool) : Scope :=
  let base := if blockUserData then scopeNoUserData else scopeAll
  { role := { base.role with name := "Scope_workspace_agent", displayName := "Workspace agent" }
    allowList :=
      [(ResourceType.workspace.asStr, UuidText.display workspaceId),
        (ResourceType.template.asStr, UuidText.display templateId),
        (ResourceType.user.asStr, UuidText.display ownerId)] }

def allowsObject [UuidText] (scope : Scope) (object : Object) : Bool :=
  scope.allowList.isEmpty ||
    scope.allowList.any fun (allowType, allowId) =>
      (allowType = wildcard ∧ allowId = wildcard) ∨
        (allowType = object.resourceType.asStr ∧
          (allowId = wildcard ∨ some allowId = object.id.map UuidText.display))

/-- The scope of that name; the full scope for no name and for an unknown one. -/
def named (name : Option String) : Scope :=
  match name with
  | some "application_connect" => scopeApplicationConnect
  | some "no_user_data" => scopeNoUserData
  | some "workspace:read" => scopeWorkspaceRead
  | some "workspace:start" => scopeWorkspaceStart
  | some "workspace:stop" => scopeWorkspaceStop
  | some "workspace:update" => scopeWorkspaceWrite
  | some "workspace:delete" => scopeWorkspaceDelete
  | some "template:read" => scopeTemplateRead
  | some "template:update" => scopeTemplateWrite
  | some "api_key:read" => scopeApiKeyRead
  | some "api_key:create" => scopeApiKeyCreate
  | some "api_key:update" => scopeApiKeyWrite
  | some "api_key:delete" => scopeApiKeyDelete
  | some "user_secret:read" => scopeUserSecretRead
  | some "user_secret:create" => scopeUserSecretCreate
  | some "user_secret:update" => scopeUserSecretWrite
  | some "user_secret:delete" => scopeUserSecretDelete
  | some "task:read" => scopeTaskRead
  | some "task:update" => scopeTaskWrite
  | some "task:delete" => scopeTaskDelete
  | some "organization:read" => scopeOrganizationRead
  | some "organization:update" => scopeOrganizationWrite
  | some "organization:delete" => scopeOrganizationDelete
  | some "deployment_config:read" => scopeDeploymentConfigRead
  | some "audit_log:read" => scopeAuditLogRead
  | _ => scopeAll

end Scope

/-- The scope a request is held to. -/
def Actor.effectiveScope (actor : Actor) : Scope :=
  match actor.scopeOverride with
  | some scope => scope
  | none => Scope.named actor.scope

/-! ## Evaluation -/

structure Forbidden where
  message : String
  deriving DecidableEq, Repr

/-- Does a permission of that sign match? -/
def anyMatch (negate : Bool) (perms : List Permission) (object : Object) (action : Action) : Bool :=
  perms.any fun perm => perm.negate = negate ∧ perm.matchesOn object.resourceType action

def Actor.owns (actor : Actor) (object : Object) : Bool := object.ownerId = some actor.userId

/-- The permissions of that sign within one organization. -/
def matchInOrg (negate : Bool) (orgPerms : OrgPermissions) (actor : Actor) (action : Action)
    (object : Object) : Bool :=
  anyMatch negate orgPerms.org object action ||
    (actor.owns object && anyMatch negate orgPerms.member object action)

/-- The organization level: the object's own organization, or all for any organization. -/
def matchOrgLevel [UuidText] (negate : Bool) (role : Role) (actor : Actor) (action : Action)
    (object : Object) : Bool :=
  match object.orgId with
  | some orgId =>
    match role.byOrgId.lookup (UuidText.display orgId) with
    | some orgPerms => matchInOrg negate orgPerms actor action object
    | none => false
  | none =>
    object.anyOrg &&
      (HashMap.values role.byOrgId).any fun orgPerms =>
        matchInOrg negate orgPerms actor action object

section

variable [UuidText]

-- Unlike grants, denials are not looked for at the user level.
def hasDenyPermission (role : Role) (actor : Actor) (action : Action) (object : Object) : Bool :=
  anyMatch true role.site object action || matchOrgLevel true role actor action object

def checkPermissionsInRole (role : Role) (actor : Actor) (action : Action) (object : Object) :
    Bool :=
  anyMatch false role.site object action || matchOrgLevel false role actor action object ||
    (actor.owns object && anyMatch false role.user object action)

/-- The roles the names of the actor stand for, the unknown ones left out. -/
def Actor.roles (actor : Actor) : List Role :=
  actor.siteRoles.filterMap expandRole ++ actor.orgRoles.filterMap expandRole

/-- The object's access lists name the actor or one of its groups for the action. -/
def aclAllows (actor : Actor) (action : Action) (object : Object) : Bool :=
  ((object.aclUserList.lookup (UuidText.display actor.userId)).getD []).contains action ||
    actor.groups.any fun groupId => ((object.aclGroupList.lookup groupId).getD []).contains action

def authorize (actor : Actor) (action : Action) (object : Object) : Except Forbidden Unit :=
  let scope := actor.effectiveScope
  if !scope.allowsObject object then
    .error ⟨"scope does not allow access to " ++ object.resourceType.asStr ++ " resource"⟩
  else if !checkPermissionsInRole scope.role actor action object then
    .error ⟨"scope does not allow action '" ++ action.asStr ++ "' on resource '"
      ++ object.resourceType.asStr ++ "'"⟩
  else
    match actor.roles.find? (fun role => hasDenyPermission role actor action object) with
    | some role =>
      .error ⟨"role '" ++ role.name ++ "' explicitly denies action '" ++ action.asStr
        ++ "' on resource '" ++ object.resourceType.asStr ++ "'"⟩
    | none =>
      if actor.roles.any (fun role => checkPermissionsInRole role actor action object) then
        .ok ()
      else if aclAllows actor action object then
        .ok ()
      else
        .error ⟨"no role grants action '" ++ action.asStr ++ "' on resource '"
          ++ object.resourceType.asStr ++ "' for user '" ++ actor.username ++ "'"⟩

end

end Coderd.Rbac
