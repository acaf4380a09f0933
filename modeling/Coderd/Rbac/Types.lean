import Coderd.Foundation.HashMap
import Coderd.Foundation.Uuid

namespace Coderd.Rbac

open Coderd.Foundation

/-! ## Actions and resource types -/

inductive Action where
  | create | read | update | delete | use | ssh | applicationConnect | viewInsights | start
  | stop | assign | unassign | readPersonal | updatePersonal | createAgent | deleteAgent
  | updateAgent | share
  deriving DecidableEq, Repr

def Action.asStr : Action → String
  | create => "create"
  | read => "read"
  | update => "update"
  | delete => "delete"
  | use => "use"
  | ssh => "ssh"
  | applicationConnect => "application_connect"
  | viewInsights => "view_insights"
  | start => "start"
  | stop => "stop"
  | assign => "assign"
  | unassign => "unassign"
  | readPersonal => "read_personal"
  | updatePersonal => "update_personal"
  | createAgent => "create_agent"
  | deleteAgent => "delete_agent"
  | updateAgent => "update_agent"
  | share => "share"

inductive ResourceType where
  | wildcard | aibridgeInterception | apiKey | assignOrgRole | assignRole | auditLog
  | boundaryUsage | chat | connectionLog | cryptoKey | debugInfo | deploymentConfig
  | deploymentStats | file | group | groupMember | idpsyncSettings | inboxNotification | license
  | notificationMessage | notificationPreference | notificationTemplate | oauth2App
  | oauth2AppCodeToken | oauth2AppSecret | organization | organizationMember | prebuiltWorkspace
  | provisionerDaemon | provisionerJobs | replicas | system | tailnetCoordinator | task
  | template | usageEvent | user | userSecret | webpushSubscription | workspace
  | workspaceAgentDevcontainers | workspaceAgentResourceMonitor | workspaceDormant
  | workspaceProxy
  deriving DecidableEq, Repr

def ResourceType.asStr : ResourceType → String
  | wildcard => "*"
  | aibridgeInterception => "aibridge_interception"
  | apiKey => "api_key"
  | assignOrgRole => "assign_org_role"
  | assignRole => "assign_role"
  | auditLog => "audit_log"
  | boundaryUsage => "boundary_usage"
  | chat => "chat"
  | connectionLog => "connection_log"
  | cryptoKey => "crypto_key"
  | debugInfo => "debug_info"
  | deploymentConfig => "deployment_config"
  | deploymentStats => "deployment_stats"
  | file => "file"
  | group => "group"
  | groupMember => "group_member"
  | idpsyncSettings => "idpsync_settings"
  | inboxNotification => "inbox_notification"
  | license => "license"
  | notificationMessage => "notification_message"
  | notificationPreference => "notification_preference"
  | notificationTemplate => "notification_template"
  | oauth2App => "oauth2_app"
  | oauth2AppCodeToken => "oauth2_app_code_token"
  | oauth2AppSecret => "oauth2_app_secret"
  | organization => "organization"
  | organizationMember => "organization_member"
  | prebuiltWorkspace => "prebuilt_workspace"
  | provisionerDaemon => "provisioner_daemon"
  | provisionerJobs => "provisioner_jobs"
  | replicas => "replicas"
  | system => "system"
  | tailnetCoordinator => "tailnet_coordinator"
  | task => "task"
  | template => "template"
  | usageEvent => "usage_event"
  | user => "user"
  | userSecret => "user_secret"
  | webpushSubscription => "webpush_subscription"
  | workspace => "workspace"
  | workspaceAgentDevcontainers => "workspace_agent_devcontainers"
  | workspaceAgentResourceMonitor => "workspace_agent_resource_monitor"
  | workspaceDormant => "workspace_dormant"
  | workspaceProxy => "workspace_proxy"

/-- All resource types except the wildcard. -/
def allResourceTypes : List ResourceType :=
  [.aibridgeInterception, .apiKey, .assignOrgRole, .assignRole, .auditLog, .boundaryUsage,
   .chat, .connectionLog, .cryptoKey, .debugInfo, .deploymentConfig, .deploymentStats, .file,
   .group, .groupMember, .idpsyncSettings, .inboxNotification, .license, .notificationMessage,
   .notificationPreference, .notificationTemplate, .oauth2App, .oauth2AppCodeToken,
   .oauth2AppSecret, .organization, .organizationMember, .prebuiltWorkspace, .provisionerDaemon,
   .provisionerJobs, .replicas, .system, .tailnetCoordinator, .task, .template, .usageEvent,
   .user, .userSecret, .webpushSubscription, .workspace, .workspaceAgentDevcontainers,
   .workspaceAgentResourceMonitor, .workspaceDormant, .workspaceProxy]

def wildcard : String := "*"

/-! ## Objects -/

abbrev Acl := HashMap String (List Action)

/-- The resource a request is about. `anyOrg` asks about some organization, whichever. -/
structure Object where
  resourceType : ResourceType
  ownerId : Option Uuid
  orgId : Option Uuid
  id : Option Uuid
  anyOrg : Bool
  aclUserList : Acl
  aclGroupList : Acl

namespace Object

def new (resourceType : ResourceType) : Object where
  resourceType := resourceType
  ownerId := none
  orgId := none
  id := none
  anyOrg := false
  aclUserList := ∅
  aclGroupList := ∅

def withOwner (object : Object) (ownerId : Uuid) : Object :=
  { object with ownerId := some ownerId }

def inOrg (object : Object) (orgId : Uuid) : Object :=
  { object with orgId := some orgId, anyOrg := false }

def anyOrganization (object : Object) : Object :=
  { object with orgId := none, anyOrg := true }

def withId (object : Object) (id : Uuid) : Object := { object with id := some id }

def withAclUserList (object : Object) (acl : Acl) : Object := { object with aclUserList := acl }

def withAclGroupList (object : Object) (acl : Acl) : Object := { object with aclGroupList := acl }

end Object

/-! ## Permissions, roles and scopes -/

/-- `action` is `none` for a permission on every action. -/
structure Permission where
  negate : Bool
  resourceType : ResourceType
  action : Option Action
  deriving DecidableEq, Repr

namespace Permission

def allow (resourceType : ResourceType) (action : Action) : Permission :=
  { negate := false, resourceType, action := some action }

def allowAll (resourceType : ResourceType) : Permission :=
  { negate := false, resourceType, action := none }

def deny (resourceType : ResourceType) (action : Action) : Permission :=
  { negate := true, resourceType, action := some action }

def matchesOn (perm : Permission) (resourceType : ResourceType) (action : Action) : Bool :=
  (perm.resourceType = .wildcard ∨ perm.resourceType = resourceType) ∧
    (perm.action = none ∨ perm.action = some action)

end Permission

structure OrgPermissions where
  org : List Permission
  member : List Permission

/-- `byOrgId` is keyed by the text of the organization's id. -/
structure Role where
  name : String
  orgId : Option Uuid
  displayName : String
  site : List Permission
  user : List Permission
  byOrgId : HashMap String OrgPermissions

structure Scope where
  role : Role
  allowList : List (String × String)

structure Actor where
  userId : Uuid
  username : String
  organizationIds : List Uuid
  siteRoles : List String
  orgRoles : List String
  groups : List String
  scope : Option String
  scopeOverride : Option Scope

/-- `str::eq_ignore_ascii_case`. -/
def eqIgnoreAsciiCase (a b : String) : Bool :=
  a.toList.map Char.toLower = b.toList.map Char.toLower

def Actor.hasSiteRole (actor : Actor) (roleName : String) : Bool :=
  actor.siteRoles.any (fun role => eqIgnoreAsciiCase role roleName)

end Coderd.Rbac
