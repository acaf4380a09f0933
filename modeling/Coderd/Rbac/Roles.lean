import Coderd.Rbac.Types

namespace Coderd.Rbac

open Coderd.Foundation

/-! ## Helpers -/

def allPermsExcept (except : List ResourceType) : List Permission :=
  (allResourceTypes.filter (fun rt => !except.contains rt)).map Permission.allowAll

/-- `for action in actions { perms.push(Permission::allow(rt, action)) }`. -/
def allowEach (rt : ResourceType) (actions : List Action) : List Permission :=
  actions.map (Permission.allow rt)

def permissionsFromMap (map : List (ResourceType × List Action)) : List Permission :=
  map.flatMap (fun (rt, actions) => allowEach rt actions)

/-- A role with site and user permissions only. -/
def siteRole (name displayName : String) (site : List Permission) (user : List Permission := []) :
    Role :=
  { name, orgId := none, displayName, site, user, byOrgId := ∅ }

/-- A role with permissions in the organization `orgId`, keyed by its text. -/
def orgRole [UuidText] (name displayName : String) (orgId : Uuid) (org : List Permission)
    (member : List Permission := []) (site : List Permission := []) : Role :=
  { name, orgId := some orgId, displayName, site, user := [],
    byOrgId := AList.insert (UuidText.display orgId) { org, member } ∅ }

def dormantActions : List Action :=
  [.read, .delete, .create, .update, .stop, .createAgent, .deleteAgent, .updateAgent]

/-! ## Site roles -/

def roleOwner : Role :=
  siteRole "owner" "Owner"
    (allPermsExcept
        [.workspaceDormant, .prebuiltWorkspace, .workspace, .userSecret, .usageEvent,
          .boundaryUsage]
      ++ [.allowAll .workspace]
      ++ allowEach .workspaceDormant dormantActions
      ++ [.allow .prebuiltWorkspace .update, .allow .prebuiltWorkspace .delete])

def roleMember : Role :=
  siteRole "member" "Member"
    (permissionsFromMap [(.assignRole, [.read]), (.oauth2App, [.read]), (.workspaceProxy, [.read])])
    (allPermsExcept
        [.workspaceDormant, .prebuiltWorkspace, .workspace, .user, .organizationMember,
          .boundaryUsage]
      ++ permissionsFromMap
        [(.user, [.read, .readPersonal, .updatePersonal]),
          (.provisionerDaemon, [.read, .create, .update])])

def roleAuditor : Role :=
  siteRole "auditor" "Auditor"
    (permissionsFromMap
      [(.assignOrgRole, [.read]), (.auditLog, [.read]), (.connectionLog, [.read]),
        (.template, [.read, .viewInsights]), (.user, [.read]), (.group, [.read]),
        (.groupMember, [.read]), (.organization, [.read]), (.organizationMember, [.read]),
        (.deploymentStats, [.read]), (.deploymentConfig, [.read]),
        (.aibridgeInterception, [.read])])

def roleTemplateAdmin : Role :=
  siteRole "template-admin" "Template Admin"
    (permissionsFromMap
      [(.assignOrgRole, [.read]),
        (.template, [.create, .use, .read, .update, .delete, .viewInsights]),
        (.file, [.create, .read]), (.workspace, [.read]),
        (.prebuiltWorkspace, [.update, .delete]),
        (.provisionerDaemon, [.create, .read, .update, .delete]), (.user, [.read]),
        (.group, [.read]), (.groupMember, [.read]), (.organization, [.read]),
        (.organizationMember, [.read])])

def roleUserAdmin : Role :=
  siteRole "user-admin" "User Admin"
    (permissionsFromMap
      [(.assignRole, [.assign, .unassign, .read]), (.assignOrgRole, [.assign, .unassign, .read]),
        (.user, [.create, .read, .update, .delete, .updatePersonal, .readPersonal]),
        (.group, [.create, .read, .update, .delete]), (.groupMember, [.read]),
        (.organization, [.read]), (.organizationMember, [.create, .read, .update, .delete]),
        (.idpsyncSettings, [.read, .update])])

/-! ## Organization roles -/

section

variable [UuidText]

def roleOrgAdmin (orgId : Uuid) : Role :=
  orgRole "organization-admin" "Organization Admin" orgId
    (allPermsExcept
        [.workspace, .workspaceDormant, .prebuiltWorkspace, .assignRole, .userSecret,
          .boundaryUsage]
      -- a workspace without ssh and application_connect
      ++ allowEach .workspace
        [.create, .read, .update, .delete, .start, .stop, .use, .viewInsights, .share,
          .createAgent, .deleteAgent, .updateAgent]
      ++ allowEach .workspaceDormant dormantActions
      ++ [.allow .prebuiltWorkspace .update, .allow .prebuiltWorkspace .delete])
    [] (permissionsFromMap [(.user, [.read])])

def roleOrgMember (orgId : Uuid) : Role :=
  orgRole "organization-member" "Organization Member" orgId
    (permissionsFromMap
      [(.provisionerDaemon, [.read]), (.organization, [.read]), (.assignOrgRole, [.read]),
        (.organizationMember, [.read]), (.group, [.read])])
    (allPermsExcept [.workspaceDormant, .prebuiltWorkspace, .user, .organizationMember]
      ++ permissionsFromMap
        [(.workspaceDormant, dormantActions), (.organizationMember, [.read]),
          (.provisionerDaemon, [.read, .create, .update])])

def roleOrgAuditor (orgId : Uuid) : Role :=
  orgRole "organization-auditor" "Organization Auditor" orgId
    (permissionsFromMap
      [(.auditLog, [.read]), (.connectionLog, [.read]), (.template, [.read, .viewInsights]),
        (.group, [.read]), (.groupMember, [.read]), (.organization, [.read]),
        (.organizationMember, [.read])])

def roleOrgUserAdmin (orgId : Uuid) : Role :=
  orgRole "organization-user-admin" "Organization User Admin" orgId
    (permissionsFromMap
      [(.assignOrgRole, [.assign, .unassign, .read]), (.organization, [.read]),
        (.organizationMember, [.create, .read, .update, .delete]),
        (.group, [.create, .read, .update, .delete]), (.groupMember, [.read]),
        (.idpsyncSettings, [.read, .update])])
    [] (permissionsFromMap [(.user, [.read])])

def roleOrgTemplateAdmin (orgId : Uuid) : Role :=
  orgRole "organization-template-admin" "Organization Template Admin" orgId
    (permissionsFromMap
      [(.template, [.create, .use, .read, .update, .delete, .viewInsights]),
        (.file, [.create, .read]), (.workspace, [.read]),
        (.prebuiltWorkspace, [.update, .delete]), (.organization, [.read]),
        (.organizationMember, [.read]), (.group, [.read]), (.groupMember, [.read]),
        (.provisionerDaemon, [.create, .read, .update, .delete]),
        (.provisionerJobs, [.read, .update, .create])])

def roleOrgWorkspaceCreationBan (orgId : Uuid) : Role :=
  orgRole "organization-workspace-creation-ban" "Organization Workspace Creation Ban" orgId
    [.deny .workspace .create, .deny .workspace .delete, .deny .workspace .createAgent,
      .deny .workspace .deleteAgent]

end

/-! ## Roles of the system actors -/

def roleSystemRestricted : Role :=
  siteRole "system" "Coder"
    ([.allow .wildcard .read, .allowAll .system, .allowAll .apiKey, .allow .group .create,
        .allow .group .update, .allowAll .assignRole, .allowAll .assignOrgRole,
        .allow .organization .create, .allow .organization .read,
        .allow .organizationMember .create, .allow .organizationMember .delete,
        .allow .organizationMember .read, .allow .provisionerDaemon .create,
        .allow .provisionerDaemon .read, .allow .provisionerDaemon .update, .allowAll .user]
      ++ allowEach .workspace
        [.update, .delete, .start, .stop, .ssh, .createAgent, .deleteAgent, .updateAgent]
      ++ [.allow .deploymentConfig .create, .allow .deploymentConfig .update,
          .allow .deploymentConfig .delete, .allowAll .notificationMessage]
      ++ allowEach .notificationPreference [.create, .update, .delete]
      ++ allowEach .notificationTemplate [.create, .update, .delete]
      ++ allowEach .cryptoKey [.create, .update, .delete]
      ++ [.allow .file .create, .allow .file .read, .allow .provisionerJobs .read,
          .allow .provisionerJobs .update, .allow .provisionerJobs .create,
          .allow .connectionLog .update, .allow .connectionLog .read])

def roleKeyRotator : Role :=
  siteRole "keyrotator" "Crypto Key Rotator" [.allowAll .cryptoKey]

def roleProvisionerd : Role :=
  siteRole "provisionerd" "Provisioner Daemon"
    (allowEach .provisionerJobs [.read, .update, .create]
      ++ [.allow .file .create, .allow .file .read, .allowAll .system, .allow .template .read,
          .allow .template .update, .allow .user .read, .allow .user .readPersonal,
          .allow .user .updatePersonal]
      ++ allowEach .workspace [.delete, .read, .update, .start, .stop, .createAgent]
      ++ allowEach .task [.read, .update, .delete]
      ++ [.allowAll .apiKey, .allow .organization .read, .allow .group .read,
          .allow .notificationMessage .create, .allow .notificationMessage .read,
          .allow .usageEvent .create])

def roleNotifier : Role :=
  siteRole "notifier" "Notifier"
    [.allowAll .notificationMessage, .allow .inboxNotification .create,
      .allowAll .webpushSubscription, .allow .deploymentConfig .read,
      .allow .deploymentConfig .update]

def roleResourceMonitor : Role :=
  siteRole "resourcemonitor" "Resource Monitor" [.allow .workspaceAgentResourceMonitor .update]

def roleAutostart : Role :=
  siteRole "autostart" "Autostart Daemon"
    ([.allow .organizationMember .read, .allow .file .read, .allow .notificationMessage .create,
        .allow .notificationMessage .read, .allowAll .system, .allow .user .read]
      ++ allowEach .task [.read, .update]
      ++ allowEach .template [.read, .update]
      ++ allowEach .workspace [.delete, .read, .update, .start, .stop])

def roleConnectionLogger : Role :=
  siteRole "connectionlogger" "Connection Logger"
    [.allow .connectionLog .update, .allow .connectionLog .read]

def roleJobReaper : Role :=
  siteRole "jobreaper" "Job Reaper Daemon"
    [.allowAll .system, .allow .template .read, .allow .template .update, .allow .workspace .read,
      .allow .workspace .update, .allow .provisionerJobs .read, .allow .provisionerJobs .update]

/-! ## Role names -/

/-- `str::split_once`: what stands before and after the first `c`. -/
def splitOnce (s : String) (c : Char) : Option (String × String) :=
  match s.toList.span (· ≠ c) with
  | (_, []) => none
  | (before, _ :: after) => some (String.ofList before, String.ofList after)

/-- The organization role of that name. -/
def expandOrgRole [UuidText] (roleName : String) (orgId : Uuid) : Option Role :=
  match roleName with
  | "organization-admin" => some (roleOrgAdmin orgId)
  | "organization-member" => some (roleOrgMember orgId)
  | "organization-auditor" => some (roleOrgAuditor orgId)
  | "organization-user-admin" => some (roleOrgUserAdmin orgId)
  | "organization-template-admin" => some (roleOrgTemplateAdmin orgId)
  | "organization-workspace-creation-ban" => some (roleOrgWorkspaceCreationBan orgId)
  | _ => none

/-- The site role of that name. -/
def expandSiteRole (name : String) : Option Role :=
  match name with
  | "owner" => some roleOwner
  | "member" => some roleMember
  | "auditor" => some roleAuditor
  | "template-admin" => some roleTemplateAdmin
  | "user-admin" => some roleUserAdmin
  | "system" => some roleSystemRestricted
  | "keyrotator" => some roleKeyRotator
  | "provisionerd" => some roleProvisionerd
  | "notifier" => some roleNotifier
  | "resourcemonitor" => some roleResourceMonitor
  | "autostart" => some roleAutostart
  | "connectionlogger" => some roleConnectionLogger
  | "jobreaper" => some roleJobReaper
  | _ => none

def expandRole [UuidText] (name : String) : Option Role :=
  match splitOnce name ':' with
  | some (roleName, orgIdStr) => do
    let orgId ← UuidText.parseStr orgIdStr
    expandOrgRole roleName orgId
  | none => expandSiteRole name

end Coderd.Rbac
