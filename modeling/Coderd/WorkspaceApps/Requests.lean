import Coderd.Foundation.Uuid
import Coderd.Rbac.Roles

namespace Coderd.WorkspaceApps

open Coderd.Foundation
open Coderd.Rbac (splitOnce)

/-- `{:?}` of a text: quoted, its special characters escaped. -/
class DebugText where
  debug : String → String

export DebugText (debug)

/-! ## Errors -/

inductive AppAccessError where
  | agentNotReporting
  | agentNotConnected
  | appNotRunning
  | appUrlNotSet
  | notOrganizationMember
  deriving DecidableEq, Repr

def AppAccessError.description : AppAccessError → String
  | agentNotReporting => "agent is not reporting"
  | agentNotConnected => "agent is not connected"
  | appNotRunning => "app is not running"
  | appUrlNotSet => "app URL is not set"
  | notOrganizationMember => "user is not a member of the workspace's organization"

inductive WorkspaceAppError where
  | notFound (message : String)
  | unauthorized
  | badRequest (message : String)
  | pathAppsDisabled
  | internal (message : String)
  | proxyError (message : String)
  | classified (error : AppAccessError)
  deriving DecidableEq, Repr

/-! ## Texts -/

def endsWith (text ending : String) : Bool := ending.toList.isSuffixOf text.toList

/-- `str::split` by a separator that is not empty; `skip` characters of one are still to pass. -/
def splitAux (separator : List Char) : Nat → List Char → List Char → List (List Char)
  | _, piece, [] => [piece.reverse]
  | skip + 1, piece, _ :: cs => splitAux separator skip piece cs
  | 0, piece, c :: cs =>
    if separator.isPrefixOf (c :: cs) then
      piece.reverse :: splitAux separator (separator.length - 1) [] cs
    else splitAux separator 0 (c :: piece) cs

def splitText (text separator : String) : List String :=
  (splitAux separator.toList 0 [] text.toList).map String.ofList

/-- `str::parse::<u16>`: digits, after a plus sign or not. -/
def parseU16 (text : String) : Option Nat :=
  let digits := match text.toList with
    | '+' :: rest => rest
    | cs => cs
  let value := digits.foldl (fun n c => 10 * n + (c.toNat - '0'.toNat)) 0
  if digits.isEmpty || !digits.all Char.isDigit || 65536 ≤ value then none else some value

def trimEndSlashes (text : String) : String :=
  String.ofList ((text.toList.reverse.dropWhile (· = '/')).reverse)

/-- What comes after the first text in the second, if the second starts with it. -/
def stripStart (start text : String) : Option String :=
  if start.toList.isPrefixOf text.toList then
    some (String.ofList (text.toList.drop start.toList.length))
  else none

/-! ## Ports -/

/-- `^\d{4,5}s?$`. The digits of other scripts, which `\d` matches as well, make no port. -/
def portRegex (slug : String) : Bool :=
  let digits := if endsWith slug "s" then slug.toList.dropLast else slug.toList
  digits.all Char.isDigit && (digits.length = 4 || digits.length = 5)

/-- The port that a slug stands for, with its protocol. Any number is one where the request is for
a port in the first place. -/
def portOf (slug : String) (slugIsPort : Bool) : Option (String × Nat) :=
  if portRegex slug then
    if endsWith slug "s" then
      (parseU16 (String.ofList slug.toList.dropLast)).map fun port => ("https", port)
    else (parseU16 slug).map fun port => ("http", port)
  else if slugIsPort then (parseU16 slug).map fun port => ("http", port)
  else none

/-! ## Requests -/

inductive AccessMethod where
  | path
  | subdomain
  | terminal
  deriving DecidableEq, Repr

structure AppRequest where
  accessMethod : AccessMethod
  basePath : String
  appPrefix : String
  usernameOrId : String
  workspaceAndAgent : String
  workspaceNameOrId : String
  agentNameOrId : String
  appSlugOrPort : String
  deriving DecidableEq

namespace AppRequest

/-- `workspace.agent` comes apart at the first dot. -/
def splitWorkspaceAndAgent (request : AppRequest) : AppRequest :=
  if request.workspaceAndAgent.isEmpty then request
  else
    match splitOnce request.workspaceAndAgent '.' with
    | none =>
      { request with
        workspaceNameOrId := request.workspaceAndAgent
        workspaceAndAgent := "" }
    | some (workspace, agent) =>
      { request with
        workspaceNameOrId := workspace
        agentNameOrId := agent
        workspaceAndAgent := "" }

def normalize (request : AppRequest) : AppRequest :=
  let request := request.splitWorkspaceAndAgent
  if endsWith request.basePath "/" then request
  else { request with basePath := request.basePath ++ "/" }

variable [DebugText]

def checkTerminal (request : AppRequest) : Except String Unit :=
  if !request.usernameOrId.isEmpty || !request.workspaceNameOrId.isEmpty ||
      !request.appSlugOrPort.isEmpty then
    .error "terminal access method must only specify agent_name_or_id"
  else if request.agentNameOrId.isEmpty then .error "agent name or ID is required"
  else if (Uuid.parse request.agentNameOrId).isNone then
    .error ("invalid agent name or ID " ++ debug request.agentNameOrId ++ ", must be a UUID")
  else .ok ()

def check (request : AppRequest) : Except String Unit :=
  if request.basePath.isEmpty then .error "base path is required"
  else if !request.workspaceAndAgent.isEmpty then
    .error "dev error: check() called before normalize()"
  else if request.accessMethod = .terminal then request.checkTerminal
  else if request.usernameOrId.isEmpty then .error "username or ID is required"
  else if request.usernameOrId = "me" then .error "username cannot be \"me\" in app requests"
  else if request.workspaceNameOrId.isEmpty then .error "workspace name or ID is required"
  else if request.appSlugOrPort.isEmpty then .error "app slug or port is required"
  else if !request.appPrefix.isEmpty && request.accessMethod ≠ .subdomain then
    .error "prefix is only valid for subdomain apps"
  else if !request.appPrefix.isEmpty && !endsWith request.appPrefix "---" then
    .error "prefix must have a trailing '---'"
  else .ok ()

end AppRequest

/-! ## Subdomains -/

structure ApplicationUrl where
  appPrefix : String
  appSlugOrPort : String
  agentName : String
  workspaceName : String
  username : String
  deriving DecidableEq

/-- `[a-zA-Z0-9]+(?:-[a-zA-Z0-9]+)*`. -/
def nameRegex (name : String) : Bool :=
  (splitText name "-").all fun piece => !piece.isEmpty && piece.toList.all Char.isAlphanum

/-- The four names of a subdomain without its prefix. A name has no two hyphens in a row, so the
separators are where they are. -/
def appUrlRegex (rest : String) : Option (String × String × String × String) :=
  match splitText rest "--" with
  | [slug, workspace, username] =>
    if [slug, workspace, username].all nameRegex then some (slug, "", workspace, username) else none
  | [slug, agent, workspace, username] =>
    if [slug, agent, workspace, username].all nameRegex then
      some (slug, agent, workspace, username)
    else none
  | _ => none

/-- The prefix of a subdomain ends at its last three hyphens. -/
def splitAppPrefix (subdomain : String) : String × String :=
  match (splitText subdomain "---").reverse with
  | [] => ("", subdomain)
  | [_] => ("", subdomain)
  | rest :: parts => ("---".intercalate parts.reverse ++ "---", rest)

def parseSubdomainAppUrl [DebugText] (subdomain : String) : Except String ApplicationUrl :=
  let (appPrefix, rest) := splitAppPrefix subdomain
  match appUrlRegex rest with
  | none => .error ("invalid application URL format: " ++ debug subdomain)
  | some (slug, agent, workspaceName, username) =>
    if portRegex slug then
      if agent.isEmpty then
        .error ("agent name is required for port-based URLs: " ++ debug subdomain)
      else
        .ok
          { appPrefix
            appSlugOrPort := slug
            agentName := agent
            workspaceName
            username }
    else
      -- an app's slug is not taken from one agent only
      .ok
        { appPrefix
          appSlugOrPort := slug
          agentName := ""
          workspaceName
          username }

/-! ## Entries -/

/-- What the proxy is called with. -/
structure ProxyCall where
  request : AppRequest
  appPath : String
  slugIsPort : Bool

/-- The three ways in. A subdomain is what the host pattern captures of the request's host. -/
inductive AppEntry where
  | path (user workspaceAndAgent workspaceapp fullPath : String)
  | portForward (user workspaceAndAgent port fullPath : String)
  | subdomain (name uriPath : String)

structure Config where
  disablePathApps : Bool
  accessUrl : String

/-- How an entry ends that calls no proxy. -/
inductive EntryError where
  | refused (error : WorkspaceAppError)
  | apiError (message : String)
  | redirected (location : String)
  deriving DecidableEq, Repr

def agentMinimumListeningPort : Nat := 9

def appLogoutHostname : String := "coder-logout"

/-- The path behind the base path of the app. -/
def appPathOf (basePath fullPath : String) : String :=
  let appPath := (stripStart (trimEndSlashes basePath) fullPath).getD "/"
  if appPath.isEmpty then "/" else appPath

section

variable [DebugText]

def portNotPermitted (kind : String) (port : Nat) : WorkspaceAppError :=
  .badRequest (kind ++ " " ++ toString port ++ " is not permitted. Coder reserves ports less than "
    ++ toString agentMinimumListeningPort ++ " for internal use.")

/-- The request of a path, checked. -/
def pathCall (basePath user workspaceAndAgent slug fullPath : String) (slugIsPort : Bool) :
    Except EntryError ProxyCall :=
  let request := AppRequest.normalize
    { accessMethod := .path
      basePath
      appPrefix := ""
      usernameOrId := user
      workspaceAndAgent
      workspaceNameOrId := ""
      agentNameOrId := ""
      appSlugOrPort := slug }
  match request.check with
  | .error e => .error (.refused (.badRequest e))
  | .ok () =>
    .ok
      { request
        appPath := appPathOf basePath fullPath
        slugIsPort }

def workspaceAppsProxyPath (config : Config) (user workspaceAndAgent workspaceapp fullPath : String) :
    Except EntryError ProxyCall :=
  if config.disablePathApps then .error (.refused .pathAppsDisabled)
  else if user = "me" then
    .error (.refused (.notFound "Applications must be accessed with the full username, not @me."))
  else
    pathCall ("/@" ++ user ++ "/" ++ workspaceAndAgent ++ "/apps/" ++ workspaceapp ++ "/") user
      workspaceAndAgent workspaceapp fullPath false

def workspacePortForward (config : Config) (user workspaceAndAgent port fullPath : String) :
    Except EntryError ProxyCall :=
  if config.disablePathApps then .error (.refused .pathAppsDisabled)
  else if user = "me" then
    .error (.refused (.notFound "Port forwarding must use the full username, not @me."))
  else
    match parseU16 port with
    | none => .error (.refused (.badRequest ("invalid port number: " ++ debug port)))
    | some number =>
      if number < agentMinimumListeningPort then
        .error (.refused (portNotPermitted "Port" number))
      else
        pathCall ("/@" ++ user ++ "/" ++ workspaceAndAgent ++ "/port/" ++ port ++ "/") user
          workspaceAndAgent port fullPath true

def subdomainApp (config : Config) (name uriPath : String) : Except EntryError ProxyCall :=
  if name = appLogoutHostname then .error (.redirected config.accessUrl)
  else
    match parseSubdomainAppUrl name with
    | .error e => .error (.apiError ("Invalid application URL: " ++ e))
    | .ok app =>
      let request : AppRequest :=
        { accessMethod := .subdomain
          basePath := "/"
          appPrefix := app.appPrefix
          usernameOrId := app.username
          workspaceAndAgent := ""
          workspaceNameOrId := app.workspaceName
          agentNameOrId := app.agentName
          appSlugOrPort := app.appSlugOrPort }
      match request.check with
      | .error e => .error (.apiError e)
      | .ok () =>
        .ok
          { request
            appPath := uriPath
            slugIsPort := false }

def AppEntry.proxyCall (config : Config) : AppEntry → Except EntryError ProxyCall
  | path user workspaceAndAgent workspaceapp fullPath =>
    workspaceAppsProxyPath config user workspaceAndAgent workspaceapp fullPath
  | portForward user workspaceAndAgent port fullPath =>
    workspacePortForward config user workspaceAndAgent port fullPath
  | subdomain name uriPath => subdomainApp config name uriPath

end

end Coderd.WorkspaceApps
