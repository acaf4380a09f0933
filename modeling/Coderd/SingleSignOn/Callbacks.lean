import Coderd.Auth.Issuing
import Coderd.Foundation.Calls
import Coderd.Foundation.Select

namespace Coderd.SingleSignOn

open Coderd.Foundation Coderd.Auth

/-! ## Rows -/

/-- A row of `users`, without its id. -/
structure UserRow where
  email : String
  username : String
  name : String
  loginType : LoginType
  status : UserStatus
  deleted : Bool
  isSystem : Bool

/-- A row of `organizations`, without its id. -/
structure OrganizationRow where
  name : String
  isDefault : Bool
  deleted : Bool

/-- The tables of the users and of the identities they are linked to. A link is under its user and
its login type. `lower` is the function `LOWER` of the database. -/
structure Db (lower : String → String) where
  users : HashMap Uuid UserRow
  links : HashMap (Uuid × LoginType) String
  organizations : HashMap Uuid OrganizationRow
  members : List (Uuid × Uuid)
  authSessions : HashMap (List UInt8) Uuid
  userOfLink : ∀ key linkedId, links.lookup key = some linkedId →
    ∃ row, users.lookup key.1 = some row

namespace Db

variable {lower : String → String} (db : Db lower)

/-- The unique indexes on the e-mail addresses and the names of users. -/
def violatesUnique (id : Uuid) (row : UserRow) : Bool :=
  !row.deleted && (db.users.selectFirst fun id' row' =>
    id' ≠ id && !row'.deleted &&
      (lower row'.email = lower row.email || lower row'.username = lower row.username)).isSome

/-- A row that is inserted or replaced. -/
def putUser (id : Uuid) (row : UserRow) : Db lower :=
  { db with
    users := db.users.insert id row
    userOfLink := by
      intro key linkedId h
      obtain ⟨row', hrow⟩ := db.userOfLink key linkedId h
      rw [HashMap.lookup_insert_ite]
      split
      · exact ⟨row, rfl⟩
      · exact ⟨row', hrow⟩ }

/-- `INSERT … ON CONFLICT (user_id, login_type) DO UPDATE`; a user must have the id. -/
def upsertUserLink? (userId : Uuid) (loginType : LoginType) (linkedId : String) :
    Option (Db lower) :=
  if h : (db.users.lookup userId).isSome then
    some {
      db with
      links := db.links.insert (userId, loginType) linkedId
      userOfLink := by
        intro key linkedId' hlink
        rw [HashMap.lookup_insert_ite] at hlink
        by_cases hkey : key = (userId, loginType)
        · rw [hkey]
          exact Option.isSome_iff_exists.mp h
        · rw [if_neg hkey] at hlink
          exact db.userOfLink key linkedId' hlink }
  else none

end Db

/-! ## Callbacks -/

structure GithubUser where
  id : Int64
  login : String
  name : Option String

structure GithubEmail where
  email : String
  primary : Bool
  verified : Bool

/-- The claims of a verified ID token, under the fields that the configuration names. -/
structure OidcClaims where
  sub : String
  email : Option String
  emailVerified : Option Bool
  username : String
  name : Option String

/-- What the provider says of the user who comes back. -/
inductive Callback where
  | github (user : GithubUser) (emails : List GithubEmail)
  | oidc (claims : OidcClaims)

structure GithubOAuthConfig where
  allowSignups : Bool

structure OidcConfig where
  allowSignups : Bool
  ignoreEmailVerified : Bool
  emailDomain : List String

structure Config where
  github : GithubOAuthConfig
  oidc : OidcConfig

inductive AppError where
  | database
  | unavailable (message : String)
  deriving DecidableEq

inductive Reply where
  | login (message : String)
  | session (token : String)
  deriving DecidableEq

/-! ## Calls -/

structure CreateUserInput where
  email : String
  username : String
  name : String
  loginType : LoginType
  status : UserStatus
  organizationIds : List Uuid

inductive StoreCall where
  | findUserByLinkedId (loginType : LoginType) (linkedId : String)
  | findActiveUserByEmailAndLoginType (email : String) (loginType : LoginType)
  | listOrganizations
  | createUser (input : CreateUserInput)
  | upsertUserLink (userId : Uuid) (loginType : LoginType) (linkedId : String)
  | insertAuthSession (tokenHash : List UInt8) (userId : Uuid)

/-- `createUser` answers `none` for `AlreadyExists`. -/
abbrev StoreCall.Response : StoreCall → Type
  | findUserByLinkedId _ _ => Option (Uuid × UserRow)
  | findActiveUserByEmailAndLoginType _ _ => Option (Uuid × UserRow)
  | listOrganizations => List (Uuid × OrganizationRow)
  | createUser _ => Option (Uuid × UserRow)
  | upsertUserLink _ _ _ => Unit
  | insertAuthSession _ _ => Unit

inductive Op where
  | begin (callback : Callback)
  | randomBytes
  | store (call : Nat) (query : StoreCall)

abbrev Op.Response : Op → Type
  | begin _ => Nat
  | randomBytes => Vector UInt8 32
  | store _ query => Except AppError query.Response

/-- What the code does not decide: whether the store call fails, or the row of a new user cannot be
read again; which of several rows a query returns; what the generators draw. -/
structure Choice where
  fails : Bool
  reloads : Bool
  uuid : Uuid
  bytes : Vector UInt8 32

/-! ## The state -/

inductive Event where
  | began (call : Nat) (callback : Callback)
  | foundByLinkedId (call : Nat) (userId : Option Uuid)
  | foundByEmail (call : Nat) (userId : Option Uuid)
  | createRefused (call : Nat)
  | created (call : Nat) (userId : Uuid)
  | linked (call : Nat) (userId : Uuid) (loginType : LoginType) (linkedId : String)
  | issued (call : Nat) (userId : Uuid)

variable (lower : String → String)

/-- What has happened, with the tables as they were then. -/
structure Entry where
  event : Event
  db : Db lower

/-- The newest entry comes first. -/
structure World where
  db : Db lower
  calls : Nat
  log : List (Entry lower)

variable {lower}

namespace World

def start (db : Db lower) : World lower where
  db := db
  calls := 0
  log := []

def note (w : World lower) (event : Event) : World lower :=
  { w with log := ⟨event, w.db⟩ :: w.log }

end World

/-! ## The store -/

/-- The users that join a link. -/
def Db.findUserByLinkedId (db : Db lower) (preferred : Uuid) (loginType : LoginType)
    (linkedId : String) : Option (Uuid × UserRow) :=
  (db.links.selectAny (preferred, loginType) fun key id => key.2 = loginType && id = linkedId).bind
    fun link => (db.users.lookup link.1.1).map fun row => (link.1.1, row)

def Db.findActiveUserByEmail (db : Db lower) (preferred : Uuid) (email : String)
    (loginType : LoginType) : Option (Uuid × UserRow) :=
  db.users.selectAny preferred fun _ row =>
    lower row.email = lower email && row.loginType = loginType && !row.deleted &&
      !row.isSystem && row.status = .active

/-- A call that does not fail. It is `none` where the choice is not a possible one: no two users
are given one id. -/
def perform (call : Nat) (choice : Choice) (w : World lower) :
    (query : StoreCall) → Option (Except AppError query.Response × World lower)
  | .findUserByLinkedId loginType linkedId =>
    let found := w.db.findUserByLinkedId choice.uuid loginType linkedId
    some (.ok found, w.note (.foundByLinkedId call (found.map (·.1))))
  | .findActiveUserByEmailAndLoginType email loginType =>
    let found := w.db.findActiveUserByEmail choice.uuid email loginType
    some (.ok found, w.note (.foundByEmail call (found.map (·.1))))
  | .listOrganizations =>
    some (.ok (w.db.organizations.selectOrdered (fun _ row => !row.deleted) fun row =>
      lower row.name), w)
  | .createUser input =>
    let row : UserRow := {
      email := input.email
      username := input.username
      name := input.name
      loginType := input.loginType
      status := input.status
      deleted := false
      isSystem := false }
    if (w.db.users.lookup choice.uuid).isSome then none
    else if w.db.violatesUnique choice.uuid row then
      some (.ok none, w.note (.createRefused call))
    else if input.organizationIds.all fun id => (w.db.organizations.lookup id).isSome then
      let db :=
        { w.db.putUser choice.uuid row with
          members := input.organizationIds.map (·, choice.uuid) ++ w.db.members }
      let w' := { w with db := db }.note (.created call choice.uuid)
      if choice.reloads then some (.ok (some (choice.uuid, row)), w')
      else some (.error .database, w')
    else some (.error .database, w)
  | .upsertUserLink userId loginType linkedId =>
    match w.db.upsertUserLink? userId loginType linkedId with
    | none => some (.error .database, w)
    | some db =>
      some (.ok (), { w with db := db }.note (.linked call userId loginType linkedId))
  | .insertAuthSession tokenHash userId =>
    if (w.db.users.lookup userId).isNone || (w.db.authSessions.lookup tokenHash).isSome then
      some (.error .database, w)
    else
      let db := { w.db with authSessions := w.db.authSessions.insert tokenHash userId }
      some (.ok (), { w with db := db }.note (.issued call userId))

def exec : (op : Op) → World lower → Choice → Option (op.Response × World lower)
  | .begin callback, w, _ =>
    some (w.calls, { w with calls := w.calls + 1 }.note (.began w.calls callback))
  | .randomBytes, w, choice => some (choice.bytes, w)
  | .store call query, w, choice =>
    if choice.fails then some (.error .database, w) else perform call choice w query

/-! ## The handlers -/

abbrev Handler (α : Type) := Calls Op Op.Response (Except AppError α)

def await (call : Nat) (query : StoreCall) : Handler query.Response :=
  .call (.store call query) .done

/-- The user may sign in. -/
def UserRow.usable (row : UserRow) : Bool :=
  !row.deleted && !row.isSystem && row.status = .active

def findUserByLinkedIdOrEmail (call : Nat) (loginType : LoginType) (linkedId email : String) :
    Handler (Option (Uuid × UserRow)) :=
  (await call (.findUserByLinkedId loginType linkedId)).bindOk fun
    (found : Option (Uuid × UserRow)) =>
    match found.filter (·.2.usable) with
    | some user => .done (.ok (some user))
    | none => await call (.findActiveUserByEmailAndLoginType email loginType)

/-- What the caller of either callback becomes, with the identity that stands behind it. -/
structure Identity where
  loginType : LoginType
  linkedId : String
  email : String
  deriving DecidableEq

/-- The default organization, else the first one. -/
def organizationIdsOf (organizations : List (Uuid × OrganizationRow)) : List Uuid :=
  match organizations.find? (·.2.isDefault) with
  | some organization => [organization.1]
  | none => (organizations.head?.map (·.1)).toList

def createOauthUserAndLink (call : Nat) (who : Identity) (username name : String) :
    Handler (Uuid × UserRow) :=
  (await call .listOrganizations).bindOk fun (organizations : List (Uuid × OrganizationRow)) =>
    let input : CreateUserInput := {
      email := who.email
      username := username
      name := name
      loginType := who.loginType
      status := .active
      organizationIds := organizationIdsOf organizations }
    (await call (.createUser input)).bindOk fun (created : Option (Uuid × UserRow)) =>
      match created with
      | some user =>
        (await call (.upsertUserLink user.1 who.loginType who.linkedId)).bindOk fun _ =>
          .done (.ok user)
      | none =>
        -- another callback has created the user; the lookup is made again
        (findUserByLinkedIdOrEmail call who.loginType who.linkedId who.email).bindOk fun
          | some user => .done (.ok user)
          | none =>
            .done (.error (.unavailable "A user with this email or username already exists."))

def createOauthSession [Sha256] (call : Nat) (user : Uuid × UserRow) : Handler String :=
  .call .randomBytes fun (bytes : Vector UInt8 32) =>
    let sessionToken := newSessionToken bytes
    (await call (.insertAuthSession (Sha256.digest sessionToken) user.1)).bindOk fun _ =>
      .done (.ok sessionToken)

/-- The end of both callbacks, from the lookup of the user on. -/
def signIn [Sha256] (call : Nat) (who : Identity) (username name : String) (allowSignups : Bool)
    (refusal : String) : Handler Reply :=
  let issue := fun user => (createOauthSession call user).bindOk fun token =>
    .done (.ok (.session token))
  (findUserByLinkedIdOrEmail call who.loginType who.linkedId who.email).bindOk fun
    | some user =>
      (await call (.upsertUserLink user.1 who.loginType who.linkedId)).bindOk fun _ => issue user
    | none =>
      if allowSignups then (createOauthUserAndLink call who username name).bindOk issue
      else .done (.ok (.login refusal))

def githubPrimaryEmail (emails : List GithubEmail) : Option GithubEmail :=
  (emails.find? fun e => e.primary && e.verified).or (emails.find? (·.verified))

def githubLinkedId (id : Int64) : String := "gh:" ++ toString id.toInt

def oidcLinkedId (subject : String) : String := "oidc:" ++ subject

/-- The domain is what comes after the last `@`. -/
def oidcCheckEmailDomain (config : OidcConfig) (email : String) : Bool :=
  config.emailDomain.isEmpty || config.emailDomain.any fun allowed =>
    allowed.toList = (email.toList.reverse.takeWhile (· ≠ '@')).reverse

def getGithubOauthCallback [Sha256] (config : GithubOAuthConfig) (call : Nat) (user : GithubUser)
    (emails : List GithubEmail) : Handler Reply :=
  match githubPrimaryEmail emails with
  | none => .done (.ok (.login "Your primary email must be verified on GitHub."))
  | some primary =>
    signIn call ⟨.github, githubLinkedId user.id, primary.email⟩ user.login (user.name.getD "")
      config.allowSignups "Signups are disabled for GitHub OAuth."

def getOidcCallback [Sha256] (config : OidcConfig) (call : Nat) (claims : OidcClaims) :
    Handler Reply :=
  match claims.email with
  | none => .done (.error (.unavailable "No email found in OIDC claims."))
  | some email =>
    if !config.ignoreEmailVerified && claims.emailVerified ≠ some true then
      .done (.ok (.login "Your email address has not been verified by the OIDC provider."))
    else if oidcCheckEmailDomain config email then
      signIn call ⟨.oidc, oidcLinkedId claims.sub, email⟩ claims.username (claims.name.getD "")
        config.allowSignups "Signups are disabled for OIDC."
    else .done (.ok (.login "Your email domain is not allowed."))

def handle [Sha256] (config : Config) (call : Nat) : Callback → Handler Reply
  | .github user emails => getGithubOauthCallback config.github call user emails
  | .oidc claims => getOidcCallback config.oidc call claims

/-- The row of a user is changed from outside: suspended, deleted, given another address. -/
structure UserChange where
  id : Uuid
  row : UserRow

/-- The callbacks, over one store. -/
def callbacks [Sha256] (lower : String → String) (config : Config) :
    Service Op Op.Response (Except AppError Reply) (World lower) Choice Callback UserChange where
  exec := exec
  enter callback := .call (.begin callback) fun (call : Nat) => handle config call callback
  outside w change :=
    if w.db.violatesUnique change.id change.row then w
    else { w with db := w.db.putUser change.id change.row }

/-- After a number of steps, of any callbacks and in any order. -/
def after [Sha256] (config : Config) (db : Db lower)
    (moves : List (Move Callback Choice UserChange)) : World lower :=
  ((callbacks lower config).program.run { shared := .start db, tasks := [] } moves).shared

end Coderd.SingleSignOn
