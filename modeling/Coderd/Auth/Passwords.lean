import Coderd.Auth.Issuing
import Coderd.Auth.SessionCache
import Coderd.Foundation.Except
import Coderd.Foundation.Interleaving
import Coderd.Foundation.Select
import Coderd.Foundation.Sha256
import Coderd.Foundation.Texts
import Coderd.Foundation.Trim
import Coderd.Foundation.Unicode

namespace Coderd.Auth.Passwords

open Coderd.Foundation Coderd.Rbac
open Coderd.CryptoKeys (OffsetDateTime)

/-! ## Hashes -/

/-- `pbkdf2_hmac::<Sha256>`, of 64 bytes. -/
class Pbkdf2 where
  derive (password : String) (salt : List UInt8) (iterations : UInt32) : List UInt8

/-- The text of the `DecodeError` for a text that is no base64. -/
class Base64Refusal where
  text : String → String

inductive PasswordError where
  | validation (message : String)
  | invalidHash (message : String)
  deriving DecidableEq

def PasswordError.display : PasswordError → String
  | validation message => message
  | invalidHash message => "stored password hash is invalid: " ++ message

def hashScheme : String := "pbkdf2-sha256"

def hashIterations : UInt32 := 65535

def saltLength : Nat := 16

/-- `str::parse::<u32>`. -/
def parseU32 (text : String) : Except String UInt32 :=
  let parse cs :=
    (parseDigits 4294967295 "number too large to fit in target type" 0 cs).map UInt32.ofNat
  match text.toList with
  | [] => .error "cannot parse integer from empty string"
  | ['+'] | ['-'] => .error "invalid digit found in string"
  | '+' :: cs => parse cs
  | cs => parse cs

section

variable [Pbkdf2]

def encodePasswordHash (password : String) (salt : List UInt8) (iterations : UInt32) : String :=
  "$" ++ hashScheme ++ "$" ++ toString iterations.toNat ++ "$" ++ Base64.encode salt ++ "$" ++
    Base64.encode (Pbkdf2.derive password salt iterations)

def hashPassword (password : String) (salt : Vector UInt8 saltLength) : String :=
  encodePasswordHash password salt.toList hashIterations

def verifyPassword [Base64Refusal] (storedHash password : String) : Except PasswordError Bool :=
  match (storedHash.toList.splitOn '$').map String.ofList with
  | [first, scheme, iterations, salt, _] =>
    if first ≠ "" then .error (.invalidHash "unexpected hash component count")
    else if scheme ≠ hashScheme then .error (.invalidHash ("unexpected hash scheme: " ++ scheme))
    else
      match parseU32 iterations with
      | .error e => .error (.invalidHash e)
      | .ok iterations =>
        match Base64.decodeChars salt.toList with
        | none => .error (.invalidHash (Base64Refusal.text salt))
        | some salt => .ok (storedHash = encodePasswordHash password salt iterations)
  | _ => .error (.invalidHash "unexpected hash component count")

end

theorem parseU32_toString (n : UInt32) : parseU32 (toString n.toNat) = .ok n := by
  have htext : (toString n.toNat).toList = Nat.toDigits 10 n.toNat := Nat.toList_repr
  have hlt := n.toNat_lt
  have hparse : parseDigits 4294967295 "number too large to fit in target type" 0
      (Nat.toDigits 10 n.toNat) = .ok n.toNat := parseDigits_toDigits (by omega)
  have hdigit : ∀ c ∈ Nat.toDigits 10 n.toNat, c.isDigit = true := fun c hc =>
    Nat.isDigit_of_mem_toDigits (by decide) (by decide) hc
  rw [parseU32, htext]
  cases hdigits : Nat.toDigits 10 n.toNat with
  | nil => exact absurd hdigits Nat.toDigits_ne_nil
  | cons c cs =>
    have hc : c.isDigit = true := hdigit c (hdigits ▸ List.mem_cons_self)
    have hplus : c ≠ '+' := by
      rintro rfl
      cases hc
    have hminus : c ≠ '-' := by
      rintro rfl
      cases hc
    rw [hdigits] at hparse
    have hof : UInt32.ofNat n.toNat = n := UInt32.ofNat_toNat
    simp [hparse, hplus, hminus, Except.map, hof]

theorem notMem_encodeChars (bytes : List UInt8) : '$' ∉ Base64.encodeChars bytes := by
  intro h
  have hmem := Base64.mem_alphabet_of_mem_encodeChars h
  revert hmem
  decide

theorem encode_injective : Function.Injective Base64.encode := by
  intro a b hab
  have hchars : Base64.encodeChars a = Base64.encodeChars b := String.ofList_injective hab
  have hdecode := congrArg Base64.decodeChars hchars
  rw [Base64.decodeChars_encodeChars, Base64.decodeChars_encodeChars] at hdecode
  exact Option.some.inj hdecode

section

variable [Pbkdf2] [Base64Refusal]

omit [Base64Refusal] in
theorem splitOn_encodePasswordHash (password : String) (salt : List UInt8) (iterations : UInt32) :
    (encodePasswordHash password salt iterations).toList.splitOn '$' =
      [[], hashScheme.toList, (toString iterations.toNat).toList, Base64.encodeChars salt,
        Base64.encodeChars (Pbkdf2.derive password salt iterations)] := by
  have htext : (encodePasswordHash password salt iterations).toList = ['$'].intercalate
      [[], hashScheme.toList, (toString iterations.toNat).toList, Base64.encodeChars salt,
        Base64.encodeChars (Pbkdf2.derive password salt iterations)] := by
    simp [encodePasswordHash, List.intercalate, Base64.encode]
  rw [htext]
  refine List.splitOn_intercalate '$' ?_ (List.cons_ne_nil _ _)
  have hiterations : '$' ∉ Nat.toDigits 10 iterations.toNat := fun h => by
    have hdigit := Nat.isDigit_of_mem_toDigits (by decide) (by decide) h
    cases hdigit
  have hscheme : '$' ∉ hashScheme.toList := by decide
  simp [hiterations, hscheme, notMem_encodeChars]

/-- Whatever is hashed under whatever salt, another password passes for it exactly if the same key
is derived from it. -/
theorem verifyPassword_encodePasswordHash (password other : String) (salt : List UInt8)
    (iterations : UInt32) :
    verifyPassword (encodePasswordHash password salt iterations) other =
      .ok (Pbkdf2.derive password salt iterations = Pbkdf2.derive other salt iterations) := by
  rw [verifyPassword, splitOn_encodePasswordHash]
  simp only [List.map_cons, List.map_nil, String.ofList_toList]
  rw [parseU32_toString]
  simp only [String.ofList_nil, ne_eq, not_true_eq_false, if_false, String.toList_ofList,
    Base64.decodeChars_encodeChars]
  congr 2
  rw [encodePasswordHash, encodePasswordHash, eq_iff_iff, String.append_right_inj]
  exact encode_injective.eq_iff

end

/-! ## Validation -/

structure ValidationError where
  field : String
  detail : String
  deriving DecidableEq

/-- `str::trim`. -/
def trim (text : String) : String := String.ofList (trimBy isWhiteSpace text.toList)

def validateEmail (email : String) : Except PasswordError Unit :=
  let trimmed := (trim email).toList
  let parts := trimmed.splitOn '@'
  let localPart := parts.head?.getD []
  let domain := parts[1]?.getD []
  if trimmed.isEmpty || localPart.isEmpty || domain.isEmpty || parts[2]?.isSome ||
      !domain.contains '.' then
    .error (.validation "must be a valid email")
  else .ok ()

def validatePassword (password : String) : Except PasswordError Unit :=
  let length := password.toList.length
  if length = 0 then .error (.validation "must be >= 1 character")
  else if length > 64 then
    .error (.validation "password must be no more than 64 characters")
  else if length < 8 then .error (.validation "password must be at least 8 characters")
  else .ok ()

/-- What `push_validation` adds for a field. -/
def validation (field : String) : Except PasswordError Unit → List ValidationError
  | .ok () => []
  | .error error => [{ field, detail := error.display }]

/-! ## Rows -/

inductive StorageError where
  | unavailable (message : String)
  | notFound (message : String)
  | invalidData (message : String)
  deriving DecidableEq

inductive AuthServiceError where
  | storage (error : StorageError)
  | unauthorized (message : String)
  | notFound (message : String)
  | badRequest (message : String)
  | validation (message : String) (validations : List ValidationError)
  deriving DecidableEq

/-- The columns of a row of `users` that only these calls use. -/
structure Credentials where
  email : String
  hashedPassword : List UInt8
  hashedOneTimePasscode : List UInt8
  oneTimePasscodeExpiresAt : Option OffsetDateTime

structure PasswordUserRecord where
  user : UserRecord
  passwordHash : String
  oneTimePasscodeHash : Option String
  oneTimePasscodeExpiresAt : Option OffsetDateTime

/-- The database, the session cache and the wall clock. -/
structure World where
  store : Store
  credentials : HashMap Uuid Credentials
  cache : SessionCache
  now : OffsetDateTime

/-- `LOWER`, of the database. -/
class Collation where
  lower : String → String

def passwordRecordFromRow [Utf8Refusal] (user : UserRecord) (row : Credentials) :
    Except StorageError PasswordUserRecord :=
  match fromUtf8 row.hashedPassword with
  | none =>
    .error (.invalidData ("users.hashed_password must be valid UTF-8: " ++
      Utf8Refusal.text row.hashedPassword))
  | some passwordHash =>
    if row.hashedOneTimePasscode.isEmpty then
      .ok { user, passwordHash, oneTimePasscodeHash := none,
            oneTimePasscodeExpiresAt := row.oneTimePasscodeExpiresAt }
    else
      match fromUtf8 row.hashedOneTimePasscode with
      | none =>
        .error (.invalidData ("users.hashed_one_time_passcode must be valid UTF-8: " ++
          Utf8Refusal.text row.hashedOneTimePasscode))
      | some passcodeHash =>
        .ok { user, passwordHash, oneTimePasscodeHash := some passcodeHash,
              oneTimePasscodeExpiresAt := row.oneTimePasscodeExpiresAt }

namespace World

variable (w : World)

section

variable [Utf8Refusal]

def findPasswordUserById (userId : Uuid) : Except StorageError (Option PasswordUserRecord) :=
  match w.store.findUserById userId, w.credentials.lookup userId with
  | some user, some row => (passwordRecordFromRow user row).map some
  | _, _ => .ok none

variable [Collation]

/-- No two users that are not deleted have the same address. -/
def findPasswordUserByEmail (email : String) : Except StorageError (Option PasswordUserRecord) :=
  match w.credentials.selectFirst fun userId row =>
      Collation.lower row.email = Collation.lower email && (w.store.findUserById userId).isSome with
  | some (userId, _) => w.findPasswordUserById userId
  | none => .ok none

end

/-- The clause of the `UPDATE` that stores a passcode. -/
def receivesPasscode [Collation] (email : String) (userId : Uuid) (row : Credentials) : Bool :=
  Collation.lower row.email = Collation.lower email &&
    match w.store.findUserById userId with
    | some user => user.loginType = .password
    | none => false

def storeOneTimePasscodeByEmail [Collation] (email passcodeHash : String)
    (expiresAt : OffsetDateTime) : World :=
  { w with
    credentials := w.credentials.mapValues fun userId row =>
      if w.receivesPasscode email userId row then
        { row with
          hashedOneTimePasscode := utf8Bytes passcodeHash
          oneTimePasscodeExpiresAt := some expiresAt }
      else row }

/-- One transaction, which also takes away the user's sessions and keys. -/
def replaceUserPassword (userId : Uuid) (passwordHash : String) (clearOneTimePasscode : Bool) :
    World × Bool :=
  match w.store.replaceUserPassword userId with
  | (store, false) => ({ w with store }, false)
  | (store, true) =>
    ({ w with
        store
        credentials := w.credentials.mapValues fun id row =>
          if id = userId then
            { row with
              hashedPassword := utf8Bytes passwordHash
              hashedOneTimePasscode :=
                if clearOneTimePasscode then [] else row.hashedOneTimePasscode
              oneTimePasscodeExpiresAt :=
                if clearOneTimePasscode then none else row.oneTimePasscodeExpiresAt }
          else row }, true)

/-- `none` where a constraint of the table refuses the row. -/
def insertAuthSession (tokenHash : List UInt8) (userId : Uuid) : Option World :=
  if (w.store.users.lookup userId).isNone || (w.store.authSessions.lookup tokenHash).isSome then
    none
  else
    some { w with
      store := { w.store with authSessions := w.store.authSessions.insert tokenHash userId } }

end World

/-! ## The calls, step by step -/

/-- What the code does not decide: whether the store call fails, the error of one that a constraint
refuses, and what the generators draw. -/
structure Choice where
  fails : Option StorageError
  refusal : StorageError
  salt : Vector UInt8 saltLength
  passcode : Uuid
  token : Vector UInt8 sessionTokenLength

def invalidData (error : PasswordError) : AuthServiceError := .storage (.invalidData error.display)

def oneTimePasscodeValiditySecs : Int := 60 * 30

inductive RequestPhase where
  | drawing
  | storing (passcodeHash : String) (expiresAt : OffsetDateTime)
  | finished (result : Except AuthServiceError Unit)

/-- `request_one_time_passcode`. -/
structure PasscodeRequest where
  email : String
  phase : RequestPhase

structure ChangePasswordWithOneTimePasscodeRequest where
  email : String
  password : String
  oneTimePasscode : String

inductive ResetPhase where
  | finding
  | checking (found : Option PasswordUserRecord)
  | replacing (userId : Uuid) (passwordHash : String)
  | evicting (userId : Uuid)
  | finished (result : Except AuthServiceError Uuid)

/-- `change_password_with_one_time_passcode`. -/
structure Reset where
  request : ChangePasswordWithOneTimePasscodeRequest
  phase : ResetPhase

structure UpdateUserPasswordRequest where
  oldPassword : String
  password : String

inductive UpdatePhase where
  | resolving
  | finding (targetUser : UserRecord)
  | replacing (userId : Uuid) (passwordHash : String)
  | evicting (userId : Uuid)
  | finished (result : Except AuthServiceError Uuid)

/-- `update_user_password`. -/
structure Update where
  actor : Actor
  authenticatedUser : Uuid
  requestedUser : String
  request : UpdateUserPasswordRequest
  phase : UpdatePhase

structure LoginWithPasswordRequest where
  email : String
  password : String

inductive LoginPhase where
  | finding
  | inserting (user : UserRecord) (sessionToken : String)
  | finished (result : Except AuthServiceError (AuthenticatedUser × String))

/-- `login_with_password`. -/
structure Login where
  request : LoginWithPasswordRequest
  phase : LoginPhase

section

variable [Pbkdf2] [Base64Refusal] [Utf8Refusal] [Collation] [UuidText] [Sha256]

def PasscodeRequest.advance (w : World) (q : PasscodeRequest) (choice : Choice) :
    Option (World × PasscodeRequest) :=
  let finish result := some (w, { q with phase := .finished result })
  match q.phase with
  | .drawing =>
    let validations := validation "email" (validateEmail q.email)
    if validations ≠ [] then
      finish (.error (.validation "Request body has invalid fields." validations))
    else
      match w.now.add (oneTimePasscodeValiditySecs * 10 ^ 9) with
      | none => finish (.error (.storage (.invalidData "invalid OTP expiry")))
      | some expiresAt =>
        let passcodeHash := hashPassword (UuidText.display choice.passcode) choice.salt
        some (w, { q with phase := .storing passcodeHash expiresAt })
  | .storing passcodeHash expiresAt =>
    match choice.fails with
    | some e => finish (.error (.storage e))
    | none =>
      some (w.storeOneTimePasscodeByEmail (trim q.email) passcodeHash expiresAt,
        { q with phase := .finished (.ok ()) })
  | .finished _ => none

def ChangePasswordWithOneTimePasscodeRequest.validations
    (request : ChangePasswordWithOneTimePasscodeRequest) : List ValidationError :=
  validation "email" (validateEmail request.email) ++
    validation "password" (validatePassword request.password) ++
    if trim request.oneTimePasscode = "" then
      [{ field := "one_time_passcode", detail := "must be >= 1 character" }]
    else []

/-- `verify_password`, with the error that the service makes of a hash that cannot be read. -/
def verify (storedHash password : String) : Except AuthServiceError Bool :=
  (verifyPassword storedHash password).mapError invalidData

def passcodeMatches (user : PasswordUserRecord) (oneTimePasscode : String) (now : OffsetDateTime) :
    Except AuthServiceError Bool :=
  match user.oneTimePasscodeHash, user.oneTimePasscodeExpiresAt with
  | some storedHash, some expiresAt =>
    if expiresAt > now then verify storedHash oneTimePasscode else .ok false
  | _, _ => .ok false

/-- What is checked of the row that was read. -/
def checkReset (request : ChangePasswordWithOneTimePasscodeRequest)
    (found : Option PasswordUserRecord) (now : OffsetDateTime) : Except AuthServiceError Uuid :=
  match found with
  | none => .error (.badRequest "Incorrect email or one-time passcode.")
  | some user => do
    if ← passcodeMatches user request.oneTimePasscode now then
      if ← verify user.passwordHash request.password then
        .error (.badRequest "New password cannot match old password.")
      else .ok user.user.id
    else .error (.badRequest "Incorrect email or one-time passcode.")

/-- Time goes by between the query and the checks. -/
def Reset.advance (w : World) (r : Reset) (choice : Choice) : Option (World × Reset) :=
  let finish result := some (w, { r with phase := .finished result })
  match r.phase with
  | .finding =>
    if r.request.validations ≠ [] then
      finish (.error (.validation "Request body has invalid fields." r.request.validations))
    else
      match choice.fails with
      | some e => finish (.error (.storage e))
      | none =>
        match w.findPasswordUserByEmail (trim r.request.email) with
        | .error e => finish (.error (.storage e))
        | .ok found => some (w, { r with phase := .checking found })
  | .checking found =>
    match checkReset r.request found w.now with
    | .error e => finish (.error e)
    | .ok userId =>
      some (w, { r with phase := .replacing userId (hashPassword r.request.password choice.salt) })
  | .replacing userId passwordHash =>
    match choice.fails with
    | some e => finish (.error (.storage e))
    | none =>
      match w.replaceUserPassword userId passwordHash true with
      | (w, true) => some (w, { r with phase := .evicting userId })
      | (w, false) =>
        some (w, { r with phase := .finished (.error (.notFound "User not found.")) })
  | .evicting userId =>
    some ({ w with cache := w.cache.evictUser userId },
      { r with phase := .finished (.ok userId) })
  | .finished _ => none

def checkTarget (actor : Actor) (targetUser : Option UserRecord) :
    Except AuthServiceError UserRecord :=
  match targetUser with
  | none => .error (.notFound "User not found.")
  | some user =>
    if !canAccessUser actor user.id then .error (.notFound "User not found.")
    else if user.loginType ≠ .password then
      .error (.badRequest "Users without password login type cannot change their password.")
    else .ok user

def oldPasswordMatches (user : PasswordUserRecord) (oldPassword : String) :
    Except AuthServiceError Bool :=
  if oldPassword = "" then .ok true else verify user.passwordHash oldPassword

/-- The old password has to be named by the user itself, and has to be right where it is. -/
def checkUpdate (authenticatedUser targetUser : Uuid) (request : UpdateUserPasswordRequest)
    (found : Option PasswordUserRecord) : Except AuthServiceError Unit :=
  match found with
  | none => .error (.notFound "User not found.")
  | some user =>
    if authenticatedUser = targetUser ∧ request.oldPassword = "" then
      .error (.badRequest "Old password is required.")
    else
      match validatePassword request.password with
      | .error e =>
        .error (.validation "Invalid password." [{ field := "password", detail := e.display }])
      | .ok () => do
        if ← oldPasswordMatches user request.oldPassword then
          if ← verify user.passwordHash request.password then
            .error (.badRequest "New password cannot match old password.")
          else .ok ()
        else
          .error (.validation "Old password is incorrect."
            [{ field := "old_password", detail := "Old password is incorrect." }])

def Update.advance (w : World) (u : Update) (choice : Choice) : Option (World × Update) :=
  let finish result := some (w, { u with phase := .finished result })
  match u.phase, choice.fails with
  | .resolving, some e | .finding _, some e | .replacing _ _, some e =>
    finish (.error (.storage e))
  | .resolving, none =>
    match checkTarget u.actor (w.store.resolveUser u.requestedUser u.authenticatedUser) with
    | .error e => finish (.error e)
    | .ok targetUser => some (w, { u with phase := .finding targetUser })
  | .finding targetUser, none =>
    match w.findPasswordUserById targetUser.id with
    | .error e => finish (.error (.storage e))
    | .ok found =>
      match checkUpdate u.authenticatedUser targetUser.id u.request found with
      | .error e => finish (.error e)
      | .ok () =>
        let passwordHash := hashPassword u.request.password choice.salt
        some (w, { u with phase := .replacing targetUser.id passwordHash })
  | .replacing userId passwordHash, none =>
    match w.replaceUserPassword userId passwordHash false with
    | (w, true) => some (w, { u with phase := .evicting userId })
    | (w, false) =>
      some (w, { u with phase := .finished (.error (.notFound "User not found.")) })
  | .evicting userId, _ =>
    some ({ w with cache := w.cache.evictUser userId },
      { u with phase := .finished (.ok userId) })
  | .finished _, _ => none

def checkLogin (request : LoginWithPasswordRequest) (found : Option PasswordUserRecord) :
    Except AuthServiceError UserRecord :=
  match found with
  | none => .error (.unauthorized "Incorrect email or password.")
  | some user =>
    if user.user.isSystem ∨ user.user.loginType ≠ .password ∨ user.user.status ≠ .active then
      .error (.unauthorized "Incorrect email or password.")
    else do
      if ← verify user.passwordHash request.password then .ok user.user
      else .error (.unauthorized "Incorrect email or password.")

def Login.advance (w : World) (l : Login) (choice : Choice) : Option (World × Login) :=
  let finish result := some (w, { l with phase := .finished result })
  match l.phase, choice.fails with
  | .finding, some e | .inserting _ _, some e => finish (.error (.storage e))
  | .finding, none =>
    match w.findPasswordUserByEmail (trim l.request.email) with
    | .error e => finish (.error (.storage e))
    | .ok found =>
      match checkLogin l.request found with
      | .error e => finish (.error e)
      | .ok user => some (w, { l with phase := .inserting user (newSessionToken choice.token) })
  | .inserting user sessionToken, none =>
    match w.insertAuthSession (Sha256.digest sessionToken) user.id with
    | none => finish (.error (.storage choice.refusal))
    | some w =>
      some (w, { l with phase := .finished (.ok (AuthenticatedUser.ofRecord user, sessionToken)) })
  | .finished _, _ => none

/-! ## The service -/

inductive Task where
  | requestPasscode (q : PasscodeRequest)
  | reset (r : Reset)
  | update (u : Update)
  | login (l : Login)

inductive Op where
  | requestPasscode (email : String)
  | reset (request : ChangePasswordWithOneTimePasscodeRequest)
  | update (actor : Actor) (authenticatedUser : Uuid) (requestedUser : String)
      (request : UpdateUserPasswordRequest)
  | login (request : LoginWithPasswordRequest)

def Task.enter : Op → Task
  | .requestPasscode email => .requestPasscode { email, phase := .drawing }
  | .reset request => .reset { request, phase := .finding }
  | .update actor authenticatedUser requestedUser request =>
    .update { actor, authenticatedUser, requestedUser, request, phase := .resolving }
  | .login request => .login { request, phase := .finding }

def Task.advance (w : World) (t : Task) (choice : Choice) : Option (World × Task) :=
  match t with
  | .requestPasscode q => (q.advance w choice).map fun (w, q) => (w, .requestPasscode q)
  | .reset r => (r.advance w choice).map fun (w, r) => (w, .reset r)
  | .update u => (u.advance w choice).map fun (w, u) => (w, .update u)
  | .login l => (l.advance w choice).map fun (w, l) => (w, .login l)

/-- What the rest of the server does to these tables: everything but writing the password or the
passcode of a user that is there. -/
inductive Event where
  | setClock (now : OffsetDateTime)
  | insertUser (userId : Uuid) (row : UserRow) (email : String) (hashedPassword : List UInt8)
  | updateUser (userId : Uuid) (row : UserRow) (email : String)
  | setMemberships (memberships : List OrganizationMemberRecord)
  | insertAuthSession (tokenHash : List UInt8) (userId : Uuid)
  | deleteAuthSession (tokenHash : List UInt8)
  | createApiKey (key : ApiKeyRecord)
  | deleteApiKey (id : String)
  | cacheSession (tokenHash : List UInt8) (user : AuthenticatedUser) (count : UInt64) (clock : Nat)

def World.outside (w : World) : Event → World
  | .setClock now => { w with now }
  | .insertUser userId row email hashedPassword =>
    match w.credentials.lookup userId with
    | some _ => w
    | none =>
      { w with
        store := { w.store with users := w.store.users.insert userId row }
        credentials := w.credentials.insert userId
          { email, hashedPassword, hashedOneTimePasscode := [], oneTimePasscodeExpiresAt := none } }
  | .updateUser userId row email =>
    { w with
      store := { w.store with
        users := w.store.users.mapValues fun id row' => if id = userId then row else row' }
      credentials := w.credentials.mapValues fun id row =>
        if id = userId then { row with email } else row }
  | .setMemberships memberships => { w with store := { w.store with memberships } }
  | .insertAuthSession tokenHash userId => (w.insertAuthSession tokenHash userId).getD w
  | .deleteAuthSession tokenHash => { w with store := w.store.deleteAuthSession tokenHash }
  | .createApiKey key =>
    match w.store.createApiKey key with
    | some store => { w with store }
    | none => w
  | .deleteApiKey id =>
    { w with store := { w.store with apiKeys := w.store.apiKeys.erase id } }
  | .cacheSession tokenHash user count clock =>
    { w with cache := w.cache.insertCounted tokenHash user count clock }

def program : Program World Task Op Choice Event where
  enter := Task.enter
  advance := Task.advance
  outside := World.outside

end

abbrev PasswordMove := Move Op Choice Event

/-- A server on empty tables. -/
def start (ttl : CryptoKeys.Duration) : Pool World Task where
  shared :=
    { store := { users := ∅, memberships := [], apiKeys := ∅, authSessions := ∅ }
      credentials := ∅
      cache := .new ttl
      now := .unixEpoch }
  tasks := []

/-! ## What the rows say -/

section

variable [Utf8Refusal]

theorem passwordRecordFromRow_eq_ok {user : UserRecord} {row : Credentials}
    {record : PasswordUserRecord} (h : passwordRecordFromRow user row = .ok record) :
    record.user = user ∧ fromUtf8 row.hashedPassword = some record.passwordHash ∧
      record.oneTimePasscodeExpiresAt = row.oneTimePasscodeExpiresAt ∧
      ∀ hash, record.oneTimePasscodeHash = some hash →
        row.hashedOneTimePasscode ≠ [] ∧ fromUtf8 row.hashedOneTimePasscode = some hash := by
  unfold passwordRecordFromRow at h
  split at h
  · cases h
  next passwordHash hpassword =>
    split at h
    next hempty =>
      cases h
      exact ⟨rfl, hpassword, rfl, fun hash hnone => by cases hnone⟩
    next hsome =>
      split at h
      · cases h
      next passcodeHash hpasscode =>
        cases h
        refine ⟨rfl, hpassword, rfl, fun hash hhash => ?_⟩
        cases hhash
        exact ⟨fun hnil => hsome (by rw [hnil]; rfl), hpasscode⟩

variable {w : World}

theorem findPasswordUserById_eq_ok {userId : Uuid} {record : PasswordUserRecord}
    (h : w.findPasswordUserById userId = .ok (some record)) :
    record.user.id = userId ∧ ∃ row, w.credentials.lookup userId = some row ∧
      passwordRecordFromRow record.user row = .ok record := by
  unfold World.findPasswordUserById at h
  split at h
  next user row huser hrow =>
    cases hrecord : passwordRecordFromRow user row with
    | error e =>
      rw [hrecord] at h
      cases h
    | ok found =>
      rw [hrecord] at h
      cases h
      obtain ⟨hsame, -⟩ := passwordRecordFromRow_eq_ok hrecord
      rw [hsame]
      exact ⟨Store.findUserById_id huser, row, hrow, hrecord⟩
  · cases h

theorem findPasswordUserByEmail_eq_ok [Collation] {email : String} {record : PasswordUserRecord}
    (h : w.findPasswordUserByEmail email = .ok (some record)) :
    w.findPasswordUserById record.user.id = .ok (some record) := by
  unfold World.findPasswordUserByEmail at h
  split at h
  next userId row hselect =>
    obtain ⟨hid, -⟩ := findPasswordUserById_eq_ok h
    rw [hid]
    exact h
  · cases h

end

/-! ## What the checks let through -/

section

variable [Pbkdf2] [Base64Refusal]

theorem verify_eq_ok {storedHash password : String} {matched : Bool}
    (h : verify storedHash password = .ok matched) :
    verifyPassword storedHash password = .ok matched := by
  unfold verify at h
  cases hverify : verifyPassword storedHash password with
  | error e =>
    rw [hverify] at h
    cases h
  | ok b =>
    rw [hverify] at h
    cases h
    rfl

theorem passcodeMatches_eq_ok_true {user : PasswordUserRecord} {passcode : String}
    {now : OffsetDateTime} (h : passcodeMatches user passcode now = .ok true) :
    ∃ hash expiresAt, user.oneTimePasscodeHash = some hash ∧
      user.oneTimePasscodeExpiresAt = some expiresAt ∧ now < expiresAt ∧
      verifyPassword hash passcode = .ok true := by
  unfold passcodeMatches at h
  split at h
  next hash expiresAt hhash hexpires =>
    split at h
    next hlater => exact ⟨hash, expiresAt, hhash, hexpires, hlater, verify_eq_ok h⟩
    · cases h
  · cases h

theorem checkReset_eq_ok {request : ChangePasswordWithOneTimePasscodeRequest}
    {found : Option PasswordUserRecord} {now : OffsetDateTime} {userId : Uuid}
    (h : checkReset request found now = .ok userId) :
    ∃ user, found = some user ∧ user.user.id = userId ∧
      passcodeMatches user request.oneTimePasscode now = .ok true ∧
      verifyPassword user.passwordHash request.password = .ok false := by
  cases found with
  | none => cases h
  | some user =>
    obtain ⟨passes, hpasses, h⟩ := Except.bind_eq_ok_iff.mp h
    cases passes with
    | false => cases h
    | true =>
      obtain ⟨same, hsame, h⟩ := Except.bind_eq_ok_iff.mp h
      cases same with
      | true => cases h
      | false =>
        cases h
        exact ⟨user, rfl, rfl, hpasses, verify_eq_ok hsame⟩

theorem checkLogin_eq_ok {request : LoginWithPasswordRequest} {found : Option PasswordUserRecord}
    {user : UserRecord} (h : checkLogin request found = .ok user) :
    ∃ record, found = some record ∧ record.user = user ∧
      verifyPassword record.passwordHash request.password = .ok true := by
  cases found with
  | none => cases h
  | some record =>
    rw [checkLogin] at h
    split at h
    · cases h
    · obtain ⟨passes, hpasses, h⟩ := Except.bind_eq_ok_iff.mp h
      cases passes with
      | false => cases h
      | true =>
        cases h
        exact ⟨record, rfl, rfl, verify_eq_ok hpasses⟩

/-- Nobody's password is replaced by its user without the old one, and no old one that is named is
wrong. -/
theorem checkUpdate_eq_ok {authenticatedUser targetUser : Uuid}
    {request : UpdateUserPasswordRequest} {found : Option PasswordUserRecord}
    (h : checkUpdate authenticatedUser targetUser request found = .ok ()) :
    ∃ record, found = some record ∧
      (authenticatedUser = targetUser → request.oldPassword ≠ "") ∧
      (request.oldPassword ≠ "" →
        verifyPassword record.passwordHash request.oldPassword = .ok true) ∧
      validatePassword request.password = .ok () ∧
      verifyPassword record.passwordHash request.password = .ok false := by
  cases found with
  | none => cases h
  | some record =>
    rw [checkUpdate] at h
    split at h
    · cases h
    next hrequired =>
      split at h
      · cases h
      next hvalid =>
        obtain ⟨oldMatches, hold, h⟩ := Except.bind_eq_ok_iff.mp h
        cases oldMatches with
        | false => cases h
        | true =>
          obtain ⟨same, hsame, h⟩ := Except.bind_eq_ok_iff.mp h
          cases same with
          | true => cases h
          | false =>
            refine ⟨record, rfl, fun howner hempty => hrequired ⟨howner, hempty⟩, fun hnamed => ?_,
              hvalid, verify_eq_ok hsame⟩
            rw [oldPasswordMatches, if_neg hnamed] at hold
            exact verify_eq_ok hold

end

/-! ## What a step does -/

section

variable [Pbkdf2] [Base64Refusal] [Utf8Refusal] [Collation] [UuidText] [Sha256]
  {w w' : World} {choice : Choice}

inductive PasscodeRequest.Advances (w : World) (choice : Choice) (email : String) :
    RequestPhase → World → RequestPhase → Prop where
  | refuse (e : AuthServiceError) : Advances w choice email .drawing w (.finished (.error e))
  | draw {expiresAt : OffsetDateTime}
      (hexpires : w.now.add (oneTimePasscodeValiditySecs * 10 ^ 9) = some expiresAt) :
    Advances w choice email .drawing w
      (.storing (hashPassword (UuidText.display choice.passcode) choice.salt) expiresAt)
  | fail {hash : String} {expiresAt : OffsetDateTime} {e : StorageError}
      (hfails : choice.fails = some e) :
    Advances w choice email (.storing hash expiresAt) w (.finished (.error (.storage e)))
  | store {hash : String} {expiresAt : OffsetDateTime} (hfails : choice.fails = none) :
    Advances w choice email (.storing hash expiresAt)
      (w.storeOneTimePasscodeByEmail (trim email) hash expiresAt) (.finished (.ok ()))

omit [Base64Refusal] [Utf8Refusal] [Sha256] in
theorem PasscodeRequest.advances_of_advance {q q' : PasscodeRequest}
    (h : q.advance w choice = some (w', q')) :
    Advances w choice q.email q.phase w' q'.phase ∧ q'.email = q.email := by
  unfold PasscodeRequest.advance at h
  cases hphase : q.phase with
  | drawing =>
    simp only [hphase] at h
    split at h
    · cases h
      exact ⟨.refuse _, rfl⟩
    · split at h
      · cases h
        exact ⟨.refuse _, rfl⟩
      next expiresAt hexpires =>
        cases h
        exact ⟨.draw hexpires, rfl⟩
  | storing hash expiresAt =>
    simp only [hphase] at h
    split at h
    next e hfails =>
      cases h
      exact ⟨.fail hfails, rfl⟩
    next hfails =>
      cases h
      exact ⟨.store hfails, rfl⟩
  | finished result =>
    simp only [hphase] at h
    cases h

inductive Reset.Advances (w : World) (choice : Choice)
    (request : ChangePasswordWithOneTimePasscodeRequest) :
    ResetPhase → World → ResetPhase → Prop where
  | refuse (e : AuthServiceError) : Advances w choice request .finding w (.finished (.error e))
  | find {found : Option PasswordUserRecord} (hvalid : request.validations = [])
      (hfails : choice.fails = none)
      (hfound : w.findPasswordUserByEmail (trim request.email) = .ok found) :
    Advances w choice request .finding w (.checking found)
  | reject {found : Option PasswordUserRecord} (e : AuthServiceError) :
    Advances w choice request (.checking found) w (.finished (.error e))
  | check {found : Option PasswordUserRecord} {userId : Uuid}
      (hchecked : checkReset request found w.now = .ok userId) :
    Advances w choice request (.checking found) w
      (.replacing userId (hashPassword request.password choice.salt))
  | fail {userId : Uuid} {hash : String} {e : StorageError} (hfails : choice.fails = some e) :
    Advances w choice request (.replacing userId hash) w (.finished (.error (.storage e)))
  | replace {userId : Uuid} {hash : String} {w' : World} (hfails : choice.fails = none)
      (hreplaced : w.replaceUserPassword userId hash true = (w', true)) :
    Advances w choice request (.replacing userId hash) w' (.evicting userId)
  | vanish {userId : Uuid} {hash : String} {w' : World} (hfails : choice.fails = none)
      (hreplaced : w.replaceUserPassword userId hash true = (w', false)) :
    Advances w choice request (.replacing userId hash) w'
      (.finished (.error (.notFound "User not found.")))
  | evict {userId : Uuid} :
    Advances w choice request (.evicting userId) { w with cache := w.cache.evictUser userId }
      (.finished (.ok userId))

omit [UuidText] [Sha256] in
theorem Reset.advances_of_advance {r r' : Reset} (h : r.advance w choice = some (w', r')) :
    Advances w choice r.request r.phase w' r'.phase ∧ r'.request = r.request := by
  unfold Reset.advance at h
  cases hphase : r.phase with
  | finding =>
    simp only [hphase] at h
    split at h
    · cases h
      exact ⟨.refuse _, rfl⟩
    next hvalid =>
      split at h
      · cases h
        exact ⟨.refuse _, rfl⟩
      next hfails =>
        split at h
        · cases h
          exact ⟨.refuse _, rfl⟩
        next found hfound =>
          cases h
          exact ⟨.find (not_not.mp hvalid) hfails hfound, rfl⟩
  | checking found =>
    simp only [hphase] at h
    split at h
    · cases h
      exact ⟨.reject _, rfl⟩
    next userId hchecked =>
      cases h
      exact ⟨.check hchecked, rfl⟩
  | replacing userId hash =>
    simp only [hphase] at h
    split at h
    next e hfails =>
      cases h
      exact ⟨.fail hfails, rfl⟩
    next hfails =>
      split at h
      next w₁ hreplaced =>
        cases h
        exact ⟨.replace hfails hreplaced, rfl⟩
      next w₁ hreplaced =>
        cases h
        exact ⟨.vanish hfails hreplaced, rfl⟩
  | evicting userId =>
    simp only [hphase] at h
    cases h
    exact ⟨.evict, rfl⟩
  | finished result =>
    simp only [hphase] at h
    cases h

inductive Update.Advances (w : World) (choice : Choice) (u : Update) :
    UpdatePhase → World → UpdatePhase → Prop where
  | refuse (e : AuthServiceError) {phase : UpdatePhase}
      (hphase : phase = .resolving ∨ ∃ targetUser, phase = .finding targetUser) :
    Advances w choice u phase w (.finished (.error e))
  | resolve {targetUser : UserRecord} (hfails : choice.fails = none)
      (hresolved : checkTarget u.actor
        (w.store.resolveUser u.requestedUser u.authenticatedUser) = .ok targetUser) :
    Advances w choice u .resolving w (.finding targetUser)
  | find {targetUser : UserRecord} {found : Option PasswordUserRecord}
      (hfails : choice.fails = none)
      (hfound : w.findPasswordUserById targetUser.id = .ok found)
      (hchecked : checkUpdate u.authenticatedUser targetUser.id u.request found = .ok ()) :
    Advances w choice u (.finding targetUser) w
      (.replacing targetUser.id (hashPassword u.request.password choice.salt))
  | fail {userId : Uuid} {hash : String} {e : StorageError} (hfails : choice.fails = some e) :
    Advances w choice u (.replacing userId hash) w (.finished (.error (.storage e)))
  | replace {userId : Uuid} {hash : String} {w' : World} (hfails : choice.fails = none)
      (hreplaced : w.replaceUserPassword userId hash false = (w', true)) :
    Advances w choice u (.replacing userId hash) w' (.evicting userId)
  | vanish {userId : Uuid} {hash : String} {w' : World} (hfails : choice.fails = none)
      (hreplaced : w.replaceUserPassword userId hash false = (w', false)) :
    Advances w choice u (.replacing userId hash) w'
      (.finished (.error (.notFound "User not found.")))
  | evict {userId : Uuid} :
    Advances w choice u (.evicting userId) { w with cache := w.cache.evictUser userId }
      (.finished (.ok userId))

omit [Collation] [Sha256] in
theorem Update.advances_of_advance {u u' : Update} (h : u.advance w choice = some (w', u')) :
    Advances w choice u u.phase w' u'.phase ∧ u' = { u with phase := u'.phase } := by
  unfold Update.advance at h
  cases hfails : choice.fails with
  | some e =>
    cases hphase : u.phase with
    | resolving =>
      simp only [hphase, hfails] at h
      cases h
      exact ⟨.refuse _ (.inl rfl), rfl⟩
    | finding targetUser =>
      simp only [hphase, hfails] at h
      cases h
      exact ⟨.refuse _ (.inr ⟨targetUser, rfl⟩), rfl⟩
    | replacing userId hash =>
      simp only [hphase, hfails] at h
      cases h
      exact ⟨.fail hfails, rfl⟩
    | evicting userId =>
      simp only [hphase, hfails] at h
      cases h
      exact ⟨.evict, rfl⟩
    | finished result =>
      simp only [hphase, hfails] at h
      cases h
  | none =>
    cases hphase : u.phase with
    | resolving =>
      simp only [hphase, hfails] at h
      split at h
      · cases h
        exact ⟨.refuse _ (.inl rfl), rfl⟩
      next targetUser hresolved =>
        cases h
        exact ⟨.resolve hfails hresolved, rfl⟩
    | finding targetUser =>
      simp only [hphase, hfails] at h
      split at h
      · cases h
        exact ⟨.refuse _ (.inr ⟨targetUser, rfl⟩), rfl⟩
      next found hfound =>
        split at h
        · cases h
          exact ⟨.refuse _ (.inr ⟨targetUser, rfl⟩), rfl⟩
        next hchecked =>
          cases h
          exact ⟨.find hfails hfound hchecked, rfl⟩
    | replacing userId hash =>
      simp only [hphase, hfails] at h
      split at h
      next w₁ hreplaced =>
        cases h
        exact ⟨.replace hfails hreplaced, rfl⟩
      next w₁ hreplaced =>
        cases h
        exact ⟨.vanish hfails hreplaced, rfl⟩
    | evicting userId =>
      simp only [hphase, hfails] at h
      cases h
      exact ⟨.evict, rfl⟩
    | finished result =>
      simp only [hphase, hfails] at h
      cases h

inductive Login.Advances (w : World) (choice : Choice) (request : LoginWithPasswordRequest) :
    LoginPhase → World → LoginPhase → Prop where
  | refuse (e : AuthServiceError) {phase : LoginPhase}
      (hphase : phase = .finding ∨ ∃ user token, phase = .inserting user token ∧
        (choice.fails = none → w.insertAuthSession (Sha256.digest token) user.id = none)) :
    Advances w choice request phase w (.finished (.error e))
  | find {found : Option PasswordUserRecord} {user : UserRecord} (hfails : choice.fails = none)
      (hfound : w.findPasswordUserByEmail (trim request.email) = .ok found)
      (hchecked : checkLogin request found = .ok user) :
    Advances w choice request .finding w (.inserting user (newSessionToken choice.token))
  | insert {user : UserRecord} {token : String} {w' : World} (hfails : choice.fails = none)
      (hinserted : w.insertAuthSession (Sha256.digest token) user.id = some w') :
    Advances w choice request (.inserting user token) w'
      (.finished (.ok (AuthenticatedUser.ofRecord user, token)))

omit [UuidText] in
theorem Login.advances_of_advance {l l' : Login} (h : l.advance w choice = some (w', l')) :
    Advances w choice l.request l.phase w' l'.phase ∧ l'.request = l.request := by
  unfold Login.advance at h
  cases hfails : choice.fails with
  | some e =>
    have hfailed (hnone : choice.fails = none) : False := by
      rw [hnone] at hfails
      cases hfails
    cases hphase : l.phase with
    | finding =>
      simp only [hphase, hfails] at h
      cases h
      exact ⟨.refuse _ (.inl rfl), rfl⟩
    | inserting user token =>
      simp only [hphase, hfails] at h
      cases h
      exact ⟨.refuse _ (.inr ⟨user, token, rfl, fun hnone => (hfailed hnone).elim⟩), rfl⟩
    | finished result =>
      simp only [hphase, hfails] at h
      cases h
  | none =>
    cases hphase : l.phase with
    | finding =>
      simp only [hphase, hfails] at h
      split at h
      · cases h
        exact ⟨.refuse _ (.inl rfl), rfl⟩
      next found hfound =>
        split at h
        · cases h
          exact ⟨.refuse _ (.inl rfl), rfl⟩
        next user hchecked =>
          cases h
          exact ⟨.find hfails hfound hchecked, rfl⟩
    | inserting user token =>
      simp only [hphase, hfails] at h
      split at h
      next hrefused =>
        cases h
        exact ⟨.refuse _ (.inr ⟨user, token, rfl, fun _ => hrefused⟩), rfl⟩
      next w₁ hinserted =>
        cases h
        exact ⟨.insert hfails hinserted, rfl⟩
    | finished result =>
      simp only [hphase, hfails] at h
      cases h

end

/-! ## Calls with nothing in between -/

/-- The address is that of the user, and of nobody else who is not deleted. -/
structure World.Owner [Collation] (w : World) (email : String) (userId : Uuid) (user : UserRecord)
    (row : Credentials) : Prop where
  found : w.store.findUserById userId = some user
  lookup : w.credentials.lookup userId = some row
  address : Collation.lower row.email = Collation.lower email
  unique : ∀ id row', w.credentials.lookup id = some row' →
    Collation.lower row'.email = Collation.lower email → (w.store.findUserById id).isSome →
      id = userId

theorem findUserById_replaceUserPassword (store : Store) (userId id : Uuid) :
    (store.replaceUserPassword userId).1.findUserById id = store.findUserById id := by
  unfold Store.replaceUserPassword
  split <;> rfl

theorem replaceUserPassword_eq_true {w w' : World} {userId : Uuid} {hash : String} {clear : Bool}
    (h : w.replaceUserPassword userId hash clear = (w', true)) :
    w'.store = (w.store.replaceUserPassword userId).1 ∧
      w'.credentials = w.credentials.mapValues fun id row =>
        if id = userId then
          { row with
            hashedPassword := utf8Bytes hash
            hashedOneTimePasscode := if clear then [] else row.hashedOneTimePasscode
            oneTimePasscodeExpiresAt := if clear then none else row.oneTimePasscodeExpiresAt }
        else row := by
  unfold World.replaceUserPassword at h
  split at h
  next store hstore => cases h
  next store hstore =>
    cases h
    exact ⟨by rw [hstore], rfl⟩

namespace World.Owner

variable [Collation] {w w' : World} {email : String} {userId : Uuid} {user : UserRecord}
  {row : Credentials}

theorem find [Utf8Refusal] (h : w.Owner email userId user row) :
    w.findPasswordUserByEmail email = (passwordRecordFromRow user row).map some := by
  have hselect : (w.credentials.selectFirst fun id row =>
      Collation.lower row.email = Collation.lower email && (w.store.findUserById id).isSome) =
        some (userId, row) := by
    refine (HashMap.selectFirst_eq_some_iff fun id id' v v' hv hv' hp hp' => ?_).mpr ⟨h.lookup, ?_⟩
    · simp only [Bool.and_eq_true, decide_eq_true_eq] at hp hp'
      rw [h.unique id v hv hp.1 hp.2, h.unique id' v' hv' hp'.1 hp'.2]
    · simp [h.address, h.found]
  rw [World.findPasswordUserByEmail, hselect]
  dsimp only
  rw [World.findPasswordUserById, h.found, h.lookup]

/-- A change of the rows that leaves the addresses, and of the tables that leaves the users. -/
theorem mapValues (h : w.Owner email userId user row) (f : Uuid → Credentials → Credentials)
    (hf : ∀ id row, (f id row).email = row.email)
    (hfind : ∀ id, w'.store.findUserById id = w.store.findUserById id)
    (hcredentials : w'.credentials = w.credentials.mapValues f) :
    w'.Owner email userId user (f userId row) where
  found := (hfind userId).trans h.found
  lookup := by rw [hcredentials, HashMap.lookup_mapValues, h.lookup, Option.map_some]
  address := by rw [hf, h.address]
  unique := by
    intro id row' hlookup hemail hsome
    rw [hcredentials, HashMap.lookup_mapValues] at hlookup
    obtain ⟨row₀, hrow₀, rfl⟩ := Option.map_eq_some_iff.mp hlookup
    rw [hf] at hemail
    rw [hfind] at hsome
    exact h.unique id row₀ hrow₀ hemail hsome

theorem storePasscode (h : w.Owner email userId user row) (htype : user.loginType = .password)
    (passcodeHash : String) (expiresAt later : OffsetDateTime) :
    ({ w.storeOneTimePasscodeByEmail email passcodeHash expiresAt with now := later } : World).Owner
      email userId user
      { row with
        hashedOneTimePasscode := utf8Bytes passcodeHash
        oneTimePasscodeExpiresAt := some expiresAt } := by
  have hreceives : w.receivesPasscode email userId row = true := by
    simp [World.receivesPasscode, h.address, h.found, htype]
  let w₁ : World := { w.storeOneTimePasscodeByEmail email passcodeHash expiresAt with now := later }
  have hmapped : w₁.Owner email userId user _ := h.mapValues
    (fun id row => if w.receivesPasscode email id row then
      { row with
        hashedOneTimePasscode := utf8Bytes passcodeHash
        oneTimePasscodeExpiresAt := some expiresAt } else row)
    (fun id row => by split <;> rfl) (fun _ => rfl) rfl
  rwa [if_pos hreceives] at hmapped

theorem replacePassword (h : w.Owner email userId user row) {hash : String}
    (hreplaced : w.replaceUserPassword userId hash true = (w', true)) (cache : SessionCache) :
    ({ w' with cache } : World).Owner email userId user
      { row with
        hashedPassword := utf8Bytes hash
        hashedOneTimePasscode := []
        oneTimePasscodeExpiresAt := none } := by
  obtain ⟨hstore, hcredentials⟩ := replaceUserPassword_eq_true hreplaced
  let w₁ : World := { w' with cache }
  have hmapped : w₁.Owner email userId user _ := h.mapValues
    (fun id row => if id = userId then
      { row with
        hashedPassword := utf8Bytes hash
        hashedOneTimePasscode := []
        oneTimePasscodeExpiresAt := none } else row)
    (fun id row => by split <;> rfl)
    (fun id => by
      show w'.store.findUserById id = w.store.findUserById id
      rw [hstore]
      exact findUserById_replaceUserPassword _ _ _)
    hcredentials
  rwa [if_pos rfl] at hmapped

end World.Owner

section

variable [Pbkdf2] [Base64Refusal] [Utf8Refusal] [Collation] [UuidText] [Sha256]
  {w : World} {email password : String} {userId : Uuid} {user : UserRecord} {row : Credentials}
  {choice : Choice}

omit [Base64Refusal] [Utf8Refusal] [Collation] [UuidText] [Sha256] in
theorem utf8Bytes_hashPassword_ne_nil (salt : Vector UInt8 saltLength) :
    utf8Bytes (hashPassword password salt) ≠ [] := by
  intro hnil
  have hread := fromUtf8_utf8Bytes (hashPassword password salt)
  rw [hnil, show fromUtf8 [] = some "" from rfl] at hread
  have hempty : ("" : String).toList = (hashPassword password salt).toList :=
    congrArg String.toList (Option.some.inj hread)
  simp [hashPassword, encodePasswordHash] at hempty

omit [Utf8Refusal] [Collation] [UuidText] [Sha256] in
theorem verify_hashPassword (salt : Vector UInt8 saltLength) :
    verify (hashPassword password salt) password = .ok true := by
  rw [verify, hashPassword, verifyPassword_encodePasswordHash]
  simp [Except.mapError]

omit [Collation] [UuidText] [Sha256] in
/-- The row of a user with a passcode, and what a reset with the passcode makes of it. -/
theorem checkReset_of_row (user : UserRecord) (row : Credentials)
    (request : ChangePasswordWithOneTimePasscodeRequest) {hash : String}
    {salt : Vector UInt8 saltLength} {now expiresAt : OffsetDateTime}
    (hread : fromUtf8 row.hashedPassword = some hash)
    (hnew : verifyPassword hash request.password = .ok false)
    (hpasscode : row.hashedOneTimePasscode =
      utf8Bytes (hashPassword request.oneTimePasscode salt))
    (hexpires : row.oneTimePasscodeExpiresAt = some expiresAt) (hlater : now < expiresAt) :
    ∃ record, passwordRecordFromRow user row = .ok record ∧
      checkReset request (some record) now = .ok user.id := by
  have hsome : (utf8Bytes (hashPassword request.oneTimePasscode salt)).isEmpty = false := by
    rw [List.isEmpty_eq_false_iff]
    exact utf8Bytes_hashPassword_ne_nil _
  let record : PasswordUserRecord :=
    { user, passwordHash := hash
      oneTimePasscodeHash := some (hashPassword request.oneTimePasscode salt)
      oneTimePasscodeExpiresAt := some expiresAt }
  refine ⟨record, ?_, ?_⟩
  · simp only [passwordRecordFromRow, hread, hpasscode, hexpires, hsome, Bool.false_eq_true,
      if_false, fromUtf8_utf8Bytes, record]
  · have hmatches : passcodeMatches record request.oneTimePasscode now = .ok true := by
      simp only [passcodeMatches, record, gt_iff_lt, hlater, if_true]
      exact verify_hashPassword salt
    have hdiffers : verify record.passwordHash request.password = .ok false := by
      rw [verify, hnew]
      rfl
    simp only [checkReset, hmatches, hdiffers]
    rfl

omit [Collation] [UuidText] [Sha256] in
theorem checkLogin_of_row (user : UserRecord) (row : Credentials)
    (request : LoginWithPasswordRequest) {salt : Vector UInt8 saltLength}
    (hpassword : row.hashedPassword = utf8Bytes (hashPassword request.password salt))
    (hpasscode : row.hashedOneTimePasscode = [])
    (htype : user.loginType = .password) (hsystem : user.isSystem = false)
    (hactive : user.status = .active) :
    ∃ record, passwordRecordFromRow user row = .ok record ∧
      checkLogin request (some record) = .ok user := by
  let record : PasswordUserRecord :=
    { user, passwordHash := hashPassword request.password salt, oneTimePasscodeHash := none
      oneTimePasscodeExpiresAt := row.oneTimePasscodeExpiresAt }
  refine ⟨record, ?_, ?_⟩
  · simp only [passwordRecordFromRow, hpassword, hpasscode, fromUtf8_utf8Bytes, List.isEmpty_nil,
      if_true, record]
  · have hpasses : verify record.passwordHash request.password = .ok true :=
      verify_hashPassword salt
    simp only [checkLogin, record, hsystem, htype, hactive, hpasses, Bool.false_eq_true, ne_eq,
      not_true_eq_false, or_self, if_false]
    rfl

omit [Pbkdf2] [Base64Refusal] [Utf8Refusal] [UuidText] [Sha256] [Collation] in
theorem exists_replaceUserPassword {hash : String} (clear : Bool)
    (hfound : w.store.findUserById userId = some user) :
    ∃ w', w.replaceUserPassword userId hash clear = (w', true) ∧ w'.now = w.now := by
  have hstore : (w.store.replaceUserPassword userId).2 = true := by
    rw [Store.replaceUserPassword, hfound]
  unfold World.replaceUserPassword
  split
  next store hfalse =>
    rw [hfalse] at hstore
    cases hstore
  · exact ⟨_, rfl, rfl⟩

theorem request_alone {drawing storing : Choice} {expiresAt : OffsetDateTime}
    (hemail : validation "email" (validateEmail email) = [])
    (hexpires : w.now.add (oneTimePasscodeValiditySecs * 10 ^ 9) = some expiresAt)
    (hfails : storing.fails = none) :
    program.alone [drawing, storing] w (program.enter (.requestPasscode email)) =
      some (w.storeOneTimePasscodeByEmail (trim email)
        (hashPassword (UuidText.display drawing.passcode) drawing.salt) expiresAt,
        .requestPasscode ⟨email, .finished (.ok ())⟩) := by
  have hdraw : program.advance w (program.enter (.requestPasscode email)) drawing =
      some (w, .requestPasscode ⟨email,
        .storing (hashPassword (UuidText.display drawing.passcode) drawing.salt) expiresAt⟩) := by
    simp only [program, Task.enter, Task.advance, PasscodeRequest.advance, hemail, hexpires, ne_eq,
      not_true_eq_false, if_false, Option.map_some]
  rw [Program.alone_cons hdraw, Program.alone]
  simp only [program, Task.advance, PasscodeRequest.advance, hfails, Option.map_some, Program.alone]

variable (request : ChangePasswordWithOneTimePasscodeRequest)

theorem reset_alone {finding checking : Choice}
    (howner : w.Owner (trim request.email) userId user row) {record : PasswordUserRecord}
    (hrecord : passwordRecordFromRow user row = .ok record)
    (hchecked : checkReset request (some record) w.now = .ok userId)
    (hvalid : request.validations = []) (hfails : finding.fails = none) :
    program.alone [finding, checking] w (program.enter (.reset request)) =
      some (w, .reset ⟨request,
        .replacing userId (hashPassword request.password checking.salt)⟩) := by
  have hfound : w.findPasswordUserByEmail (trim request.email) = .ok (some record) := by
    rw [howner.find, hrecord]
    rfl
  have hfind : program.advance w (program.enter (.reset request)) finding =
      some (w, .reset ⟨request, .checking (some record)⟩) := by
    simp only [program, Task.enter, Task.advance, Reset.advance, hvalid, hfails, hfound, ne_eq,
      not_true_eq_false, if_false, Option.map_some]
  rw [Program.alone_cons hfind, Program.alone]
  simp only [program, Task.advance, Reset.advance, hchecked, Option.map_some, Program.alone]

theorem replace_alone {replacing evicting : Choice} {hash : String} {w' : World}
    (hreplaced : w.replaceUserPassword userId hash true = (w', true))
    (hfails : replacing.fails = none) :
    program.alone [replacing, evicting] w (.reset ⟨request, .replacing userId hash⟩) =
      some ({ w' with cache := w'.cache.evictUser userId },
        .reset ⟨request, .finished (.ok userId)⟩) := by
  have hreplace : program.advance w (.reset ⟨request, .replacing userId hash⟩) replacing =
      some (w', .reset ⟨request, .evicting userId⟩) := by
    simp only [program, Task.advance, Reset.advance, hfails, hreplaced, Option.map_some]
  rw [Program.alone_cons hreplace, Program.alone]
  simp only [program, Task.advance, Reset.advance, Option.map_some, Program.alone]

theorem update_alone (actor : Actor) (authenticatedUser : Uuid) (requestedUser : String)
    (request : UpdateUserPasswordRequest) {resolving finding : Choice} {record : PasswordUserRecord}
    (hresolved : checkTarget actor (w.store.resolveUser requestedUser authenticatedUser) = .ok user)
    (hfound : w.findPasswordUserById user.id = .ok (some record))
    (hchecked : checkUpdate authenticatedUser user.id request (some record) = .ok ())
    (hresolving : resolving.fails = none) (hfinding : finding.fails = none) :
    program.alone [resolving, finding] w
        (program.enter (.update actor authenticatedUser requestedUser request)) =
      some (w, .update ⟨actor, authenticatedUser, requestedUser, request,
        .replacing user.id (hashPassword request.password finding.salt)⟩) := by
  have hresolve : program.advance w
      (program.enter (.update actor authenticatedUser requestedUser request)) resolving =
        some (w, .update ⟨actor, authenticatedUser, requestedUser, request, .finding user⟩) := by
    simp only [program, Task.enter, Task.advance, Update.advance, hresolving, hresolved,
      Option.map_some]
  rw [Program.alone_cons hresolve, Program.alone]
  simp only [program, Task.advance, Update.advance, hfinding, hfound, hchecked, Option.map_some,
    Program.alone]

theorem login_alone (request : LoginWithPasswordRequest) {finding inserting : Choice}
    (howner : w.Owner (trim request.email) userId user row) {record : PasswordUserRecord}
    (hrecord : passwordRecordFromRow user row = .ok record)
    (hchecked : checkLogin request (some record) = .ok user)
    (hfinding : finding.fails = none) (hinserting : inserting.fails = none)
    (hfresh : w.store.authSessions.lookup (Sha256.digest (newSessionToken finding.token)) = none) :
    ∃ w', program.alone [finding, inserting] w (program.enter (.login request)) =
        some (w', .login ⟨request,
          .finished (.ok (AuthenticatedUser.ofRecord user, newSessionToken finding.token))⟩) ∧
      w'.store.authSessions.lookup (Sha256.digest (newSessionToken finding.token)) =
        some userId := by
  have hfound : w.findPasswordUserByEmail (trim request.email) = .ok (some record) := by
    rw [howner.find, hrecord]
    rfl
  have hid : user.id = userId := Store.findUserById_id howner.found
  have hrow : (w.store.users.lookup user.id).isNone = false := by
    have huser := howner.found
    rw [hid]
    unfold Store.findUserById at huser
    cases hlookup : w.store.users.lookup userId with
    | none =>
      rw [hlookup] at huser
      cases huser
    | some found => rfl
  let w' : World := { w with
    store := { w.store with
      authSessions := w.store.authSessions.insert (Sha256.digest (newSessionToken finding.token))
        user.id } }
  have hinserted : w.insertAuthSession (Sha256.digest (newSessionToken finding.token)) user.id =
      some w' := by
    rw [World.insertAuthSession, hrow, hfresh]
    rfl
  refine ⟨w', ?_, ?_⟩
  · have hfind : program.advance w (program.enter (.login request)) finding =
        some (w, .login ⟨request, .inserting user (newSessionToken finding.token)⟩) := by
      simp only [program, Task.enter, Task.advance, Login.advance, hfinding, hfound, hchecked,
        Option.map_some]
    rw [Program.alone_cons hfind, Program.alone]
    simp only [program, Task.advance, Login.advance, hinserting, hinserted, Option.map_some,
      Program.alone]
  · rw [← hid]
    exact AList.lookup_insert _

/-- A passcode is asked for, and a reset with it comes through its checks. -/
def resetMoves (n : Nat) (email password : String) (later : OffsetDateTime)
    (choice : Nat → Choice) : List PasswordMove :=
  [.spawn (.requestPasscode email), .run n (choice 0), .run n (choice 1),
    .outside (.setClock later),
    .spawn (.reset ⟨email, password, UuidText.display (choice 0).passcode⟩),
    .run (n + 1) (choice 2), .run (n + 1) (choice 3)]

theorem run_resetMoves (w : Pool World Task) {hash : String} (choice : Nat → Choice)
    {expiresAt later : OffsetDateTime} (howner : w.shared.Owner (trim email) userId user row)
    (htype : user.loginType = .password) (hread : fromUtf8 row.hashedPassword = some hash)
    (hnew : verifyPassword hash password = .ok false) (hfails : ∀ i, (choice i).fails = none)
    (hvalid : ChangePasswordWithOneTimePasscodeRequest.validations
      ⟨email, password, UuidText.display (choice 0).passcode⟩ = [])
    (hexpires : w.shared.now.add (oneTimePasscodeValiditySecs * 10 ^ 9) = some expiresAt)
    (hlater : later < expiresAt) :
    let checked := program.run w (resetMoves w.tasks.length email password later choice)
    checked.tasks = w.tasks ++ [.requestPasscode ⟨email, .finished (.ok ())⟩] ++
        [.reset ⟨⟨email, password, UuidText.display (choice 0).passcode⟩,
          .replacing userId (hashPassword password (choice 3).salt)⟩] ∧
      checked.shared.store = w.shared.store ∧ checked.shared.now = later ∧
      checked.shared.Owner (trim email) userId user
        { row with
          hashedOneTimePasscode :=
            utf8Bytes (hashPassword (UuidText.display (choice 0).passcode) (choice 0).salt)
          oneTimePasscodeExpiresAt := some expiresAt } := by
  have hvalidations := List.append_eq_nil_iff.mp (List.append_eq_nil_iff.mp hvalid).1
  have hid : user.id = userId := Store.findUserById_id howner.found
  let request : ChangePasswordWithOneTimePasscodeRequest :=
    ⟨email, password, UuidText.display (choice 0).passcode⟩
  let passcodeHash := hashPassword (UuidText.display (choice 0).passcode) (choice 0).salt
  let asked : Pool World Task :=
    { shared := w.shared.storeOneTimePasscodeByEmail (trim email) passcodeHash expiresAt
      tasks := w.tasks ++ [.requestPasscode ⟨email, .finished (.ok ())⟩] }
  have hasked : program.run w [.spawn (.requestPasscode email), .run w.tasks.length (choice 0),
      .run w.tasks.length (choice 1)] = asked :=
    Program.run_spawn_alone (request_alone hvalidations.1 hexpires (hfails 1))
  let waited : Pool World Task := { asked with shared := { asked.shared with now := later } }
  have howner₁ := howner.storePasscode htype passcodeHash expiresAt later
  obtain ⟨record, hrecord, hchecked⟩ :=
    checkReset_of_row user
      { row with
        hashedOneTimePasscode := utf8Bytes passcodeHash
        oneTimePasscodeExpiresAt := some expiresAt }
      request hread hnew rfl rfl hlater
  rw [hid] at hchecked
  have hlength : asked.tasks.length = w.tasks.length + 1 := List.length_append
  have hreset : program.run waited [.spawn (.reset request), .run asked.tasks.length (choice 2),
      .run asked.tasks.length (choice 3)] =
        { shared := waited.shared
          tasks := asked.tasks ++ [.reset ⟨request,
            .replacing userId (hashPassword password (choice 3).salt)⟩] } :=
    Program.run_spawn_alone (reset_alone request howner₁ hrecord hchecked hvalid (hfails 2))
  rw [hlength] at hreset
  have hmoves : resetMoves w.tasks.length email password later choice =
      [.spawn (.requestPasscode email), .run w.tasks.length (choice 0),
        .run w.tasks.length (choice 1)] ++ .outside (.setClock later) ::
      [.spawn (.reset request), .run (w.tasks.length + 1) (choice 2),
        .run (w.tasks.length + 1) (choice 3)] := rfl
  have hrun : program.run w (resetMoves w.tasks.length email password later choice) =
      { shared := waited.shared
        tasks := asked.tasks ++ [.reset ⟨request,
          .replacing userId (hashPassword password (choice 3).salt)⟩] } := by
    rw [hmoves, Program.run_append, hasked]
    exact hreset
  intro checked
  rw [show checked = _ from hrun]
  exact ⟨rfl, rfl, rfl, howner₁⟩

end

/-! ## A user -/

/-- The password and the salt, in place of a key that is derived from them. -/
@[reducible] def samplePbkdf2 : Pbkdf2 where
  derive password salt _ := (utf8Bytes password ++ salt).takeD 64 0

@[reducible] def sampleBase64Refusal : Base64Refusal := ⟨fun _ => "Invalid padding"⟩

@[reducible] def sampleUtf8Refusal : Utf8Refusal := ⟨fun _ => "invalid utf-8 sequence"⟩

@[reducible] def sampleCollation : Collation := ⟨String.map Char.toLower⟩

@[reducible] def sampleSha256 : Sha256 := ⟨fun text => Sha2.digest (utf8Bytes text)⟩

section

attribute [local instance] samplePbkdf2 sampleBase64Refusal sampleUtf8Refusal sampleCollation
  sampleSha256 Uuid.hyphenated

def sampleChoice : Choice where
  fails := none
  refusal := .unavailable ""
  salt := .replicate _ 7
  passcode := .nil
  token := .replicate _ 9

def sampleRow : UserRow where
  username := "alice"
  rbacRoles := []
  loginType := .password
  status := .active
  lastSeenAt := none
  deleted := false
  isSystem := false

def sampleCredentials : Credentials where
  email := "a@b.c"
  hashedPassword := utf8Bytes (hashPassword "old password" sampleChoice.salt)
  hashedOneTimePasscode := []
  oneTimePasscodeExpiresAt := none

def sampleInsert : PasswordMove :=
  .outside (.insertUser ⟨1⟩ sampleRow sampleCredentials.email sampleCredentials.hashedPassword)

def sampleServer : Pool World Task := program.step (start (.fromSecs 30)) sampleInsert

def sampleUser : UserRecord := sampleServer.shared.store.userRecordFromRow ⟨1⟩ sampleRow

theorem sample_owner :
    sampleServer.shared.Owner (trim "a@b.c") ⟨1⟩ sampleUser sampleCredentials where
  found := rfl
  lookup := rfl
  address := by
    rw [show trim "a@b.c" = "a@b.c" by decide +kernel]
    rfl
  unique id row hlookup _ _ := by
    by_cases hid : id = ⟨1⟩
    · exact hid
    · have hinsert : ((∅ : HashMap Uuid Credentials).insert ⟨1⟩ sampleCredentials).lookup id =
          some row := hlookup
      rw [HashMap.lookup_insert_ite, if_neg hid] at hinsert
      cases hinsert

/-- One password is not the other. -/
theorem verifyPassword_sample {password other : String}
    (h : Pbkdf2.derive password sampleChoice.salt.toList hashIterations ≠
      Pbkdf2.derive other sampleChoice.salt.toList hashIterations) :
    verifyPassword (hashPassword password sampleChoice.salt) other = .ok false := by
  rw [hashPassword, verifyPassword_encodePasswordHash]
  simp [h]

theorem exists_later : ∃ expiresAt,
    OffsetDateTime.unixEpoch.add (oneTimePasscodeValiditySecs * 10 ^ 9) = some expiresAt ∧
      OffsetDateTime.unixEpoch < expiresAt :=
  ⟨⟨30 * 60 * 10 ^ 9, by decide, by decide⟩, rfl, by decide⟩

def sampleMoves : List PasswordMove :=
  resetMoves 0 "a@b.c" "new password" .unixEpoch fun _ => sampleChoice

/-- The user comes through the checks with a passcode and a new password. -/
theorem run_sampleMoves : ∃ checked row, program.run sampleServer sampleMoves = checked ∧
    checked.tasks = [.requestPasscode ⟨"a@b.c", .finished (.ok ())⟩,
      .reset ⟨⟨"a@b.c", "new password", UuidText.display .nil⟩,
        .replacing ⟨1⟩ (hashPassword "new password" sampleChoice.salt)⟩] ∧
    checked.shared.now = .unixEpoch ∧ checked.shared.Owner (trim "a@b.c") ⟨1⟩ sampleUser row := by
  have hread : fromUtf8 sampleCredentials.hashedPassword =
      some (hashPassword "old password" sampleChoice.salt) := fromUtf8_utf8Bytes _
  have hnew : verifyPassword (hashPassword "old password" sampleChoice.salt) "new password" =
      .ok false := verifyPassword_sample (by decide +kernel)
  obtain ⟨expiresAt, hexpires, hlater⟩ := exists_later
  obtain ⟨htasks, -, hnow, howner⟩ :=
    run_resetMoves sampleServer (fun _ => sampleChoice) sample_owner rfl hread hnew
      (fun _ => rfl) (by decide +kernel) hexpires hlater
  exact ⟨_, _, rfl, htasks, hnow, howner⟩

end

end Coderd.Auth.Passwords
