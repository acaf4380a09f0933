import Coderd.Auth.PasswordResets

namespace Coderd.Auth.Passwords

open Coderd.Foundation Coderd.Rbac
open Coderd.CryptoKeys (OffsetDateTime)

/-! ## Sessions -/

/-- The user whose password the move replaces. -/
def replacedUser [Sha256] (w : Pool World Task) (move : PasswordMove) : Option Uuid :=
  match performed w move with
  | some (.password userId passwordHash clear) =>
    if (w.shared.replaceUserPassword userId passwordHash clear).2 then some userId else none
  | _ => none

/-- The password passes for the one that is stored for the user. -/
def World.Accepts [Pbkdf2] [Base64Refusal] (w : World) (userId : Uuid) (password : String) : Prop :=
  ∃ row hash, w.credentials.lookup userId = some row ∧ fromUtf8 row.hashedPassword = some hash ∧
    verifyPassword hash password = .ok true

/-- The user for whom a login is about to open a session. -/
def Task.opens : Task → Option Uuid
  | .login { phase := .inserting user _, .. } => some user.id
  | _ => none

/-- No password is replaced while a login that has checked the old one is about to open its
session. -/
def undisturbed [Sha256] (w : Pool World Task) (move : PasswordMove) : Bool :=
  match replacedUser w move with
  | none => true
  | some userId => w.tasks.all fun t => t.opens ≠ some userId

section

variable [Pbkdf2] [Base64Refusal] [Utf8Refusal] [Collation] [UuidText] [Sha256]
  {ttl : CryptoKeys.Duration} {moves : List PasswordMove} {w : Pool World Task}
  {move : PasswordMove} {userId : Uuid} {tokenHash : List UInt8}

omit [Pbkdf2] [Base64Refusal] [Utf8Refusal] [Collation] [UuidText] in
theorem replacedUser_of_performed {id : Uuid} {hash : String} {clear : Bool}
    (h : performed w move = some (.password id hash clear)) :
    replacedUser w move =
      if (w.shared.replaceUserPassword id hash clear).2 then some id else none := by
  unfold replacedUser
  rw [h]

omit [Pbkdf2] [Base64Refusal] [Utf8Refusal] [Collation] [UuidText] [Sha256] in
theorem lookup_insertAuthSession {world : World} {key : List UInt8} {id owner : Uuid}
    (h : ((world.insertAuthSession key id).getD world).store.authSessions.lookup tokenHash =
      some owner) :
    (tokenHash = key ∧ owner = id) ∨ world.store.authSessions.lookup tokenHash = some owner := by
  unfold World.insertAuthSession at h
  split at h
  · exact .inr h
  · rw [Option.getD_some, HashMap.lookup_insert_ite] at h
    split at h
    next hkey =>
      cases h
      exact .inl ⟨hkey, rfl⟩
    · exact .inr h

omit [Pbkdf2] [Base64Refusal] [Utf8Refusal] [Collation] [UuidText] [Sha256] in
/-- A replacement leaves no session of its user. -/
theorem lookup_of_replaceUserPassword {world : World} {id owner : Uuid} {hash : String}
    {clear : Bool}
    (h : (world.replaceUserPassword id hash clear).1.store.authSessions.lookup tokenHash =
      some owner) :
    world.store.authSessions.lookup tokenHash = some owner ∧
      ((world.replaceUserPassword id hash clear).2 = true → owner ≠ id) := by
  cases hreplaced : (world.replaceUserPassword id hash clear).2 with
  | false =>
    rw [replaceUserPassword_of_false hreplaced] at h
    exact ⟨h, fun hfalse => by cases hfalse⟩
  | true =>
    unfold World.replaceUserPassword at h hreplaced
    split at h
    next store hstore =>
      rw [hstore] at hreplaced
      cases hreplaced
    next store hstore =>
      have htrue : (world.store.replaceUserPassword id).2 = true := congrArg Prod.snd hstore
      have hlookup := Store.lookup_replaceUserPassword htrue tokenHash
      rw [hstore] at hlookup
      dsimp only at h hlookup
      rw [hlookup, Option.filter_eq_some_iff] at h
      exact ⟨h.1, fun _ => by simpa using h.2⟩

/-- A session is opened by the move, or it was there and its user's password stays. -/
theorem session_step
    (h : (program.step w move).shared.store.authSessions.lookup tokenHash = some userId) :
    (move = .outside (.insertAuthSession tokenHash userId) ∨
      performed w move = some (.session tokenHash userId)) ∨
      (w.shared.store.authSessions.lookup tokenHash = some userId ∧
        replacedUser w move ≠ some userId) := by
  have heffect := effect_step w move
  generalize (program.step w move).shared = after at heffect h
  cases heffect with
  | write hperformed =>
    rename_i write
    cases write with
    | passcode email hash expiresAt =>
      refine .inr ⟨h, ?_⟩
      unfold replacedUser
      rw [hperformed]
      simp
    | password id hash clear =>
      obtain ⟨hbefore, hother⟩ := lookup_of_replaceUserPassword h
      refine .inr ⟨hbefore, ?_⟩
      rw [replacedUser_of_performed hperformed]
      split
      next hreplaced => exact fun hid => hother hreplaced (Option.some.inj hid).symm
      · simp
    | session key id =>
      obtain ⟨rfl, rfl⟩ | hbefore := lookup_insertAuthSession h
      · exact .inl (.inr hperformed)
      · refine .inr ⟨hbefore, ?_⟩
        unfold replacedUser
        rw [hperformed]
        simp
  | none cache hperformed hinside =>
    refine .inr ⟨h, ?_⟩
    unfold replacedUser
    rw [hperformed]
    simp
  | outside event hmove =>
    subst hmove
    have hkept : replacedUser w (.outside event) ≠ some userId := by simp [replacedUser, performed]
    cases event with
    | insertAuthSession key id =>
      obtain ⟨rfl, rfl⟩ | hbefore := lookup_insertAuthSession h
      · exact .inl (.inl rfl)
      · exact .inr ⟨hbefore, hkept⟩
    | deleteAuthSession key =>
      refine .inr ⟨?_, hkept⟩
      have herased : (w.shared.store.authSessions.erase key).lookup tokenHash = some userId := h
      rw [HashMap.lookup_erase_ite] at herased
      split at herased
      · cases herased
      · exact herased
    | insertUser id row email hash =>
      refine .inr ⟨?_, hkept⟩
      rw [World.outside] at h
      split at h <;> exact h
    | createApiKey key =>
      refine .inr ⟨?_, hkept⟩
      rw [World.outside] at h
      split at h
      next store hcreated =>
        unfold Store.createApiKey at hcreated
        split at hcreated
        · cases hcreated
        · cases hcreated
          exact h
      · exact h
    | setClock now => exact .inr ⟨h, hkept⟩
    | updateUser id row email => exact .inr ⟨h, hkept⟩
    | setMemberships memberships => exact .inr ⟨h, hkept⟩
    | deleteApiKey id => exact .inr ⟨h, hkept⟩
    | cacheSession key user count clock => exact .inr ⟨h, hkept⟩

/-- A session in the table was opened by a move of the run, and its user's password has not been
replaced since. -/
theorem opened_of_session (ttl : CryptoKeys.Duration) (moves : List PasswordMove)
    (h : (reached ttl moves).shared.store.authSessions.lookup tokenHash = some userId) :
    ∃ before move after, moves = before ++ move :: after ∧
      (move = .outside (.insertAuthSession tokenHash userId) ∨
        performed (reached ttl before) move = some (.session tokenHash userId)) ∧
      Along program.step (fun w next => replacedUser w next ≠ some userId)
        (reached ttl (before ++ [move])) after := by
  induction moves using List.reverseRecOn with
  | nil => simp [reached, Program.run, start] at h
  | append_singleton moves last ih =>
    rw [reached, Program.run_concat] at h
    obtain hopened | ⟨hbefore, hkept⟩ := session_step h
    · exact ⟨moves, last, [], rfl, hopened, trivial⟩
    · obtain ⟨before, move, after, rfl, hopened, hafter⟩ := ih hbefore
      refine ⟨before, move, after ++ [last], by simp, hopened, ?_⟩
      refine (along_append _ _ _).mpr ⟨hafter, ?_, trivial⟩
      have hparts : before ++ move :: after = (before ++ [move]) ++ after := by simp
      rw [hparts, Program.run_append] at hkept
      exact hkept

theorem hashedPassword_step {row : Credentials}
    (hrow : w.shared.credentials.lookup userId = some row)
    (hkept : replacedUser w move ≠ some userId) :
    ∃ row', (program.step w move).shared.credentials.lookup userId = some row' ∧
      row'.hashedPassword = row.hashedPassword := by
  have heffect := effect_step w move
  generalize (program.step w move).shared = after at heffect ⊢
  cases heffect with
  | write hperformed =>
    rename_i write
    cases write with
    | passcode email hash expiresAt =>
      rw [World.perform, World.storeOneTimePasscodeByEmail, HashMap.lookup_mapValues, hrow,
        Option.map_some]
      refine ⟨_, rfl, ?_⟩
      split <;> rfl
    | password id hash clear =>
      rw [replacedUser_of_performed hperformed] at hkept
      cases hreplaced : (w.shared.replaceUserPassword id hash clear).2 with
      | false =>
        rw [World.perform, replaceUserPassword_of_false hreplaced]
        exact ⟨row, hrow, rfl⟩
      | true =>
        rw [if_pos hreplaced] at hkept
        have hother : userId ≠ id := fun hid => hkept (congrArg some hid.symm)
        rw [World.perform, lookup_replaceUserPassword hreplaced, hrow, Option.map_some,
          if_neg hother]
        exact ⟨row, rfl, rfl⟩
    | session key id =>
      rw [World.perform, credentials_insertAuthSession]
      exact ⟨row, hrow, rfl⟩
  | none cache hperformed hinside => exact ⟨row, hrow, rfl⟩
  | outside event hmove =>
    cases event with
    | insertUser id row' email hash =>
      rw [World.outside]
      split
      · exact ⟨row, hrow, rfl⟩
      next hnone =>
        have hother : userId ≠ id := by
          rintro rfl
          rw [hrow] at hnone
          cases hnone
        rw [HashMap.lookup_insert_ite, if_neg hother]
        exact ⟨row, hrow, rfl⟩
    | updateUser id row' email =>
      rw [World.outside, HashMap.lookup_mapValues, hrow, Option.map_some]
      refine ⟨_, rfl, ?_⟩
      split <;> rfl
    | insertAuthSession key id =>
      rw [World.outside, credentials_insertAuthSession]
      exact ⟨row, hrow, rfl⟩
    | createApiKey key =>
      rw [World.outside]
      split <;> exact ⟨row, hrow, rfl⟩
    | setClock now => exact ⟨row, hrow, rfl⟩
    | setMemberships memberships => exact ⟨row, hrow, rfl⟩
    | deleteAuthSession key => exact ⟨row, hrow, rfl⟩
    | deleteApiKey id => exact ⟨row, hrow, rfl⟩
    | cacheSession key user count clock => exact ⟨row, hrow, rfl⟩

theorem accepts_step {password : String} (h : w.shared.Accepts userId password)
    (hkept : replacedUser w move ≠ some userId) :
    (program.step w move).shared.Accepts userId password := by
  obtain ⟨row, hash, hrow, hread, hverified⟩ := h
  obtain ⟨row', hrow', hsame⟩ := hashedPassword_step hrow hkept
  exact ⟨row', hash, hrow', by rw [hsame, hread], hverified⟩

/-- Who is about to open a session has named the password that is stored. -/
def LoginsAccepted (w : Pool World Task) : Prop :=
  ∀ (k : Nat) (request : LoginWithPasswordRequest) (user : UserRecord) (token : String),
    w.tasks[k]? = some (.login ⟨request, .inserting user token⟩) →
      w.shared.Accepts user.id request.password

omit [UuidText] in
theorem accepts_of_advance {world world' : World} {l : Login} {choice : Choice}
    {request : LoginWithPasswordRequest} {user : UserRecord} {token : String}
    (h : l.advance world choice = some (world', ⟨request, .inserting user token⟩)) :
    world' = world ∧ world.Accepts user.id request.password := by
  obtain ⟨hsteps, hrequest⟩ := Login.advances_of_advance h
  dsimp only at hsteps hrequest
  generalize l.phase = phase at hsteps
  cases hsteps with
  | find hfails hfound hchecked =>
    obtain ⟨record, rfl, rfl, hverified⟩ := checkLogin_eq_ok hchecked
    obtain ⟨-, row, hrow, hrecord⟩ :=
      findPasswordUserById_eq_ok (findPasswordUserByEmail_eq_ok hfound)
    obtain ⟨-, hread, -, -⟩ := passwordRecordFromRow_eq_ok hrecord
    exact ⟨rfl, row, _, hrow, hread, by rw [hrequest]; exact hverified⟩

theorem LoginsAccepted.step (h : LoginsAccepted w) (hok : undisturbed w move = true) :
    LoginsAccepted (program.step w move) := by
  intro k request user token htask
  have hsame (hbefore : w.tasks[k]? = some (.login ⟨request, .inserting user token⟩)) :
      (program.step w move).shared.Accepts user.id request.password := by
    refine accepts_step (h k request user token hbefore) fun hreplaced => ?_
    unfold undisturbed at hok
    rw [hreplaced] at hok
    have hopens := List.all_eq_true.mp hok _ (List.mem_of_getElem? hbefore)
    simp [Task.opens] at hopens
  have hsteps := program.steps_step w move
  generalize hnext : program.step w move = next at hsteps htask hsame ⊢
  cases hsteps with
  | idle => exact hsame htask
  | outside event => exact hsame htask
  | spawn op =>
    by_cases hk : k < w.tasks.length
    · rw [List.getElem?_append_left hk] at htask
      exact hsame htask
    · rw [List.getElem?_append_right (Nat.le_of_not_lt hk)] at htask
      have hentered := List.mem_singleton.mp (List.mem_of_getElem? htask)
      cases op <;> cases hentered
  | run hold hadvance =>
    rename_i i choice t t' s
    by_cases hk : i = k
    · subst hk
      obtain ⟨hlt, -⟩ := List.getElem?_eq_some_iff.mp hold
      rw [List.getElem?_set_self hlt] at htask
      cases htask
      replace hadvance : t.advance w.shared choice = some (s, _) := hadvance
      cases t with
      | login l =>
        obtain ⟨l', hl, heq⟩ := map_eq_some_pair hadvance
        cases heq
        obtain ⟨rfl, haccepts⟩ := accepts_of_advance hl
        exact haccepts
      | requestPasscode q => cases (map_eq_some_pair hadvance).choose_spec.2
      | reset r => cases (map_eq_some_pair hadvance).choose_spec.2
      | update u => cases (map_eq_some_pair hadvance).choose_spec.2
    · rw [List.getElem?_set_ne hk] at htask
      exact hsame htask

/-- In every run, each session in the table was opened since its user's password was last replaced,
by another sign-in or by a login; and if in the run no password is replaced between the checks of a
login and its opening the session, the login had named the password that is stored now. -/
theorem sessions_current (ttl : CryptoKeys.Duration) (moves : List PasswordMove)
    (tokenHash : List UInt8) (userId : Uuid)
    (h : (reached ttl moves).shared.store.authSessions.lookup tokenHash = some userId) :
    ∃ before move after, moves = before ++ move :: after ∧
      Along program.step (fun w next => replacedUser w next ≠ some userId)
        (reached ttl (before ++ [move])) after ∧
      (move = .outside (.insertAuthSession tokenHash userId) ∨
        ∃ k choice request user token, move = .run k choice ∧
          (reached ttl before).tasks[k]? = some (.login ⟨request, .inserting user token⟩) ∧
          user.id = userId ∧ Sha256.digest token = tokenHash ∧
          (Along program.step (fun w move => undisturbed w move = true) (start ttl) moves →
            (reached ttl moves).shared.Accepts userId request.password)) := by
  obtain ⟨before, move, after, rfl, hopened, hafter⟩ := opened_of_session ttl moves h
  refine ⟨before, move, after, rfl, hafter, hopened.imp_right fun hperformed => ?_⟩
  obtain ⟨k, choice, t, rfl, -, htask, hwrite⟩ := performed_eq_some hperformed
  unfold Task.write at hwrite
  split at hwrite
  case h_4 request user token =>
    cases hwrite
    refine ⟨k, choice, request, user, token, rfl, htask, rfl, rfl, fun hrun => ?_⟩
    obtain ⟨hbefore, -, -⟩ := (along_append _ _ _).mp hrun
    have hlogins : LoginsAccepted (reached ttl before) :=
      Along.invariant (fun _ _ hI hok => hI.step hok) (by simp [LoginsAccepted, start]) hbefore
    have hnone : replacedUser (reached ttl before) (.run k choice) ≠ some user.id := by
      unfold replacedUser
      rw [hperformed]
      simp
    have hopen := accepts_step (hlogins k request user token htask) hnone
    rw [List.append_cons, reached, Program.run_append, Program.run_concat]
    rw [reached, Program.run_concat] at hafter
    exact Along.invariant
      (I := fun w : Pool World Task => w.shared.Accepts user.id request.password)
      (fun _ _ hI hok => accepts_step hI hok) hopen hafter
  all_goals cases hwrite

end

section

attribute [local instance] samplePbkdf2 sampleBase64Refusal sampleUtf8Refusal sampleCollation
  sampleSha256 Uuid.hyphenated

def sampleLogin : List PasswordMove :=
  [sampleInsert, .spawn (.login ⟨"a@b.c", "old password"⟩), .run 0 sampleChoice,
    .run 0 sampleChoice]

theorem sessions_current_sample :
    ∃ before move after, sampleLogin = before ++ move :: after ∧
      Along program.step (fun w next => replacedUser w next ≠ some ⟨1⟩)
        (reached (.fromSecs 30) (before ++ [move])) after := by
  let request : LoginWithPasswordRequest := ⟨"a@b.c", "old password"⟩
  let token := newSessionToken sampleChoice.token
  have hpassword : sampleCredentials.hashedPassword =
      utf8Bytes (hashPassword request.password sampleChoice.salt) := by
    simp only [sampleCredentials, request]
  obtain ⟨record, hrecord, hchecked⟩ :=
    checkLogin_of_row sampleUser sampleCredentials request hpassword rfl rfl rfl rfl
  obtain ⟨w', halone, hopened⟩ : ∃ w',
      program.alone [sampleChoice, sampleChoice] sampleServer.shared
        (program.enter (.login request)) = some (w', .login ⟨request,
          .finished (.ok (AuthenticatedUser.ofRecord sampleUser, token))⟩) ∧
      w'.store.authSessions.lookup (Sha256.digest token) = some ⟨1⟩ :=
    login_alone request sample_owner hrecord hchecked rfl rfl rfl
  have hrun := Program.run_spawn_alone halone
  have h : (reached (.fromSecs 30) sampleLogin).shared.store.authSessions.lookup
      (Sha256.digest token) = some ⟨1⟩ := by
    have hreached : reached (.fromSecs 30) sampleLogin = _ := (reached_sampleInsert _).trans hrun
    rw [hreached]
    exact hopened
  obtain ⟨before, move, after, hsplit, hafter, -⟩ :=
    sessions_current (.fromSecs 30) sampleLogin _ _ h
  exact ⟨before, move, after, hsplit, hafter⟩

end

/-! ## A reset and a login -/

section

variable [Pbkdf2] [Base64Refusal] [Utf8Refusal] [Collation] [UuidText] [Sha256]

end

section

attribute [local instance] samplePbkdf2 sampleBase64Refusal sampleUtf8Refusal sampleCollation
  sampleSha256 Uuid.hyphenated

end

end Coderd.Auth.Passwords
