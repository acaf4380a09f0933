import Coderd.Auth.Passwords
import Coderd.Foundation.Leases

namespace Coderd.Auth.Passwords

open Coderd.Foundation Coderd.Rbac
open Coderd.CryptoKeys (OffsetDateTime)

/-! ## What a step writes -/

/-- A change of the tables. -/
inductive Write where
  | passcode (email passcodeHash : String) (expiresAt : OffsetDateTime)
  | password (userId : Uuid) (passwordHash : String) (clearOneTimePasscode : Bool)
  | session (tokenHash : List UInt8) (userId : Uuid)

def World.perform [Collation] (w : World) : Write → World
  | .passcode email passcodeHash expiresAt =>
    w.storeOneTimePasscodeByEmail email passcodeHash expiresAt
  | .password userId passwordHash clearOneTimePasscode =>
    (w.replaceUserPassword userId passwordHash clearOneTimePasscode).1
  | .session tokenHash userId => (w.insertAuthSession tokenHash userId).getD w

/-- The change that a task is about to make, unless its store call fails. -/
def Task.write [Sha256] : Task → Option Write
  | .requestPasscode { email, phase := .storing passcodeHash expiresAt } =>
    some (.passcode (trim email) passcodeHash expiresAt)
  | .reset { phase := .replacing userId passwordHash, .. } =>
    some (.password userId passwordHash true)
  | .update { phase := .replacing userId passwordHash, .. } =>
    some (.password userId passwordHash false)
  | .login { phase := .inserting user sessionToken, .. } =>
    some (.session (Sha256.digest sessionToken) user.id)
  | _ => none

/-- The change that a move makes. -/
def performed [Sha256] (w : Pool World Task) : PasswordMove → Option Write
  | .run k choice =>
    match choice.fails with
    | some _ => none
    | none => w.tasks[k]?.bind Task.write
  | _ => none

section

variable [Pbkdf2] [Base64Refusal] [Utf8Refusal] [Collation] [UuidText] [Sha256]

/-- A step makes the change that the task was about to make, and otherwise leaves the tables. -/
theorem write_of_advance {w w' : World} {t t' : Task} {choice : Choice}
    (h : t.advance w choice = some (w', t')) :
    (∃ write, t.write = some write ∧ choice.fails = none ∧ w' = w.perform write) ∨
      ((t.write = none ∨ choice.fails ≠ none) ∧ ∃ cache, w' = { w with cache }) := by
  cases t with
  | requestPasscode q =>
    obtain ⟨⟨w₁, q'⟩, hadvance, heq⟩ := Option.map_eq_some_iff.mp h
    cases heq
    obtain ⟨hsteps, -⟩ := PasscodeRequest.advances_of_advance hadvance
    obtain ⟨email, phase⟩ := q
    obtain ⟨email', phase'⟩ := q'
    cases hsteps with
    | refuse e => exact .inr ⟨.inl rfl, w.cache, rfl⟩
    | draw hexpires => exact .inr ⟨.inl rfl, w.cache, rfl⟩
    | fail hfails => exact .inr ⟨.inr (by simp [hfails]), w.cache, rfl⟩
    | store hfails => exact .inl ⟨_, rfl, hfails, rfl⟩
  | reset r =>
    obtain ⟨⟨w₁, r'⟩, hadvance, heq⟩ := Option.map_eq_some_iff.mp h
    cases heq
    obtain ⟨hsteps, -⟩ := Reset.advances_of_advance hadvance
    obtain ⟨request, phase⟩ := r
    obtain ⟨request', phase'⟩ := r'
    cases hsteps with
    | refuse e => exact .inr ⟨.inl rfl, w.cache, rfl⟩
    | find hvalid hfails hfound => exact .inr ⟨.inl rfl, w.cache, rfl⟩
    | reject e => exact .inr ⟨.inl rfl, w.cache, rfl⟩
    | check hchecked => exact .inr ⟨.inl rfl, w.cache, rfl⟩
    | fail hfails => exact .inr ⟨.inr (by simp [hfails]), w.cache, rfl⟩
    | replace hfails hreplaced =>
      exact .inl ⟨_, rfl, hfails, (congrArg Prod.fst hreplaced).symm⟩
    | vanish hfails hreplaced =>
      exact .inl ⟨_, rfl, hfails, (congrArg Prod.fst hreplaced).symm⟩
    | evict => exact .inr ⟨.inl rfl, _, rfl⟩
  | update u =>
    obtain ⟨⟨w₁, u'⟩, hadvance, heq⟩ := Option.map_eq_some_iff.mp h
    cases heq
    obtain ⟨hsteps, -⟩ := Update.advances_of_advance hadvance
    obtain ⟨actor, authenticatedUser, requestedUser, request, phase⟩ := u
    obtain ⟨actor', authenticatedUser', requestedUser', request', phase'⟩ := u'
    cases hsteps with
    | refuse e hphase =>
      refine .inr ⟨.inl ?_, w.cache, rfl⟩
      obtain rfl | ⟨targetUser, rfl⟩ := hphase <;> rfl
    | resolve hfails hresolved => exact .inr ⟨.inl rfl, w.cache, rfl⟩
    | find hfails hfound hchecked => exact .inr ⟨.inl rfl, w.cache, rfl⟩
    | fail hfails => exact .inr ⟨.inr (by simp [hfails]), w.cache, rfl⟩
    | replace hfails hreplaced =>
      exact .inl ⟨_, rfl, hfails, (congrArg Prod.fst hreplaced).symm⟩
    | vanish hfails hreplaced =>
      exact .inl ⟨_, rfl, hfails, (congrArg Prod.fst hreplaced).symm⟩
    | evict => exact .inr ⟨.inl rfl, _, rfl⟩
  | login l =>
    obtain ⟨⟨w₁, l'⟩, hadvance, heq⟩ := Option.map_eq_some_iff.mp h
    cases heq
    obtain ⟨hsteps, -⟩ := Login.advances_of_advance hadvance
    obtain ⟨request, phase⟩ := l
    obtain ⟨request', phase'⟩ := l'
    cases hsteps with
    | refuse e hphase =>
      obtain rfl | ⟨user, token, rfl, hrefused⟩ := hphase
      · exact .inr ⟨.inl rfl, w.cache, rfl⟩
      · cases hfails : choice.fails with
        | some e' => exact .inr ⟨.inr (by simp), w.cache, rfl⟩
        | none =>
          refine .inl ⟨_, rfl, rfl, ?_⟩
          rw [World.perform, hrefused hfails, Option.getD_none]
    | find hfails hfound hchecked => exact .inr ⟨.inl rfl, w.cache, rfl⟩
    | insert hfails hinserted =>
      refine .inl ⟨_, rfl, hfails, ?_⟩
      rw [World.perform, hinserted, Option.getD_some]

/-- A task that is about to make a change does not wait. -/
theorem write_of_waiting {w : World} {t : Task} {choice : Choice}
    (h : t.advance w choice = none) : t.write = none := by
  cases t with
  | requestPasscode q =>
    obtain ⟨email, phase⟩ := q
    cases phase with
    | storing hash expiresAt =>
      cases hfails : choice.fails <;>
        simp [Task.advance, PasscodeRequest.advance, hfails] at h
    | drawing => rfl
    | finished result => rfl
  | reset r =>
    obtain ⟨request, phase⟩ := r
    cases phase with
    | replacing userId hash =>
      cases hfails : choice.fails <;>
        simp only [Task.advance, Reset.advance, hfails, Option.map_eq_none_iff] at h
      · split at h <;> cases h
      · cases h
    | finding => rfl
    | checking found => rfl
    | evicting userId => rfl
    | finished result => rfl
  | update u =>
    obtain ⟨actor, authenticatedUser, requestedUser, request, phase⟩ := u
    cases phase with
    | replacing userId hash =>
      cases hfails : choice.fails <;>
        simp only [Task.advance, Update.advance, hfails, Option.map_eq_none_iff] at h
      · split at h <;> cases h
      · cases h
    | resolving => rfl
    | finding targetUser => rfl
    | evicting userId => rfl
    | finished result => rfl
  | login l =>
    obtain ⟨request, phase⟩ := l
    cases phase with
    | inserting user token =>
      cases hfails : choice.fails <;>
        simp only [Task.advance, Login.advance, hfails, Option.map_eq_none_iff] at h
      · split at h <;> cases h
      · cases h
    | finding => rfl
    | finished result => rfl

omit [Pbkdf2] [Base64Refusal] [Utf8Refusal] [Collation] [UuidText] in
theorem performed_eq_some {w : Pool World Task} {move : PasswordMove} {write : Write}
    (h : performed w move = some write) :
    ∃ k choice t, move = .run k choice ∧ choice.fails = none ∧ w.tasks[k]? = some t ∧
      t.write = some write := by
  cases move with
  | spawn op => cases h
  | outside event => cases h
  | run k choice =>
    rw [performed] at h
    split at h
    · cases h
    next hfails =>
      obtain ⟨t, htask, hwrite⟩ := Option.bind_eq_some_iff.mp h
      exact ⟨k, choice, t, rfl, hfails, htask, hwrite⟩

/-- What a move does to the tables. -/
inductive Effect (w : Pool World Task) (move : PasswordMove) : World → Prop where
  | write {write : Write} (hperformed : performed w move = some write) :
    Effect w move (w.shared.perform write)
  | none (cache : SessionCache) (hperformed : performed w move = none)
      (hinside : ∀ event, move ≠ .outside event) :
    Effect w move { w.shared with cache }
  | outside (event : Event) (hmove : move = .outside event) :
    Effect w move (w.shared.outside event)

theorem effect_step (w : Pool World Task) (move : PasswordMove) :
    Effect w move (program.step w move).shared := by
  cases move with
  | spawn op => exact .none w.shared.cache rfl fun event => by simp
  | outside event => exact .outside event rfl
  | run k choice =>
    have hinside (event : Event) : (.run k choice : PasswordMove) ≠ .outside event := by simp
    cases htask : w.tasks[k]? with
    | none =>
      have hstep : program.step w (.run k choice) = w := by simp only [Program.step, htask]
      rw [hstep]
      refine .none w.shared.cache ?_ hinside
      simp only [performed, htask, Option.bind_none]
      cases choice.fails <;> rfl
    | some t =>
      cases hadvance : t.advance w.shared choice with
      | none =>
        have hstep : program.step w (.run k choice) = w := by
          simp only [Program.step, htask]
          rw [show program.advance w.shared t choice = none from hadvance]
        rw [hstep]
        refine .none w.shared.cache ?_ hinside
        simp only [performed, htask, Option.bind_some, write_of_waiting hadvance]
        cases choice.fails <;> rfl
      | some next =>
        obtain ⟨w', t'⟩ := next
        have hstep : (program.step w (.run k choice)).shared = w' := by
          simp only [Program.step, htask]
          rw [show program.advance w.shared t choice = some (w', t') from hadvance]
        rw [hstep]
        obtain ⟨write, hwrite, hfails, rfl⟩ | ⟨hnone, cache, rfl⟩ := write_of_advance hadvance
        · refine .write ?_
          simp only [performed, htask, hfails, Option.bind_some, hwrite]
        · refine .none cache ?_ hinside
          simp only [performed, htask, Option.bind_some]
          obtain hwrite | hfails := hnone
          · rw [hwrite]
            cases choice.fails <;> rfl
          · cases hcase : choice.fails with
            | none => exact absurd hcase hfails
            | some e => rfl

end

/-! ## Who writes passcodes -/

/-- The columns of a passcode: its hash, and when it expires. -/
abbrev Passcode := List UInt8 × Option OffsetDateTime

def noPasscode : Passcode := ([], none)

def Credentials.passcode (row : Credentials) : Passcode :=
  (row.hashedOneTimePasscode, row.oneTimePasscodeExpiresAt)

def World.passcode (w : World) (userId : Uuid) : Option Passcode :=
  (w.credentials.lookup userId).map Credentials.passcode

/-- The users whose passcode a change writes. -/
def Write.passcodeLeases [Collation] (w : World) : Write → List (Lease.Event Uuid Passcode)
  | .passcode email passcodeHash expiresAt =>
    (w.credentials.entries.filter fun row => w.receivesPasscode email row.1 row.2).map fun row =>
      .acquire row.1 (utf8Bytes passcodeHash, some expiresAt)
  | .password userId passwordHash true =>
    if (w.replaceUserPassword userId passwordHash true).2 && (w.credentials.lookup userId).isSome
    then [.acquire userId noPasscode] else []
  | .password _ _ false => []
  | .session _ _ => []

def Event.passcodeLeases (w : World) : Event → List (Lease.Event Uuid Passcode)
  | .insertUser userId _ _ _ =>
    if (w.credentials.lookup userId).isNone then [.acquire userId noPasscode] else []
  | _ => []

def passcodeLeases [Collation] [Sha256] (w : Pool World Task) (move : PasswordMove) :
    List (Lease.Event Uuid Passcode) :=
  match performed w move, move with
  | some write, _ => write.passcodeLeases w.shared
  | none, .outside event => event.passcodeLeases w.shared
  | none, _ => []

theorem foldl_acquire (keys : List Uuid) (token : Passcode) (h : Uuid → Option Passcode)
    (key : Uuid) :
    (keys.map fun k => Lease.Event.acquire k token).foldl Lease.apply h key =
      if key ∈ keys then some token else h key := by
  induction keys generalizing h with
  | nil => simp
  | cons first keys ih =>
    rw [List.map_cons, List.foldl_cons, ih]
    by_cases hkeys : key ∈ keys
    · rw [if_pos hkeys, if_pos (List.mem_cons_of_mem _ hkeys)]
    · by_cases hfirst : key = first
      · subst hfirst
        rw [if_neg hkeys, if_pos List.mem_cons_self]
        exact Function.update_self _ _ _
      · rw [if_neg hkeys, if_neg (by simp [hfirst, hkeys])]
        exact Function.update_of_ne hfirst _ _

theorem replaceUserPassword_of_false {w : World} {userId : Uuid} {hash : String} {clear : Bool}
    (h : (w.replaceUserPassword userId hash clear).2 = false) :
    (w.replaceUserPassword userId hash clear).1 = w := by
  unfold World.replaceUserPassword at h ⊢
  split
  next store hreplaced =>
    have hfalse : (w.store.replaceUserPassword userId).2 = false := congrArg Prod.snd hreplaced
    have hstore := Store.replaceUserPassword_of_false hfalse
    rw [hreplaced] at hstore
    subst hstore
    rfl
  next store hreplaced =>
    rw [hreplaced] at h
    cases h

/-- A replacement writes the row of its user alone. -/
theorem lookup_replaceUserPassword {w : World} {userId : Uuid} {hash : String} {clear : Bool}
    (h : (w.replaceUserPassword userId hash clear).2 = true) (id : Uuid) :
    (w.replaceUserPassword userId hash clear).1.credentials.lookup id =
      (w.credentials.lookup id).map fun row =>
        if id = userId then
          { row with
            hashedPassword := utf8Bytes hash
            hashedOneTimePasscode := if clear then [] else row.hashedOneTimePasscode
            oneTimePasscodeExpiresAt := if clear then none else row.oneTimePasscodeExpiresAt }
        else row := by
  unfold World.replaceUserPassword at h ⊢
  split
  next store hreplaced =>
    rw [hreplaced] at h
    cases h
  · exact HashMap.lookup_mapValues _ _ _

theorem credentials_insertAuthSession (w : World) (tokenHash : List UInt8) (userId : Uuid) :
    ((w.insertAuthSession tokenHash userId).getD w).credentials = w.credentials := by
  unfold World.insertAuthSession
  split <;> rfl

section

variable [Collation]

theorem passcode_perform (w : World) (write : Write) :
    (w.perform write).passcode = (write.passcodeLeases w).foldl Lease.apply w.passcode := by
  cases write with
  | passcode email hash expiresAt =>
    funext id
    have hleases : Write.passcodeLeases w (.passcode email hash expiresAt) =
        ((w.credentials.entries.filter fun row => w.receivesPasscode email row.1 row.2).map
          Sigma.fst).map fun k => .acquire k (utf8Bytes hash, some expiresAt) := by
      rw [Write.passcodeLeases, List.map_map]
      rfl
    rw [hleases, foldl_acquire, World.passcode, World.perform, World.storeOneTimePasscodeByEmail,
      HashMap.lookup_mapValues]
    cases hlookup : w.credentials.lookup id with
    | none =>
      rw [if_neg]
      · simp [World.passcode, hlookup]
      · intro hmem
        obtain ⟨row, hrow, rfl⟩ := List.mem_map.mp hmem
        have hentry := AList.mem_lookup_iff.mpr (List.mem_of_mem_filter hrow)
        rw [hlookup] at hentry
        cases hentry
    | some row =>
      have hentry : (⟨id, row⟩ : (_ : Uuid) × Credentials) ∈ w.credentials.entries :=
        AList.mem_lookup_iff.mp hlookup
      by_cases hreceives : w.receivesPasscode email id row = true
      · rw [if_pos]
        · simp [hreceives, Credentials.passcode]
        · exact List.mem_map.mpr ⟨⟨id, row⟩, List.mem_filter.mpr ⟨hentry, hreceives⟩, rfl⟩
      · rw [if_neg]
        · simp [hreceives, World.passcode, hlookup]
        · intro hmem
          obtain ⟨⟨id', row'⟩, hrow, rfl⟩ := List.mem_map.mp hmem
          obtain ⟨hrow, hreceives'⟩ := List.mem_filter.mp hrow
          have hentry' := AList.mem_lookup_iff.mpr hrow
          rw [hlookup] at hentry'
          cases hentry'
          exact hreceives hreceives'
  | password userId hash clear =>
    cases hreplaced : (w.replaceUserPassword userId hash clear).2 with
    | false =>
      rw [World.perform, replaceUserPassword_of_false hreplaced]
      cases clear with
      | false => rfl
      | true =>
        rw [Write.passcodeLeases, hreplaced]
        rfl
    | true =>
      funext id
      rw [World.passcode, World.perform, lookup_replaceUserPassword hreplaced]
      cases clear with
      | false =>
        rw [Write.passcodeLeases, List.foldl_nil, World.passcode]
        cases w.credentials.lookup id with
        | none => rfl
        | some row =>
          by_cases hid : id = userId <;> simp [hid, Credentials.passcode]
      | true =>
        rw [Write.passcodeLeases, hreplaced]
        cases hlookup : w.credentials.lookup userId with
        | none =>
          simp only [Option.isSome_none, Bool.and_false, Bool.false_eq_true, if_false,
            List.foldl_nil, World.passcode]
          by_cases hid : id = userId
          · subst hid
            rw [hlookup]
            rfl
          · cases w.credentials.lookup id <;> simp [hid]
        | some row =>
          simp only [Option.isSome_some, Bool.and_self, if_true, List.foldl_cons, List.foldl_nil,
            Lease.apply]
          by_cases hid : id = userId
          · subst hid
            rw [Function.update_self, hlookup]
            simp [Credentials.passcode, noPasscode]
          · rw [Function.update_of_ne hid, World.passcode]
            cases w.credentials.lookup id <;> simp [hid]
  | session tokenHash userId =>
    rw [Write.passcodeLeases, List.foldl_nil]
    funext id
    rw [World.passcode, World.perform, credentials_insertAuthSession, World.passcode]

omit [Collation] in
theorem passcode_outside (w : World) (event : Event) :
    (w.outside event).passcode = (event.passcodeLeases w).foldl Lease.apply w.passcode := by
  funext id
  cases event with
  | insertUser userId row email hash =>
    rw [Event.passcodeLeases, World.passcode, World.outside]
    cases hlookup : w.credentials.lookup userId with
    | some row' =>
      simp [World.passcode]
    | none =>
      simp only [Option.isNone_none, if_true, List.foldl_cons, List.foldl_nil, Lease.apply,
        HashMap.lookup_insert_ite]
      by_cases hid : id = userId
      · subst hid
        rw [Function.update_self, if_pos rfl]
        rfl
      · rw [Function.update_of_ne hid, if_neg hid, World.passcode]
  | updateUser userId row email =>
    show (w.outside (.updateUser userId row email)).passcode id = w.passcode id
    rw [World.passcode, World.outside, HashMap.lookup_mapValues, World.passcode]
    cases w.credentials.lookup id with
    | none => rfl
    | some row' =>
      by_cases hid : id = userId <;> simp [hid, Credentials.passcode]
  | insertAuthSession tokenHash userId =>
    show (w.outside (.insertAuthSession tokenHash userId)).passcode id = w.passcode id
    rw [World.passcode, World.outside, credentials_insertAuthSession, World.passcode]
  | createApiKey key =>
    show (w.outside (.createApiKey key)).passcode id = w.passcode id
    rw [World.passcode, World.outside]
    cases w.store.createApiKey key <;> rfl
  | setClock now => rfl
  | setMemberships memberships => rfl
  | deleteAuthSession tokenHash => rfl
  | deleteApiKey id => rfl
  | cacheSession tokenHash user count clock => rfl

end

/-- The move writes the columns of the user's passcode: with a new one, or by clearing them. -/
def writesPasscode [Collation] [Sha256] (w : Pool World Task) (move : PasswordMove)
    (userId : Uuid) : Bool :=
  (passcodeLeases w move).any fun lease => lease.displaces userId

section

variable [Pbkdf2] [Base64Refusal] [Utf8Refusal] [Collation] [UuidText] [Sha256]

theorem passcode_step (w : Pool World Task) (move : PasswordMove) :
    (program.step w move).shared.passcode =
      (passcodeLeases w move).foldl Lease.apply w.shared.passcode := by
  have heffect := effect_step w move
  generalize (program.step w move).shared = after at heffect ⊢
  cases heffect with
  | write hperformed =>
    simp only [passcodeLeases, hperformed]
    exact passcode_perform _ _
  | none cache hperformed hinside =>
    have hleases : passcodeLeases w move = [] := by
      unfold passcodeLeases
      rw [hperformed]
      cases move with
      | outside event => exact absurd rfl (hinside event)
      | spawn op => rfl
      | run k choice => rfl
    rw [hleases]
    rfl
  | outside event hmove =>
    subst hmove
    exact passcode_outside _ _

omit [Pbkdf2] [Base64Refusal] [Utf8Refusal] [UuidText] in
/-- A passcode that expires has been stored for a request with the user's address. -/
theorem request_of_acquire {w : Pool World Task} {move : PasswordMove} {userId : Uuid}
    {bytes : List UInt8} {expiresAt : OffsetDateTime}
    (h : .acquire userId (bytes, some expiresAt) ∈ passcodeLeases w move) :
    ∃ i choice email hash row, move = .run i choice ∧
      w.tasks[i]? = some (.requestPasscode ⟨email, .storing hash expiresAt⟩) ∧
      bytes = utf8Bytes hash ∧ w.shared.credentials.lookup userId = some row ∧
      w.shared.receivesPasscode (trim email) userId row = true := by
  unfold passcodeLeases at h
  split at h
  next write hperformed =>
    obtain ⟨i, choice, t, hmove, -, htask, hwrite⟩ := performed_eq_some hperformed
    cases write with
    | passcode email hash expires =>
      obtain ⟨⟨id, row⟩, hrow, heq⟩ := List.mem_map.mp h
      cases heq
      obtain ⟨hentry, hreceives⟩ := List.mem_filter.mp hrow
      unfold Task.write at hwrite
      split at hwrite
      next email' hash' expires' =>
        cases hwrite
        exact ⟨i, choice, email', hash, row, hmove, htask, rfl, AList.mem_lookup_iff.mpr hentry,
          hreceives⟩
      all_goals cases hwrite
    | password id hash clear =>
      cases clear with
      | false => cases h
      | true =>
        rw [Write.passcodeLeases] at h
        split at h
        · cases List.mem_singleton.mp h
        · cases h
    | session tokenHash id => cases h
  next event hperformed =>
    cases event with
    | insertUser id row email hash =>
      rw [Event.passcodeLeases] at h
      split at h
      · cases List.mem_singleton.mp h
      · cases h
    | setClock now => cases h
    | updateUser id row email => cases h
    | setMemberships memberships => cases h
    | insertAuthSession tokenHash id => cases h
    | deleteAuthSession tokenHash => cases h
    | createApiKey key => cases h
    | deleteApiKey id => cases h
    | cacheSession tokenHash user count clock => cases h
  · cases h

end

/-! ## How a call came to where it is -/

/-- The server after the moves. -/
def reached [Pbkdf2] [Base64Refusal] [Utf8Refusal] [Collation] [UuidText] [Sha256]
    (ttl : CryptoKeys.Duration) (moves : List PasswordMove) : Pool World Task :=
  program.run (start ttl) moves

section

variable [Pbkdf2] [Base64Refusal] [Utf8Refusal] [Collation] [UuidText] [Sha256]
  {ttl : CryptoKeys.Duration} {moves : List PasswordMove} {k : Nat}

omit [Base64Refusal] [Utf8Refusal] [Collation] [UuidText] [Sha256] [Pbkdf2] in
theorem map_eq_some_pair {α β : Type} {f : β → Task} {next : Option (α × β)} {a : α} {t : Task}
    (h : next.map (fun (a, b) => (a, f b)) = some (a, t)) : ∃ b, next = some (a, b) ∧ f b = t := by
  obtain ⟨⟨a', b⟩, hnext, heq⟩ := Option.map_eq_some_iff.mp h
  cases heq
  exact ⟨b, hnext, rfl⟩

theorem request_entered {q : PasscodeRequest} {P : RequestPhase → Prop} (hdrawing : ¬ P .drawing)
    (htask : (reached ttl moves).tasks[k]? = some (.requestPasscode q)) (hP : P q.phase) :
    ∃ before choice after phase w phase', moves = before ++ .run k choice :: after ∧
      (reached ttl before).tasks[k]? = some (.requestPasscode ⟨q.email, phase⟩) ∧ ¬ P phase ∧
      PasscodeRequest.Advances (reached ttl before).shared choice q.email phase w phase' ∧
      P phase' := by
  have henter (op : Op) : ¬ ∃ phase, program.enter op = .requestPasscode ⟨q.email, phase⟩ ∧
      P phase := by
    rintro ⟨phase, henter, hphase⟩
    cases op with
    | requestPasscode email =>
      cases henter
      exact hdrawing hphase
    | reset request => cases henter
    | update actor authenticatedUser requestedUser request => cases henter
    | login request => cases henter
  obtain ⟨before, choice, after, t, w, t', hmoves, hbefore, hnot, hadvance, phase', rfl, hP'⟩ :=
    program.enters_of_task (Q := fun t => ∃ phase, t = .requestPasscode ⟨q.email, phase⟩ ∧ P phase)
      henter htask ⟨q.phase, rfl, hP⟩
  replace hadvance : t.advance (reached ttl before).shared choice = some (w, _) := hadvance
  cases t with
  | requestPasscode q₀ =>
    obtain ⟨q₁, hq, heq⟩ := map_eq_some_pair hadvance
    cases heq
    obtain ⟨hsteps, hemail⟩ := PasscodeRequest.advances_of_advance hq
    obtain ⟨email, phase⟩ := q₀
    dsimp only at hemail hsteps
    subst hemail
    exact ⟨before, choice, after, phase, w, phase', hmoves, hbefore,
      fun hphase => hnot ⟨phase, rfl, hphase⟩, hsteps, hP'⟩
  | reset r => cases (map_eq_some_pair hadvance).choose_spec.2
  | update u => cases (map_eq_some_pair hadvance).choose_spec.2
  | login l => cases (map_eq_some_pair hadvance).choose_spec.2

theorem reset_entered {r : Reset} {P : ResetPhase → Prop} (hfinding : ¬ P .finding)
    (htask : (reached ttl moves).tasks[k]? = some (.reset r)) (hP : P r.phase) :
    ∃ before choice after phase w phase', moves = before ++ .run k choice :: after ∧
      (reached ttl before).tasks[k]? = some (.reset ⟨r.request, phase⟩) ∧ ¬ P phase ∧
      Reset.Advances (reached ttl before).shared choice r.request phase w phase' ∧ P phase' := by
  have henter (op : Op) : ¬ ∃ phase, program.enter op = .reset ⟨r.request, phase⟩ ∧ P phase := by
    rintro ⟨phase, henter, hphase⟩
    cases op with
    | reset request =>
      cases henter
      exact hfinding hphase
    | requestPasscode email => cases henter
    | update actor authenticatedUser requestedUser request => cases henter
    | login request => cases henter
  obtain ⟨before, choice, after, t, w, t', hmoves, hbefore, hnot, hadvance, phase', rfl, hP'⟩ :=
    program.enters_of_task (Q := fun t => ∃ phase, t = .reset ⟨r.request, phase⟩ ∧ P phase)
      henter htask ⟨r.phase, rfl, hP⟩
  replace hadvance : t.advance (reached ttl before).shared choice = some (w, _) := hadvance
  cases t with
  | reset r₀ =>
    obtain ⟨r₁, hr, heq⟩ := map_eq_some_pair hadvance
    cases heq
    obtain ⟨hsteps, hrequest⟩ := Reset.advances_of_advance hr
    obtain ⟨request, phase⟩ := r₀
    dsimp only at hrequest hsteps
    subst hrequest
    exact ⟨before, choice, after, phase, w, phase', hmoves, hbefore,
      fun hphase => hnot ⟨phase, rfl, hphase⟩, hsteps, hP'⟩
  | requestPasscode q => cases (map_eq_some_pair hadvance).choose_spec.2
  | update u => cases (map_eq_some_pair hadvance).choose_spec.2
  | login l => cases (map_eq_some_pair hadvance).choose_spec.2

theorem update_entered {u : Update} {P : UpdatePhase → Prop} (hresolving : ¬ P .resolving)
    (htask : (reached ttl moves).tasks[k]? = some (.update u)) (hP : P u.phase) :
    ∃ before choice after phase w phase', moves = before ++ .run k choice :: after ∧
      (reached ttl before).tasks[k]? = some (.update { u with phase }) ∧ ¬ P phase ∧
      Update.Advances (reached ttl before).shared choice { u with phase } phase w phase' ∧
      P phase' := by
  have henter (op : Op) : ¬ ∃ phase, program.enter op = .update { u with phase } ∧ P phase := by
    rintro ⟨phase, henter, hphase⟩
    cases op with
    | update actor authenticatedUser requestedUser request =>
      injection henter with heq
      obtain rfl : UpdatePhase.resolving = phase := congrArg Update.phase heq
      exact hresolving hphase
    | requestPasscode email => cases henter
    | reset request => cases henter
    | login request => cases henter
  obtain ⟨before, choice, after, t, w, t', hmoves, hbefore, hnot, hadvance, phase', rfl, hP'⟩ :=
    program.enters_of_task (Q := fun t => ∃ phase, t = .update { u with phase } ∧ P phase)
      henter htask ⟨u.phase, rfl, hP⟩
  replace hadvance : t.advance (reached ttl before).shared choice = some (w, _) := hadvance
  cases t with
  | update u₀ =>
    obtain ⟨u₁, hu, heq⟩ := map_eq_some_pair hadvance
    injection heq with heq
    subst heq
    obtain ⟨hsteps, hsame⟩ := Update.advances_of_advance hu
    have hu₀ : u₀ = { u with phase := u₀.phase } := by
      obtain ⟨actor, authenticatedUser, requestedUser, request, phase⟩ := u
      obtain ⟨actor₀, authenticatedUser₀, requestedUser₀, request₀, phase₀⟩ := u₀
      cases hsame
      rfl
    rw [hu₀] at hbefore hsteps
    exact ⟨before, choice, after, u₀.phase, w, phase', hmoves, hbefore,
      fun hphase => hnot ⟨u₀.phase, by rw [← hu₀], hphase⟩, hsteps, hP'⟩
  | requestPasscode q => cases (map_eq_some_pair hadvance).choose_spec.2
  | reset r => cases (map_eq_some_pair hadvance).choose_spec.2
  | login l => cases (map_eq_some_pair hadvance).choose_spec.2

end

/-! ## Resets -/

/-- The user whose password the reset may replace, once it has come through the checks. -/
def ResetPhase.passed : ResetPhase → Option Uuid
  | .replacing userId _ | .evicting userId | .finished (.ok userId) => some userId
  | _ => none

def UpdatePhase.passed : UpdatePhase → Option Uuid
  | .replacing userId _ | .evicting userId | .finished (.ok userId) => some userId
  | _ => none

section

variable [Pbkdf2] [Base64Refusal] [Utf8Refusal] [Collation] [UuidText] [Sha256]
  {ttl : CryptoKeys.Duration} {moves : List PasswordMove} {k : Nat} {userId : Uuid}

/-- A reset has come through the checks with a passcode that it had found in the user's row. -/
theorem found_of_passed {r : Reset} (hr : (reached ttl moves).tasks[k]? = some (.reset r))
    (hpassed : r.phase.passed = some userId) :
    ∃ untilFound finding waiting untilChecked checking rest bytes hash expiresAt,
      untilChecked = untilFound ++ .run k finding :: waiting ∧
      moves = untilChecked ++ .run k checking :: rest ∧
      (reached ttl untilFound).tasks[k]? = some (.reset ⟨r.request, .finding⟩) ∧
      (reached ttl untilFound).shared.passcode userId = some (bytes, some expiresAt) ∧
      fromUtf8 bytes = some hash ∧ (reached ttl untilChecked).shared.now < expiresAt ∧
      verifyPassword hash r.request.oneTimePasscode = .ok true := by
  obtain ⟨untilChecked, checking, rest, phase, w, phase', hmoves, hchecked, hnot, hsteps,
    hphase'⟩ :=
    reset_entered (P := fun phase => phase.passed = some userId) (by simp [ResetPhase.passed]) hr
      hpassed
  cases hsteps with
  | check hcheck =>
    rename_i found id
    obtain rfl : id = userId := by simpa [ResetPhase.passed] using hphase'
    obtain ⟨record, rfl, hid, hmatches, -⟩ := checkReset_eq_ok hcheck
    obtain ⟨hash, expiresAt, hhash, hexpires, hlater, hverified⟩ :=
      passcodeMatches_eq_ok_true hmatches
    obtain ⟨untilFound, finding, waiting, phase, w', phase', huntil, htask, hnot', hsteps',
      hphase'⟩ := reset_entered (P := fun phase => phase = .checking (some record)) (by simp)
        hchecked rfl
    cases hsteps' with
    | find hvalid hfails hfound =>
      cases hphase'
      have hbyId := findPasswordUserByEmail_eq_ok hfound
      rw [hid] at hbyId
      obtain ⟨-, row, hrow, hrecord⟩ := findPasswordUserById_eq_ok hbyId
      obtain ⟨-, -, hrowExpires, hrowHash⟩ := passwordRecordFromRow_eq_ok hrecord
      obtain ⟨-, hread⟩ := hrowHash hash hhash
      refine ⟨untilFound, finding, waiting, untilChecked, checking, rest, row.hashedOneTimePasscode,
        hash, expiresAt, huntil, hmoves, htask, ?_, hread, hlater, hverified⟩
      rw [World.passcode, hrow, Option.map_some, Credentials.passcode, ← hrowExpires, hexpires]
    | refuse e => cases hphase'
    | reject e => cases hphase'
    | check hcheck' => cases hphase'
    | fail hfails => cases hphase'
    | replace hfails hreplaced => cases hphase'
    | vanish hfails hreplaced => cases hphase'
    | evict => cases hphase'
  | refuse e => simp [ResetPhase.passed] at hphase'
  | find hvalid hfails hfound => simp [ResetPhase.passed] at hphase'
  | reject e => simp [ResetPhase.passed] at hphase'
  | fail hfails => simp [ResetPhase.passed] at hphase'
  | replace hfails hreplaced => exact absurd hphase' hnot
  | vanish hfails hreplaced => simp [ResetPhase.passed] at hphase'
  | evict => exact absurd hphase' hnot

/-- A passcode that a row has and that expires was stored for a request, and nothing has written
the columns since. -/
theorem stored_of_passcode {bytes : List UInt8} {expiresAt : OffsetDateTime}
    (h : (reached ttl moves).shared.passcode userId = some (bytes, some expiresAt)) :
    ∃ untilStored i storing valid email hash row, moves = untilStored ++ .run i storing :: valid ∧
      (reached ttl untilStored).tasks[i]? =
        some (.requestPasscode ⟨email, .storing hash expiresAt⟩) ∧
      bytes = utf8Bytes hash ∧
      (reached ttl untilStored).shared.credentials.lookup userId = some row ∧
      (reached ttl untilStored).shared.receivesPasscode (trim email) userId row = true ∧
      Along program.step (fun w move => writesPasscode w move userId = false)
        (reached ttl (untilStored ++ [.run i storing])) valid := by
  have hstart : (start ttl).shared.passcode userId ≠ some (bytes, some expiresAt) := by
    simp [start, World.passcode]
  obtain ⟨untilStored, move, valid, hsplit, hacquire, hkept⟩ :=
    @Lease.exists_acquiring _ _ _ _ _ _ _ _ (fun w : Pool World Task => w.shared.passcode)
      passcode_step (start ttl) moves userId (bytes, some expiresAt) hstart h
  obtain ⟨i, storing, email, hash, row, rfl, htask, hbytes, hrow, hreceives⟩ :=
    request_of_acquire hacquire
  refine ⟨untilStored, i, storing, valid, email, hash, row, hsplit, htask, hbytes, hrow, hreceives,
    ?_⟩
  rw [reached, Program.run_concat]
  refine hkept.imp fun w move hends => ?_
  rw [writesPasscode, List.any_eq_false]
  intro lease hlease
  have hnot := hends lease hlease
  cases lease with
  | release key token => simp [Lease.Event.displaces]
  | acquire key token => simpa [Lease.Event.ends] using hnot
  | revoke key => simpa [Lease.Event.ends] using hnot

/-- What a request is about to store it has drawn before. -/
theorem drawn_of_storing {email hash : String} {expiresAt : OffsetDateTime}
    (h : (reached ttl moves).tasks[k]? = some (.requestPasscode ⟨email, .storing hash expiresAt⟩)) :
    ∃ asked drawing pending, moves = asked ++ .run k drawing :: pending ∧
      hash = hashPassword (UuidText.display drawing.passcode) drawing.salt ∧
      (reached ttl asked).shared.now.add (oneTimePasscodeValiditySecs * 10 ^ 9) =
        some expiresAt := by
  obtain ⟨asked, drawing, pending, phase, w, phase', hmoves, -, hnot, hsteps, hphase'⟩ :=
    request_entered (P := fun phase => phase = .storing hash expiresAt) (by simp) h rfl
  cases hsteps with
  | draw hexpires =>
    cases hphase'
    exact ⟨asked, drawing, pending, hmoves, rfl, hexpires⟩
  | refuse e => cases hphase'
  | fail hfails => cases hphase'
  | store hfails => cases hphase'

/-- In every run, a reset comes through the checks only with a text from which the same key is
derived as from a passcode that was drawn less than half an hour before, for a request with the
address of the user; and from the moment the passcode was stored until the reset read it, no other
one was stored for the user and no other reset used it up. -/
theorem reset_justified (ttl : CryptoKeys.Duration) (moves : List PasswordMove) (k : Nat)
    (r : Reset) (userId : Uuid) (hr : (reached ttl moves).tasks[k]? = some (.reset r))
    (hpassed : r.phase.passed = some userId) :
    ∃ asked i drawing pending untilStored storing valid untilFound finding waiting untilChecked
      checking rest email hash expiresAt row,
      untilStored = asked ++ .run i drawing :: pending ∧
      untilFound = untilStored ++ .run i storing :: valid ∧
      untilChecked = untilFound ++ .run k finding :: waiting ∧
      moves = untilChecked ++ .run k checking :: rest ∧
      Pbkdf2.derive (UuidText.display drawing.passcode) drawing.salt.toList hashIterations =
        Pbkdf2.derive r.request.oneTimePasscode drawing.salt.toList hashIterations ∧
      (reached ttl untilChecked).shared.now.unixNanos <
        (reached ttl asked).shared.now.unixNanos + 30 * 60 * 10 ^ 9 ∧
      (reached ttl untilStored).tasks[i]? =
        some (.requestPasscode ⟨email, .storing hash expiresAt⟩) ∧
      (reached ttl untilStored).shared.credentials.lookup userId = some row ∧
      (reached ttl untilStored).shared.receivesPasscode (trim email) userId row = true ∧
      Along program.step (fun w move => writesPasscode w move userId = false)
        (reached ttl (untilStored ++ [.run i storing])) valid := by
  obtain ⟨untilFound, finding, waiting, untilChecked, checking, rest, bytes, hash, expiresAt,
    hchecked, hmoves, -, hpasscode, hread, hlater, hverified⟩ := found_of_passed hr hpassed
  obtain ⟨untilStored, i, storing, valid, email, stored, row, hsplit, htask, rfl, hrow,
    hreceives, hkept⟩ := stored_of_passcode hpasscode
  obtain ⟨asked, drawing, pending, hasked, hdrawn, hadd⟩ := drawn_of_storing htask
  have hsame : stored = hash := by
    rw [fromUtf8_utf8Bytes] at hread
    exact Option.some.inj hread
  refine ⟨asked, i, drawing, pending, untilStored, storing, valid, untilFound, finding, waiting,
    untilChecked, checking, rest, email, stored, expiresAt, row, hasked, hsplit, hchecked, hmoves,
    ?_, ?_, htask, hrow, hreceives, hkept⟩
  · rw [← hsame, hdrawn, hashPassword, verifyPassword_encodePasswordHash] at hverified
    simpa using hverified
  · have hnanos : expiresAt.unixNanos =
        (reached ttl asked).shared.now.unixNanos + 30 * 60 * 10 ^ 9 := by
      unfold OffsetDateTime.add at hadd
      split at hadd
      · cases hadd
        rfl
      · cases hadd
    rw [← hnanos]
    exact hlater

end

section

attribute [local instance] samplePbkdf2 sampleBase64Refusal sampleUtf8Refusal sampleCollation
  sampleSha256 Uuid.hyphenated

theorem reached_sampleInsert (moves : List PasswordMove) :
    reached (.fromSecs 30) (sampleInsert :: moves) = program.run sampleServer moves := rfl

theorem reset_justified_sample :
    ∃ asked i drawing rest, sampleInsert :: sampleMoves = asked ++ .run i drawing :: rest ∧
      Pbkdf2.derive (UuidText.display drawing.passcode) drawing.salt.toList hashIterations =
        Pbkdf2.derive (UuidText.display .nil) drawing.salt.toList hashIterations := by
  have hr : (reached (.fromSecs 30) (sampleInsert :: sampleMoves)).tasks[1]? =
      some (.reset ⟨⟨"a@b.c", "new password", UuidText.display .nil⟩,
        .replacing ⟨1⟩ (hashPassword "new password" sampleChoice.salt)⟩) := by
    obtain ⟨checked, row, hchecked, htasks, -⟩ := run_sampleMoves
    rw [reached_sampleInsert, hchecked, htasks]
    rfl
  obtain ⟨asked, i, drawing, pending, untilStored, storing, valid, untilFound, finding, waiting,
    untilChecked, checking, rest, -, -, -, -, hstored, hfound, hchecked, hmoves, hderive, -⟩ :=
    reset_justified (.fromSecs 30) (sampleInsert :: sampleMoves) 1 _ ⟨1⟩ hr rfl
  refine ⟨asked, i, drawing, pending ++ .run i storing :: (valid ++ .run 1 finding ::
    (waiting ++ .run 1 checking :: rest)), ?_, hderive⟩
  rw [hmoves, hchecked, hfound, hstored]
  simp

end

section

variable [Pbkdf2] [Base64Refusal] [Utf8Refusal] [Collation] [UuidText] [Sha256]
  {ttl : CryptoKeys.Duration} {moves : List PasswordMove} {k : Nat} {userId : Uuid}

/-! ## A passcode is used once -/

omit [Pbkdf2] [Base64Refusal] [Utf8Refusal] [UuidText] in
theorem acquire_of_mem {w : Pool World Task} {move : PasswordMove}
    {lease : Lease.Event Uuid Passcode} (h : lease ∈ passcodeLeases w move) :
    ∃ id passcode, lease = .acquire id passcode := by
  unfold passcodeLeases at h
  split at h
  next write hperformed =>
    cases write with
    | passcode email hash expires =>
      obtain ⟨row, -, rfl⟩ := List.mem_map.mp h
      exact ⟨_, _, rfl⟩
    | password id hash clear =>
      cases clear with
      | false => cases h
      | true =>
        rw [Write.passcodeLeases] at h
        split at h
        · exact ⟨_, _, List.mem_singleton.mp h⟩
        · cases h
    | session tokenHash id => cases h
  next event hperformed =>
    unfold Event.passcodeLeases at h
    split at h
    · split at h
      · exact ⟨_, _, List.mem_singleton.mp h⟩
      · cases h
    · cases h
  · cases h

/-- Rows stay. -/
theorem passcode_kept {w : Pool World Task} (later : List PasswordMove)
    (h : (w.shared.passcode userId).isSome) :
    ((program.run w later).shared.passcode userId).isSome := by
  refine List.foldlRecOn (motive := fun w' : Pool World Task => (w'.shared.passcode userId).isSome)
    later _ h fun w' h' move _ => ?_
  rw [passcode_step]
  refine List.foldlRecOn (motive := fun held : Uuid → Option Passcode => (held userId).isSome)
    _ _ h' ?_
  intro held hheld lease hlease
  obtain ⟨id, passcode, rfl⟩ := acquire_of_mem hlease
  by_cases hid : userId = id
  · subst hid
    simp [Lease.apply]
  · rwa [Lease.apply, Function.update_of_ne hid]

omit [Pbkdf2] [Base64Refusal] [Utf8Refusal] [UuidText] in
/-- A reset that replaces the password clears the passcode. -/
theorem writesPasscode_of_replacing {w : Pool World Task} {j : Nat} {choice : Choice}
    {request : ChangePasswordWithOneTimePasscodeRequest} {hash : String}
    (htask : w.tasks[j]? = some (.reset ⟨request, .replacing userId hash⟩))
    (hfails : choice.fails = none)
    (hreplaced : (w.shared.replaceUserPassword userId hash true).2 = true)
    (hrow : (w.shared.passcode userId).isSome) :
    writesPasscode w (.run j choice) userId = true := by
  have hperformed : performed w (.run j choice) = some (.password userId hash true) := by
    simp only [performed, hfails, htask, Option.bind_some, Task.write]
  have hlookup : (w.shared.credentials.lookup userId).isSome := by
    rwa [World.passcode, Option.isSome_map] at hrow
  unfold writesPasscode passcodeLeases
  rw [hperformed]
  simp [Write.passcodeLeases, hreplaced, hlookup, Lease.Event.displaces]

omit [Pbkdf2] [Base64Refusal] [Utf8Refusal] [Collation] [UuidText] [Sha256] in
/-- Two places of one list: the first is before the second, it is the same, or it is after it. -/
theorem cases_of_append_cons {α : Type} {a a' : α} {before after before' after' : List α}
    (h : before ++ a :: after = before' ++ a' :: after') :
    (∃ mid, before' = before ++ a :: mid ∧ after = mid ++ a' :: after') ∨
      (before = before' ∧ a = a') ∨
      ∃ mid, before = before' ++ a' :: mid ∧ after' = mid ++ a :: after := by
  obtain ⟨mid, hbefore, hafter⟩ | ⟨mid, hbefore, hafter⟩ := List.append_eq_append_iff.mp h
  · cases mid with
    | nil =>
      obtain ⟨rfl, -⟩ := List.cons.inj hafter
      exact .inr (.inl ⟨by simpa using hbefore.symm, rfl⟩)
    | cons b mid =>
      obtain ⟨rfl, hafter⟩ := List.cons.inj hafter
      exact .inl ⟨mid, hbefore, by simpa using hafter⟩
  · cases mid with
    | nil =>
      obtain ⟨rfl, -⟩ := List.cons.inj hafter
      exact .inr (.inl ⟨by simpa using hbefore, rfl⟩)
    | cons b mid =>
      obtain ⟨rfl, hafter⟩ := List.cons.inj hafter
      exact .inr (.inr ⟨mid, hbefore, by simpa using hafter⟩)

/-- When a reset has replaced a password, one that is started later comes through the checks for
the same user only if a new passcode has been stored for the user in between. -/
theorem passcode_used_once (ttl : CryptoKeys.Duration) (first second : List PasswordMove)
    (j : Nat) (choice : Choice) (request : ChangePasswordWithOneTimePasscodeRequest)
    (hash : String) (userId : Uuid) (k : Nat) (r : Reset)
    (hj : (reached ttl first).tasks[j]? = some (.reset ⟨request, .replacing userId hash⟩))
    (hfails : choice.fails = none)
    (hreplaced : ((reached ttl first).shared.replaceUserPassword userId hash true).2 = true)
    (hlater : (reached ttl first).tasks.length ≤ k)
    (hr : (reached ttl (first ++ .run j choice :: second)).tasks[k]? = some (.reset r))
    (hpassed : r.phase.passed = some userId) :
    ∃ mid i storing later email newHash expiresAt row, second = mid ++ .run i storing :: later ∧
      (reached ttl (first ++ .run j choice :: mid)).tasks[i]? =
        some (.requestPasscode ⟨email, .storing newHash expiresAt⟩) ∧
      (reached ttl (first ++ .run j choice :: mid)).shared.credentials.lookup userId = some row ∧
      (reached ttl (first ++ .run j choice :: mid)).shared.receivesPasscode (trim email) userId
        row = true := by
  obtain ⟨untilFound, finding, waiting, untilChecked, checking, rest, bytes, -, expiresAt, hchecked,
    hmoves, hfinding, hpasscode, -, -, -⟩ := found_of_passed hr hpassed
  obtain ⟨untilStored, i, storing, valid, email, newHash, row, hsplit, htask, -, hrow, hreceives,
    hkept⟩ := stored_of_passcode hpasscode
  -- the second reset is not there before the first one has replaced the password
  have hstarted : ¬ k < (reached ttl first).tasks.length := Nat.not_lt_of_le hlater
  have hfound : ∃ mid rest', untilFound = first ++ .run j choice :: mid ∧
      second = mid ++ .run k finding :: rest' := by
    rw [hchecked, List.append_assoc, List.cons_append] at hmoves
    obtain ⟨mid, hmid, hrest⟩ | ⟨hsame, -⟩ | ⟨mid, hmid, -⟩ := cases_of_append_cons hmoves
    · exact ⟨mid, _, hmid, hrest⟩
    · subst hsame
      exact absurd (List.getElem?_eq_some_iff.mp hfinding).1 hstarted
    · have hlt := (List.getElem?_eq_some_iff.mp hfinding).1
      have hle : (reached ttl untilFound).tasks.length ≤ (reached ttl first).tasks.length := by
        rw [hmid, reached, reached, Program.run_append]
        exact Program.length_le_run _ _ _
      exact absurd (hlt.trans_le hle) hstarted
  obtain ⟨mid, rest', hmid, rfl⟩ := hfound
  obtain ⟨mid', hstored, rfl⟩ | ⟨rfl, hsame⟩ | ⟨mid', hstored, hvalid⟩ :=
    cases_of_append_cons (hmid.symm.trans hsplit)
  · rw [hstored] at htask hrow hreceives
    exact ⟨mid', i, storing, valid ++ .run k finding :: rest', email, newHash, expiresAt, row,
      by simp, htask, hrow, hreceives⟩
  · cases hsame
    rw [hj] at htask
    cases htask
  · -- the first reset would have cleared what the second one found
    have hkeeps : (((reached ttl first).shared).passcode userId).isSome := by
      rw [hstored, reached, Program.run_append]
      exact passcode_kept _ (by rw [← reached, World.passcode, hrow]; rfl)
    have hclears := writesPasscode_of_replacing hj hfails hreplaced hkeeps
    rw [hvalid, along_append] at hkept
    obtain ⟨-, hnot, -⟩ := hkept
    have hfirst : mid'.foldl program.step (reached ttl (untilStored ++ [.run i storing])) =
        reached ttl first := by
      have hparts : first = (untilStored ++ [.run i storing]) ++ mid' := by
        rw [hstored, List.append_cons]
      rw [hparts]
      exact (Program.run_append _ _ _ _).symm
    rw [hfirst, hclears] at hnot
    cases hnot

end

section

attribute [local instance] samplePbkdf2 sampleBase64Refusal sampleUtf8Refusal sampleCollation
  sampleSha256 Uuid.hyphenated

/-- Another passcode, and another password. -/
def sampleAgain : List PasswordMove :=
  .run 1 sampleChoice :: resetMoves 2 "a@b.c" "newest password" .unixEpoch fun _ => sampleChoice

theorem passcode_used_once_sample :
    ∃ mid i storing later, sampleAgain = mid ++ .run i storing :: later := by
  obtain ⟨checked, row, hchecked, htasks, hnow, howner⟩ := run_sampleMoves
  rw [← reached_sampleInsert] at hchecked
  let hash := hashPassword "new password" sampleChoice.salt
  let request : ChangePasswordWithOneTimePasscodeRequest :=
    ⟨"a@b.c", "new password", UuidText.display .nil⟩
  have htask : checked.tasks[1]? = some (.reset ⟨request, .replacing ⟨1⟩ hash⟩) :=
    congrArg (·[1]?) htasks
  obtain ⟨w₁, hreplaced, hnow₁⟩ : ∃ w₁, checked.shared.replaceUserPassword ⟨1⟩ hash true =
      (w₁, true) ∧ w₁.now = checked.shared.now := exists_replaceUserPassword true howner.found
  let w₂ : World := { w₁ with cache := w₁.cache.evictUser ⟨1⟩ }
  have hdone : program.alone [sampleChoice, sampleChoice] checked.shared
      (.reset ⟨request, .replacing ⟨1⟩ hash⟩) =
        some (w₂, .reset ⟨request, .finished (.ok ⟨1⟩)⟩) := replace_alone _ hreplaced rfl
  let replaced : Pool World Task :=
    { shared := w₂, tasks := checked.tasks.set 1 (.reset ⟨request, .finished (.ok ⟨1⟩)⟩) }
  have hrun : program.run checked [.run 1 sampleChoice, .run 1 sampleChoice] = replaced :=
    Program.run_alone htask hdone
  have hread : fromUtf8 (utf8Bytes hash) = some hash := fromUtf8_utf8Bytes _
  have hnew : verifyPassword hash "newest password" = .ok false :=
    verifyPassword_sample (by decide +kernel)
  obtain ⟨expiresAt, hexpires, hlater⟩ := exists_later
  have hnow₂ : replaced.shared.now = .unixEpoch := hnow₁.trans hnow
  rw [← hnow₂] at hexpires
  obtain ⟨htasks₂, -⟩ :=
    run_resetMoves replaced (fun _ => sampleChoice)
      (howner.replacePassword hreplaced (w₁.cache.evictUser ⟨1⟩)) rfl hread hnew (fun _ => rfl)
      (by decide +kernel) hexpires hlater
  have hlength : replaced.tasks.length = 2 := by simp [replaced, htasks]
  rw [hlength] at htasks₂
  have hreached : reached (.fromSecs 30)
      ((sampleInsert :: sampleMoves) ++ .run 1 sampleChoice :: sampleAgain) =
        program.run replaced
          (resetMoves 2 "a@b.c" "newest password" .unixEpoch fun _ => sampleChoice) := by
    have hmoves : .run 1 sampleChoice :: sampleAgain = [.run 1 sampleChoice, .run 1 sampleChoice] ++
        resetMoves 2 "a@b.c" "newest password" .unixEpoch fun _ => sampleChoice := by
      simp only [sampleAgain, List.cons_append, List.nil_append]
    rw [hmoves, reached, Program.run_append, ← reached, hchecked, Program.run_append, hrun]
  have hr : (reached (.fromSecs 30)
      ((sampleInsert :: sampleMoves) ++ .run 1 sampleChoice :: sampleAgain)).tasks[3]? =
        some (.reset ⟨⟨"a@b.c", "newest password", UuidText.display .nil⟩,
          .replacing ⟨1⟩ (hashPassword "newest password" sampleChoice.salt)⟩) := by
    rw [hreached, htasks₂]
    simp [replaced, htasks, sampleChoice]
  have hthree : checked.tasks.length ≤ 3 := by simp [htasks]
  have hreplaced' : (checked.shared.replaceUserPassword ⟨1⟩ hash true).2 = true :=
    congrArg Prod.snd hreplaced
  rw [← hchecked] at htask hreplaced' hthree
  obtain ⟨mid, i, storing, later, -, -, -, -, hsplit, -⟩ :=
    passcode_used_once (.fromSecs 30) (sampleInsert :: sampleMoves) sampleAgain 1 sampleChoice
      request hash ⟨1⟩ 3 _ htask rfl hreplaced' hthree hr rfl
  exact ⟨mid, i, storing, later, hsplit⟩

end

/-! ## Changes by users -/

section

variable [Pbkdf2] [Base64Refusal] [Utf8Refusal] [Collation] [UuidText] [Sha256]
  {ttl : CryptoKeys.Duration} {moves : List PasswordMove} {k : Nat} {userId : Uuid}

omit [Pbkdf2] [Base64Refusal] [Utf8Refusal] [Collation] [UuidText] [Sha256] in
theorem validatePassword_eq_ok {password : String} (h : validatePassword password = .ok ()) :
    8 ≤ password.toList.length ∧ password.toList.length ≤ 64 := by
  unfold validatePassword at h
  dsimp only at h
  split at h
  · cases h
  · split at h
    · cases h
    · split at h
      · cases h
      · omega

omit [Pbkdf2] [Base64Refusal] [Utf8Refusal] [Collation] [UuidText] [Sha256] in
theorem checkTarget_eq_ok {actor : Actor} {found : Option UserRecord} {user : UserRecord}
    (h : checkTarget actor found = .ok user) :
    found = some user ∧ canAccessUser actor user.id = true ∧ user.loginType = .password := by
  unfold checkTarget at h
  split at h
  · cases h
  · split at h
    · cases h
    next haccess =>
      split at h
      · cases h
      next htype =>
        cases h
        exact ⟨rfl, by simpa using haccess, not_not.mp htype⟩

/-- In every run, a change of a password comes through the checks only for an actor that has access
to the user, with a new password of 8 to 64 characters that is not the one of the row it read, and
with the old password: whoever changes their own has to name it, and one that is named is right. -/
theorem update_justified (ttl : CryptoKeys.Duration) (moves : List PasswordMove) (k : Nat)
    (u : Update) (userId : Uuid) (hu : (reached ttl moves).tasks[k]? = some (.update u))
    (hpassed : u.phase.passed = some userId) :
    ∃ untilResolved resolving waiting untilFound finding rest user row hash,
      untilFound = untilResolved ++ .run k resolving :: waiting ∧
      moves = untilFound ++ .run k finding :: rest ∧
      (reached ttl untilResolved).shared.store.resolveUser u.requestedUser u.authenticatedUser =
        some user ∧
      user.id = userId ∧ user.loginType = .password ∧ canAccessUser u.actor userId = true ∧
      (reached ttl untilFound).shared.credentials.lookup userId = some row ∧
      fromUtf8 row.hashedPassword = some hash ∧
      (u.authenticatedUser = userId → u.request.oldPassword ≠ "") ∧
      (u.request.oldPassword ≠ "" → verifyPassword hash u.request.oldPassword = .ok true) ∧
      verifyPassword hash u.request.password = .ok false ∧
      8 ≤ u.request.password.toList.length ∧ u.request.password.toList.length ≤ 64 := by
  obtain ⟨untilFound, finding, rest, phase, w, phase', hmoves, hfinding, hnot, hsteps, hphase'⟩ :=
    update_entered (P := fun phase => phase.passed = some userId) (by simp [UpdatePhase.passed]) hu
      hpassed
  cases hsteps with
  | find hfails hfound hchecked =>
    rename_i target found
    obtain rfl : target.id = userId := by simpa [UpdatePhase.passed] using hphase'
    obtain ⟨record, rfl, howner, hold, hvalid, hnew⟩ := checkUpdate_eq_ok hchecked
    obtain ⟨hmin, hmax⟩ := validatePassword_eq_ok hvalid
    obtain ⟨-, row, hrow, hrecord⟩ := findPasswordUserById_eq_ok hfound
    obtain ⟨-, hhash, -, -⟩ := passwordRecordFromRow_eq_ok hrecord
    obtain ⟨untilResolved, resolving, waiting, phase, w', phase', huntil, -, -, hsteps', hphase'⟩ :=
      update_entered (P := fun phase => phase = .finding target) (by simp) hfinding rfl
    cases hsteps' with
    | resolve hfails' hresolved =>
      cases hphase'
      obtain ⟨hsome, haccess, htype⟩ := checkTarget_eq_ok hresolved
      exact ⟨untilResolved, resolving, waiting, untilFound, finding, rest, target, row, _, huntil,
        hmoves, hsome, rfl, htype, haccess, hrow, hhash, howner, hold, hnew, hmin, hmax⟩
    | refuse e hphase => cases hphase'
    | find hfails' hfound' hchecked' => cases hphase'
    | fail hfails' => cases hphase'
    | replace hfails' hreplaced => cases hphase'
    | vanish hfails' hreplaced => cases hphase'
    | evict => cases hphase'
  | refuse e hphase => simp [UpdatePhase.passed] at hphase'
  | resolve hfails hresolved => simp [UpdatePhase.passed] at hphase'
  | fail hfails => simp [UpdatePhase.passed] at hphase'
  | replace hfails hreplaced => exact absurd hphase' hnot
  | vanish hfails hreplaced => simp [UpdatePhase.passed] at hphase'
  | evict => exact absurd hphase' hnot

end

section

attribute [local instance] samplePbkdf2 sampleBase64Refusal sampleUtf8Refusal sampleCollation
  sampleSha256 Uuid.hyphenated

def sampleActor : Actor where
  userId := ⟨1⟩
  username := "alice"
  organizationIds := []
  siteRoles := []
  orgRoles := []
  groups := []
  scope := none
  scopeOverride := none

def sampleUpdate : List PasswordMove :=
  [sampleInsert, .spawn (.update sampleActor ⟨1⟩ "me" ⟨"old password", "new password"⟩),
    .run 0 sampleChoice, .run 0 sampleChoice]

theorem update_justified_sample :
    ∃ before finding rest row hash, sampleUpdate = before ++ .run 0 finding :: rest ∧
      (reached (.fromSecs 30) before).shared.credentials.lookup ⟨1⟩ = some row ∧
      fromUtf8 row.hashedPassword = some hash ∧
      verifyPassword hash "old password" = .ok true := by
  let request : UpdateUserPasswordRequest := ⟨"old password", "new password"⟩
  let hash := hashPassword "old password" sampleChoice.salt
  let record : PasswordUserRecord := ⟨sampleUser, hash, none, none⟩
  have hfound : sampleServer.shared.findPasswordUserById ⟨1⟩ = .ok (some record) := by
    rw [World.findPasswordUserById, sample_owner.found, sample_owner.lookup]
    have hread : fromUtf8 sampleCredentials.hashedPassword = some hash := fromUtf8_utf8Bytes _
    simp only [passwordRecordFromRow, hread]
    rfl
  have hold : verify hash "old password" = .ok true := verify_hashPassword _
  have hnew : verify hash "new password" = .ok false := by
    rw [verify, verifyPassword_sample (by decide +kernel)]
    rfl
  have hchecked : checkUpdate ⟨1⟩ ⟨1⟩ request (some record) = .ok () := by
    have hvalid : validatePassword request.password = .ok () := by decide +kernel
    simp only [checkUpdate, hvalid, oldPasswordMatches, record, request, hold, hnew]
    rfl
  have hresolved : checkTarget sampleActor (sampleServer.shared.store.resolveUser "me" ⟨1⟩) =
      .ok sampleUser := by
    rw [Store.resolveUser, if_pos rfl, sample_owner.found]
    rfl
  have halone : program.alone [sampleChoice, sampleChoice] sampleServer.shared
      (program.enter (.update sampleActor ⟨1⟩ "me" request)) =
        some (sampleServer.shared, .update ⟨sampleActor, ⟨1⟩, "me", request,
          .replacing ⟨1⟩ (hashPassword "new password" sampleChoice.salt)⟩) :=
    update_alone sampleActor ⟨1⟩ "me" request hresolved hfound hchecked rfl rfl
  have hrun := Program.run_spawn_alone halone
  have hu : (reached (.fromSecs 30) sampleUpdate).tasks[0]? =
      some (.update ⟨sampleActor, ⟨1⟩, "me", request,
        .replacing ⟨1⟩ (hashPassword "new password" sampleChoice.salt)⟩) := by
    have hreached : reached (.fromSecs 30) sampleUpdate = _ := (reached_sampleInsert _).trans hrun
    rw [hreached]
    rfl
  obtain ⟨-, -, -, before, finding, rest, -, row, hash', -, hsplit, -, -, -, -, hrow, hread, -,
    hright, -⟩ := update_justified (.fromSecs 30) sampleUpdate 0 _ ⟨1⟩ hu rfl
  exact ⟨before, finding, rest, row, hash', hsplit, hrow, hread, hright (by decide)⟩

end

end Coderd.Auth.Passwords
