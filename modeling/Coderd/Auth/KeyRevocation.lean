import Coderd.Auth.KeyScopes
import Coderd.Foundation.Interleaving

namespace Coderd.Auth.KeyRevocation

open Coderd.Foundation Coderd.Rbac
open Coderd.CryptoKeys (OffsetDateTime)

/-! ## Validations, call by call -/

/-- The store and the clock, which never goes back. -/
structure World where
  store : Store
  clock : OffsetDateTime

/-- Where a validation stands. `checking` has the row that was read, and reads the clock; each
of the others is about to make one store call. -/
inductive ValidationPhase where
  | finding
  | checking (key : ApiKeyRecord)
  | writing (updatedKey : ApiKeyRecord) (scopes : List ApiKeyScope) (now : OffsetDateTime)
  | visiting (updatedKey : ApiKeyRecord) (scopes : List ApiKeyScope) (now : OffsetDateTime)
  | loading (updatedKey : ApiKeyRecord) (scopes : List ApiKeyScope)
  | listing (updatedKey : ApiKeyRecord) (scopes : List ApiKeyScope) (user : UserRecord)
  | finished (result : Except Rejection AuthenticatedContext)

structure Validation where
  keyId : String
  keySecret : String
  phase : ValidationPhase

section

variable [UuidText] [Sha256]

/-- The phase after the clock is read. -/
def afterChecking (key : ApiKeyRecord) (keySecret : String) (now : OffsetDateTime) :
    ValidationPhase :=
  match checkApiKey key keySecret now with
  | .error rejection => .finished (.error rejection)
  | .ok scopes =>
    match refreshApiKey key now with
    | none => .finished (.error .panicked)
    | some (updatedKey, changed) =>
      if changed then .writing updatedKey scopes now else .loading updatedKey scopes

def Validation.reject (v : Validation) (world : World) (rejection : Rejection) :
    Option (World × Validation) :=
  some (world, { v with phase := .finished (.error rejection) })

/-- The next store call, with the error it fails with, and what the code does up to the one
after. -/
def Validation.advance (world : World) (v : Validation) (fault : Option String) :
    Option (World × Validation) :=
  match v.phase, fault with
  | .finding, some e => v.reject world (databaseError e)
  | .finding, none =>
    match world.store.findApiKeyById v.keyId with
    | none => v.reject world apiKeyInvalid
    | some key => some (world, { v with phase := .checking key })
  | .checking key, _ =>
    some (world, { v with phase := afterChecking key v.keySecret world.clock })
  | .writing updatedKey scopes now, fault =>
    some ({ world with store := writeBack fault world.store updatedKey },
      { v with phase := .visiting updatedKey scopes now })
  | .visiting updatedKey scopes now, fault =>
    some ({ world with store := recordVisit fault world.store updatedKey.userId now },
      { v with phase := .loading updatedKey scopes })
  | .loading _ _, some e => v.reject world (databaseError e)
  | .loading updatedKey scopes, none =>
    match world.store.findUserById updatedKey.userId with
    | none => v.reject world apiKeyInvalid
    | some user => some (world, { v with phase := .listing updatedKey scopes user })
  | .listing _ _ _, some e => v.reject world (databaseError e)
  | .listing updatedKey scopes user, none =>
    let memberships := world.store.listUserMemberships user.id
    some (world, { v with phase := .finished (.ok (contextOf user memberships updatedKey scopes)) })
  | .finished _, _ => none

end

/-! ## A validation alone -/

def Faults.at (faults : Faults) : ValidationPhase → Option String
  | .finding => faults.findApiKeyById
  | .writing _ _ _ => faults.updateApiKeyLastUsed
  | .visiting _ _ _ => faults.updateUserLastSeenAt
  | .loading _ _ => faults.findUserById
  | .listing _ _ _ => faults.listUserMemberships
  | .checking _ | .finished _ => none

section

variable [UuidText] [Sha256] {faults : Faults} {world : World} {keyId keySecret : String}
  {updatedKey : ApiKeyRecord} {scopes : List ApiKeyScope}

def Validation.alone (faults : Faults) (state : World × Validation) : World × Validation :=
  (state.2.advance state.1 (Faults.at faults state.2.phase)).getD state

theorem alone_finished (n : Nat) {result : Except Rejection AuthenticatedContext} :
    (Validation.alone faults)^[n] (world, ⟨keyId, keySecret, .finished result⟩) =
      (world, ⟨keyId, keySecret, .finished result⟩) :=
  Function.iterate_fixed (by simp [Validation.alone, Validation.advance]) n

theorem alone_loading :
    (Validation.alone faults)^[2] (world, ⟨keyId, keySecret, .loading updatedKey scopes⟩) =
      (world, ⟨keyId, keySecret,
        .finished (loadContext faults world.store updatedKey scopes)⟩) := by
  rw [Function.iterate_succ_apply, Function.iterate_one]
  cases huser : faults.findUserById with
  | some e =>
    simp [Validation.alone, Validation.advance, Validation.reject, Faults.at, loadContext, huser]
  | none =>
    cases hfind : world.store.findUserById updatedKey.userId with
    | none =>
      simp [Validation.alone, Validation.advance, Validation.reject, Faults.at, loadContext,
        huser, hfind]
    | some user =>
      cases hlist : faults.listUserMemberships with
      | some e =>
        simp [Validation.alone, Validation.advance, Validation.reject, Faults.at, loadContext,
          huser, hfind, hlist]
      | none =>
        simp [Validation.alone, Validation.advance, Faults.at, loadContext, huser, hfind, hlist]

theorem alone_writing {now : OffsetDateTime} :
    (Validation.alone faults)^[4] (world, ⟨keyId, keySecret, .writing updatedKey scopes now⟩) =
      let store := recordUse faults world.store updatedKey now
      ({ world with store }, ⟨keyId, keySecret,
        .finished (loadContext faults store updatedKey scopes)⟩) := by
  have hwritten : (Validation.alone faults)^[2]
      (world, ⟨keyId, keySecret, .writing updatedKey scopes now⟩) =
        ({ world with store := recordUse faults world.store updatedKey now },
          ⟨keyId, keySecret, .loading updatedKey scopes⟩) := by
    simp [Validation.alone, Validation.advance, Faults.at, recordUse]
  rw [Function.iterate_add_apply (Validation.alone faults) 2 2, hwritten]
  exact alone_loading

/-- With no other call in between, the calls of a validation make up `validateApiKey`. -/
theorem alone_validateApiKey (faults : Faults) (world : World) (keyId keySecret : String) :
    (Validation.alone faults)^[6] (world, ⟨keyId, keySecret, .finding⟩) =
      let (result, store) := validateApiKey faults world.clock world.store keyId keySecret
      ({ world with store }, ⟨keyId, keySecret, .finished result⟩) := by
  rw [Function.iterate_succ_apply]
  unfold validateApiKey
  cases hfind : faults.findApiKeyById with
  | some e =>
    rw [show Validation.alone faults (world, ⟨keyId, keySecret, .finding⟩) =
      (world, ⟨keyId, keySecret, .finished (.error (databaseError e))⟩) by
        simp [Validation.alone, Validation.advance, Validation.reject, Faults.at, hfind]]
    exact alone_finished 5
  | none =>
    cases hkey : world.store.findApiKeyById keyId with
    | none =>
      rw [show Validation.alone faults (world, ⟨keyId, keySecret, .finding⟩) =
        (world, ⟨keyId, keySecret, .finished (.error apiKeyInvalid)⟩) by
          simp [Validation.alone, Validation.advance, Validation.reject, Faults.at, hfind, hkey]]
      exact alone_finished 5
    | some key =>
      rw [show Validation.alone faults (world, ⟨keyId, keySecret, .finding⟩) =
          (world, ⟨keyId, keySecret, .checking key⟩) by
            simp [Validation.alone, Validation.advance, Faults.at, hfind, hkey],
        Function.iterate_succ_apply,
        show Validation.alone faults (world, ⟨keyId, keySecret, .checking key⟩) =
          (world, ⟨keyId, keySecret, afterChecking key keySecret world.clock⟩) by
            simp [Validation.alone, Validation.advance]]
      unfold afterChecking
      dsimp only
      cases hcheck : checkApiKey key keySecret world.clock with
      | error rejection => exact alone_finished 4
      | ok scopes =>
        dsimp only
        cases hrefresh : refreshApiKey key world.clock with
        | none => exact alone_finished 4
        | some refreshed =>
          obtain ⟨updatedKey, changed⟩ := refreshed
          cases changed with
          | true => exact alone_writing
          | false =>
            have hloaded : (Validation.alone faults)^[2]
                (world, ⟨keyId, keySecret, .loading updatedKey scopes⟩) = _ := alone_loading
            refine (Function.iterate_add_apply (Validation.alone faults) 2 2 _).trans ?_
            refine (congrArg _ hloaded).trans ?_
            exact alone_finished 2

end

/-! ## Expiring a key -/

/-- `expired` is the successful end, with the expiry time that was written. -/
inductive ExpiryPhase where
  | resolving
  | finding (targetUser : Uuid)
  | found
  | expiring (now : OffsetDateTime)
  | expired (now : OffsetDateTime)
  | failed (error : AuthServiceError)

structure Expiry where
  actor : Actor
  authenticatedUser : Uuid
  requestedUser : String
  keyId : String
  phase : ExpiryPhase

def Expiry.fail (e : Expiry) (world : World) (error : AuthServiceError) :
    Option (World × Expiry) :=
  some (world, { e with phase := .failed error })

def Expiry.advance [UuidText] (world : World) (e : Expiry) (fault : Option String) :
    Option (World × Expiry) :=
  match e.phase, fault with
  | .resolving, some detail => e.fail world (.storage detail)
  | .resolving, none =>
    match world.store.resolveUser e.requestedUser e.authenticatedUser with
    | none => e.fail world (.notFound "User not found.")
    | some targetUser =>
      if !canAccessUser e.actor targetUser.id then
        e.fail world (.forbidden "You are not authorized to expire API keys for this user.")
      else some (world, { e with phase := .finding targetUser.id })
  | .finding _, some detail => e.fail world (.storage detail)
  | .finding targetUser, none =>
    match world.store.findApiKeyById e.keyId with
    | none => e.fail world (.notFound "API key not found.")
    | some key =>
      if key.userId ≠ targetUser then e.fail world (.notFound "API key not found.")
      else some (world, { e with phase := .found })
  | .found, _ => some (world, { e with phase := .expiring world.clock })
  | .expiring _, some detail => e.fail world (.storage detail)
  | .expiring now, none =>
    match world.store.expireApiKey e.keyId now with
    | (store, true) => some ({ world with store }, { e with phase := .expired now })
    | (store, false) => e.fail { world with store } (.notFound "API key not found.")
  | .expired _, _ | .failed _, _ => none

/-! ## One expiry among validations -/

inductive Task where
  | validate (v : Validation)
  | expire (e : Expiry)

section

variable [UuidText] [Sha256]

def Task.advance (world : World) (t : Task) (fault : Option String) : Option (World × Task) :=
  match t with
  | .validate v => (v.advance world fault).map fun (world, v) => (world, .validate v)
  | .expire e => (e.advance world fault).map fun (world, e) => (world, .expire e)

/-- A validation is started with a key id and a secret; the clock moves on from outside. -/
def program : Program World Task (String × String) (Option String) OffsetDateTime where
  enter := fun (keyId, keySecret) => .validate { keyId, keySecret, phase := .finding }
  advance := Task.advance
  outside world time := { world with clock := max world.clock time }

/-- One request to expire a key, and no validation yet. -/
def revoking (world : World) (e : Expiry) : Pool World Task where
  shared := world
  tasks := [.expire { e with phase := .resolving }]

/-- Once the key is expired, its row never expires later than that, and no validation of it
that is started from then on is let in. -/
def StaysRevoked (world : World) (e : Expiry) (moves : List (Move (String × String)
    (Option String) OffsetDateTime)) : Prop :=
  ∀ before after ex now, moves = before ++ after →
    (program.run (revoking world e) before).tasks[0]? = some (.expire ex) →
    ex.phase = .expired now →
    (∀ row, (program.run (revoking world e) moves).shared.store.apiKeys.lookup e.keyId = some row →
      row.expiresAt ≤ now) ∧
    ∀ j v, (program.run (revoking world e) before).tasks.length ≤ j →
      (program.run (revoking world e) moves).tasks[j]? = some (.validate v) →
      v.keyId = e.keyId → ∀ ctx, v.phase ≠ .finished (.ok ctx)

end

/-! ## Validations that can bring a key back -/

theorem recordVisit_apiKeys (fault : Option String) (store : Store) (userId : Uuid)
    (now : OffsetDateTime) : (recordVisit fault store userId now).apiKeys = store.apiKeys := by
  unfold recordVisit
  split
  · rfl
  · unfold Store.updateUserLastSeenAt
    split <;> rfl

section

variable [Sha256]

/-- The validation has read the row and would pass its check now, or is about to write an expiry
later than `now`. -/
def Task.revives (keyId : String) (now clock : OffsetDateTime) : Task → Bool
  | .validate v =>
    v.keyId = keyId &&
      match v.phase with
      | .checking key => (checkApiKey key v.keySecret clock).isOk
      | .writing updatedKey _ _ => now < updatedKey.expiresAt
      | _ => false
  | .expire _ => false

/-- The key has not been expired, or the clock has moved on since. -/
def Task.isPast (keyId : String) (clock : OffsetDateTime) : Task → Bool
  | .validate _ => true
  | .expire e =>
    match e.phase with
    | .expired now => e.keyId = keyId → now < clock
    | _ => true

/-- No validation can bring the key back when it is expired, and none of it looks at the clock
before the clock has passed the expiry time. -/
def undisturbed (w : Pool World Task) :
    Move (String × String) (Option String) OffsetDateTime → Bool
  | .run i fault =>
    match w.tasks[i]? with
    | some (.expire e) =>
      match e.phase, fault with
      | .expiring now, none => w.tasks.all fun t => !t.revives e.keyId now w.shared.clock
      | _, _ => true
    | some (.validate v) =>
      match v.phase with
      | .checking _ => w.tasks.all fun t => t.isPast v.keyId w.shared.clock
      | _ => true
    | none => true
  | _ => true

/-! ## What a validation can do -/

/-- All that one step of a validation can do. -/
inductive Effect (world : World) (v : Validation) : World → Validation → Prop where
  | rejected (rejection : Rejection) :
    Effect world v world { v with phase := .finished (.error rejection) }
  | read (key : ApiKeyRecord) (hfind : world.store.findApiKeyById v.keyId = some key) :
    Effect world v world { v with phase := .checking key }
  | checked (key : ApiKeyRecord) (hphase : v.phase = .checking key) :
    Effect world v world { v with phase := afterChecking key v.keySecret world.clock }
  | written (fault : Option String) (updatedKey : ApiKeyRecord) (scopes : List ApiKeyScope)
      (now : OffsetDateTime) (hphase : v.phase = .writing updatedKey scopes now) :
    Effect world v { world with store := writeBack fault world.store updatedKey }
      { v with phase := .visiting updatedKey scopes now }
  | onward (store : Store) (phase : ValidationPhase)
      (hkeys : store.apiKeys = world.store.apiKeys)
      (hlate : v.phase ≠ .finding ∧ (∀ key, v.phase ≠ .checking key) ∧
        ∀ result, v.phase ≠ .finished result)
      (hnext : (∀ key, phase ≠ .checking key) ∧
        ∀ updatedKey scopes now, phase ≠ .writing updatedKey scopes now) :
    Effect world v { world with store } { v with phase }

end

section

variable [UuidText] [Sha256]

theorem Validation.advance_effect {world world' : World} {v v' : Validation}
    {fault : Option String} (h : v.advance world fault = some (world', v')) :
    Effect world v world' v' := by
  cases hphase : v.phase with
  | finding =>
    cases fault with
    | some e =>
      simp only [Validation.advance, hphase] at h
      cases h
      exact .rejected _
    | none =>
      simp only [Validation.advance, hphase] at h
      split at h
      · cases h
        exact .rejected _
      next key hfind =>
        cases h
        exact .read key hfind
  | checking key =>
    simp only [Validation.advance, hphase] at h
    cases h
    exact .checked key hphase
  | writing updatedKey scopes now =>
    simp only [Validation.advance, hphase] at h
    cases h
    exact .written fault updatedKey scopes now hphase
  | visiting updatedKey scopes now =>
    simp only [Validation.advance, hphase] at h
    cases h
    exact .onward _ _ (recordVisit_apiKeys _ _ _ _) (by simp [hphase]) (by simp)
  | loading updatedKey scopes =>
    cases fault with
    | some e =>
      simp only [Validation.advance, hphase] at h
      cases h
      exact .rejected _
    | none =>
      simp only [Validation.advance, hphase] at h
      split at h
      · cases h
        exact .rejected _
      · cases h
        exact .onward _ _ rfl (by simp [hphase]) (by simp)
  | listing updatedKey scopes user =>
    cases fault with
    | some e =>
      simp only [Validation.advance, hphase] at h
      cases h
      exact .rejected _
    | none =>
      simp only [Validation.advance, hphase] at h
      cases h
      exact .onward _ _ rfl (by simp [hphase]) (by simp)
  | finished result =>
    simp only [Validation.advance, hphase] at h
    cases h

end

/-- All that one step of an expiry can do. -/
inductive ExpiryEffect (world : World) (e : Expiry) (fault : Option String) :
    World → Expiry → Prop where
  | expired (now : OffsetDateTime) (hphase : e.phase = .expiring now) (hfault : fault = none) :
    ExpiryEffect world e fault
      { world with
        store := world.store.modifyApiKey e.keyId fun row => { row with expiresAt := now } }
      { e with phase := .expired now }
  | read : ExpiryEffect world e fault world { e with phase := .expiring world.clock }
  | onward (phase : ExpiryPhase)
      (hnext : ∀ now, phase ≠ .expiring now ∧ phase ≠ .expired now) :
    ExpiryEffect world e fault world { e with phase }

theorem Expiry.advance_effect [UuidText] {world world' : World} {e e' : Expiry}
    {fault : Option String} (h : e.advance world fault = some (world', e')) :
    ExpiryEffect world e fault world' e' := by
  unfold Expiry.advance Expiry.fail at h
  split at h
  case h_1 | h_3 | h_6 =>
    cases h
    exact .onward _ (by simp)
  case h_2 =>
    split at h
    · cases h
      exact .onward _ (by simp)
    · split at h
      all_goals
        cases h
        exact .onward _ (by simp)
  case h_4 =>
    split at h
    · cases h
      exact .onward _ (by simp)
    · split at h
      all_goals
        cases h
        exact .onward _ (by simp)
  case h_5 =>
    cases h
    exact .read
  case h_7 now hphase =>
    cases hrow : world.store.apiKeys.lookup e.keyId with
    | none =>
      simp only [Store.expireApiKey, Store.modifyApiKey, hrow] at h
      cases h
      exact .onward _ (by simp)
    | some row =>
      have hhit : world.store.expireApiKey e.keyId now =
          (world.store.modifyApiKey e.keyId fun row => { row with expiresAt := now }, true) := by
        rw [Store.expireApiKey, hrow]
        rfl
      rw [hhit] at h
      cases h
      exact .expired now hphase rfl
  case h_8 | h_9 => cases h

/-! ## The row of the key -/

theorem lookup_modifyApiKey (store : Store) (id k : String) (f : ApiKeyRow → ApiKeyRow) :
    (store.modifyApiKey id f).apiKeys.lookup k =
      if k = id then (store.apiKeys.lookup k).map f else store.apiKeys.lookup k := by
  unfold Store.modifyApiKey
  by_cases hk : k = id
  · subst hk
    rw [if_pos rfl]
    cases hrow : store.apiKeys.lookup k with
    | none => exact hrow
    | some row => exact AList.lookup_insert _
  · rw [if_neg hk]
    split
    · exact AList.lookup_insert_ne hk
    · rfl

/-- The row of the key expires by that time. -/
def RowExpires (store : Store) (k : String) (time : OffsetDateTime) : Prop :=
  ∀ row, store.apiKeys.lookup k = some row → row.expiresAt ≤ time

theorem RowExpires.writeBack {store : Store} {k : String} {time : OffsetDateTime}
    (h : RowExpires store k time) (fault : Option String) {updatedKey : ApiKeyRecord}
    (hown : updatedKey.id = k → updatedKey.expiresAt ≤ time) :
    RowExpires (writeBack fault store updatedKey) k time := by
  unfold Auth.writeBack
  split
  · exact h
  · intro row hrow
    rw [Store.updateApiKeyLastUsed, lookup_modifyApiKey] at hrow
    split at hrow
    next hk =>
      obtain ⟨old, -, rfl⟩ := Option.map_eq_some_iff.mp hrow
      exact hown hk.symm
    · exact h row hrow

theorem rowExpires_expire (store : Store) (k : String) (now : OffsetDateTime) :
    RowExpires (store.modifyApiKey k fun row => { row with expiresAt := now }) k now := by
  intro row hrow
  rw [lookup_modifyApiKey, if_pos rfl] at hrow
  obtain ⟨old, -, rfl⟩ := Option.map_eq_some_iff.mp hrow
  exact le_rfl

/-! ## Checks that fail from some time on -/

section

variable [Sha256]

theorem isOk_checkApiKey_iff {key : ApiKeyRecord} {keySecret : String} {now : OffsetDateTime} :
    (checkApiKey key keySecret now).isOk = true ↔
      Sha256.digest keySecret = key.hashedSecret ∧ ¬ key.expiresAt < now ∧
        key.parsedScopes ≠ [] := by
  constructor
  · intro h
    cases hcheck : checkApiKey key keySecret now with
    | error rejection =>
      rw [hcheck] at h
      cases h
    | ok scopes =>
      obtain ⟨hdigest, hexpired, hscopes, -⟩ := checkApiKey_ok_iff.mp hcheck
      exact ⟨hdigest, hexpired, hscopes⟩
  · rintro ⟨hdigest, hexpired, hscopes⟩
    rw [checkApiKey_ok_iff.mpr ⟨hdigest, hexpired, hscopes, rfl⟩]
    rfl

theorem afterChecking_of_fails {key : ApiKeyRecord} {keySecret : String} {now : OffsetDateTime}
    (h : (checkApiKey key keySecret now).isOk = false) :
    ∃ rejection, afterChecking key keySecret now = .finished (.error rejection) := by
  unfold afterChecking
  cases hcheck : checkApiKey key keySecret now with
  | error rejection => exact ⟨rejection, rfl⟩
  | ok scopes =>
    rw [hcheck] at h
    cases h

/-- The check of the row fails whenever it is made after `time`, the clock being at `clock`. -/
def Fails (key : ApiKeyRecord) (keySecret : String) (time clock : OffsetDateTime) : Prop :=
  key.expiresAt ≤ time ∨ (checkApiKey key keySecret clock).isOk = false

theorem Fails.mono {key : ApiKeyRecord} {keySecret : String} {time clock clock' : OffsetDateTime}
    (h : Fails key keySecret time clock) (hle : clock ≤ clock') :
    Fails key keySecret time clock' := by
  refine h.imp_right fun hfails => ?_
  rw [← Bool.not_eq_true, isOk_checkApiKey_iff] at hfails ⊢
  rintro ⟨hdigest, hexpired, hscopes⟩
  exact hfails ⟨hdigest, fun hlt => hexpired (lt_of_lt_of_le hlt hle), hscopes⟩

theorem Fails.afterChecking {key : ApiKeyRecord} {keySecret : String}
    {time clock : OffsetDateTime} (h : Fails key keySecret time clock) (hlt : time < clock) :
    ∃ rejection, afterChecking key keySecret clock = .finished (.error rejection) := by
  refine afterChecking_of_fails ?_
  obtain hle | hfails := h
  · rw [← Bool.not_eq_true, isOk_checkApiKey_iff]
    rintro ⟨-, hexpired, -⟩
    exact hexpired (lt_of_le_of_lt hle hlt)
  · exact hfails

/-- A validation keeps the id of the row it read. -/
theorem afterChecking_id {key updatedKey : ApiKeyRecord} {keySecret : String}
    {clock now : OffsetDateTime} {scopes : List ApiKeyScope}
    (h : afterChecking key keySecret clock = .writing updatedKey scopes now) :
    updatedKey.id = key.id := by
  unfold afterChecking at h
  split at h
  · cases h
  · split at h
    · cases h
    next hrefresh =>
      split at h
      · cases h
        exact (refreshApiKey_eq_some hrefresh).1
      · cases h

/-! ## The invariant -/

/-- A validation in flight writes to the row it was asked for. -/
def Validation.HasOwnRow (v : Validation) : Prop :=
  (∀ key, v.phase = .checking key → key.id = v.keyId) ∧
    ∀ updatedKey scopes now, v.phase = .writing updatedKey scopes now → updatedKey.id = v.keyId

/-- A validation in flight does not bring back a key that expired at `time`. -/
def Validation.Spent (time clock : OffsetDateTime) (v : Validation) : Prop :=
  (∀ key, v.phase = .checking key → Fails key v.keySecret time clock) ∧
    ∀ updatedKey scopes now, v.phase = .writing updatedKey scopes now →
      updatedKey.expiresAt ≤ time

/-- The validation was started after the key expired: it has at most read the row. -/
def Validation.Barred (time : OffsetDateTime) (v : Validation) : Prop :=
  v.phase = .finding ∨ (∃ key, v.phase = .checking key ∧ key.expiresAt ≤ time) ∨
    ∃ rejection, v.phase = .finished (.error rejection)

/-- The key expired at `time` for good. -/
structure Settled (k : String) (time : OffsetDateTime) (w : Pool World Task) : Prop where
  clock : time ≤ w.shared.clock
  row : RowExpires w.shared.store k time
  inFlight : ∀ v, .validate v ∈ w.tasks → v.keyId = k → v.Spent time w.shared.clock

/-- The first task, and no other, expires the key `k`. -/
structure Sound (k : String) (w : Pool World Task) : Prop where
  ids : ∀ v, .validate v ∈ w.tasks → v.HasOwnRow
  expiry : ∃ e, w.tasks[0]? = some (.expire e) ∧ e.keyId = k ∧
    (∀ now, e.phase = .expiring now → now ≤ w.shared.clock) ∧
    ∀ time, e.phase = .expired time → Settled k time w
  only : ∀ i e, w.tasks[i]? = some (.expire e) → i = 0

variable {k : String} {time : OffsetDateTime} {world world' : World} {v v' : Validation}

theorem Effect.frame (h : Effect world v world' v') :
    v'.keyId = v.keyId ∧ v'.keySecret = v.keySecret ∧ world'.clock = world.clock := by
  cases h <;> exact ⟨rfl, rfl, rfl⟩

theorem Effect.hasOwnRow (h : Effect world v world' v') (hown : v.HasOwnRow) : v'.HasOwnRow := by
  cases h with
  | rejected rejection => exact ⟨by simp, by simp⟩
  | read key hfind =>
    refine ⟨?_, by simp⟩
    rintro key' hkey
    cases hkey
    obtain ⟨row, -, rfl⟩ := Option.map_eq_some_iff.mp hfind
    rfl
  | checked key hphase =>
    constructor
    · intro key' hkey
      have hnot : ∀ key', afterChecking key v.keySecret world.clock ≠ .checking key' := by
        intro key'
        unfold afterChecking
        split
        · exact nofun
        · split
          · exact nofun
          · split <;> exact nofun
      exact absurd hkey (hnot key')
    · intro updatedKey scopes now hwriting
      rw [afterChecking_id hwriting]
      exact hown.1 key hphase
  | written fault updatedKey scopes now hphase => exact ⟨by simp, by simp⟩
  | onward store phase hkeys hlate hnext =>
    exact ⟨fun key hkey => absurd hkey (hnext.1 key),
      fun updatedKey scopes now hwriting => absurd hwriting (hnext.2 updatedKey scopes now)⟩

/-- A validation leaves an expired key expired. -/
theorem Effect.spent (h : Effect world v world' v') (hown : v.HasOwnRow)
    (hrow : RowExpires world.store k time) (hspent : v.keyId = k → v.Spent time world.clock)
    (hpast : ∀ key, v.phase = .checking key → v.keyId = k → time < world.clock) :
    RowExpires world'.store k time ∧ (v.keyId = k → v'.Spent time world'.clock) := by
  cases h with
  | rejected rejection => exact ⟨hrow, fun _ => ⟨by simp, by simp⟩⟩
  | read key hfind =>
    refine ⟨hrow, fun hk => ⟨?_, by simp⟩⟩
    rintro key' hkey
    cases hkey
    obtain ⟨row, hlookup, rfl⟩ := Option.map_eq_some_iff.mp hfind
    rw [hk] at hlookup
    exact .inl (hrow row hlookup)
  | checked key hphase =>
    refine ⟨hrow, fun hk => ?_⟩
    obtain ⟨rejection, hfinished⟩ :=
      ((hspent hk).1 key hphase).afterChecking (hpast key hphase hk)
    rw [hfinished]
    exact ⟨by simp, by simp⟩
  | written fault updatedKey scopes now hphase =>
    refine ⟨hrow.writeBack fault fun hid => ?_, fun _ => ⟨by simp, by simp⟩⟩
    rw [hown.2 updatedKey scopes now hphase] at hid
    exact (hspent hid).2 updatedKey scopes now hphase
  | onward store phase hkeys hlate hnext =>
    refine ⟨?_, fun _ => ⟨fun key hkey => absurd hkey (hnext.1 key),
      fun updatedKey scopes now hwriting => absurd hwriting (hnext.2 updatedKey scopes now)⟩⟩
    intro row hlookup
    rw [hkeys] at hlookup
    exact hrow row hlookup

/-- A validation that was started after the expiry gets as far as its check. -/
theorem Effect.barred (h : Effect world v world' v') (hrow : RowExpires world.store v.keyId time)
    (hpast : ∀ key, v.phase = .checking key → time < world.clock) (hbarred : v.Barred time) :
    v'.Barred time := by
  cases h with
  | rejected rejection => exact .inr (.inr ⟨rejection, rfl⟩)
  | read key hfind =>
    obtain ⟨row, hlookup, rfl⟩ := Option.map_eq_some_iff.mp hfind
    exact .inr (.inl ⟨_, rfl, hrow row hlookup⟩)
  | checked key hphase =>
    obtain hfinding | ⟨key', hkey', hle⟩ | ⟨rejection, hfinished⟩ := hbarred
    · rw [hphase] at hfinding
      cases hfinding
    · rw [hphase] at hkey'
      cases hkey'
      have hfails : Fails key v.keySecret time world.clock := .inl hle
      exact .inr (.inr (hfails.afterChecking (hpast key hphase)))
    · rw [hphase] at hfinished
      cases hfinished
  | written fault updatedKey scopes now hphase =>
    rw [Validation.Barred, hphase] at hbarred
    simp at hbarred
  | onward store phase hkeys hlate hnext =>
    obtain hfinding | ⟨key, hkey, -⟩ | ⟨rejection, hfinished⟩ := hbarred
    · exact absurd hfinding hlate.1
    · exact absurd hkey (hlate.2.1 key)
    · exact absurd hfinished (hlate.2.2 _)

theorem Validation.Spent.mono {clock clock' : OffsetDateTime} (h : v.Spent time clock)
    (hle : clock ≤ clock') : v.Spent time clock' :=
  ⟨fun key hkey => (h.1 key hkey).mono hle, h.2⟩

/-! ## Steps of the pool -/

variable {w : Pool World Task}

theorem past_of_undisturbed {i : Nat} {fault : Option String} {key : ApiKeyRecord} {e : Expiry}
    (hok : undisturbed w (.run i fault) = true) (htask : w.tasks[i]? = some (.validate v))
    (hphase : v.phase = .checking key) (he : .expire e ∈ w.tasks)
    (hexpired : e.phase = .expired time) (hkey : e.keyId = v.keyId) : time < w.shared.clock := by
  simp only [undisturbed, htask, hphase, List.all_eq_true] at hok
  have hpast := hok _ he
  simp only [Task.isPast, hexpired, decide_eq_true_eq] at hpast
  exact hpast hkey

theorem spent_of_undisturbed {i : Nat} {now : OffsetDateTime} {e : Expiry}
    (hok : undisturbed w (.run i none) = true) (htask : w.tasks[i]? = some (.expire e))
    (hphase : e.phase = .expiring now) (hv : .validate v ∈ w.tasks) (hkey : v.keyId = e.keyId) :
    v.Spent now w.shared.clock := by
  simp only [undisturbed, htask, hphase, List.all_eq_true] at hok
  have hno := hok _ hv
  simp only [Task.revives, hkey, decide_true, Bool.true_and, Bool.not_eq_true'] at hno
  constructor
  · intro key hchecking
    rw [hchecking] at hno
    exact .inr hno
  · intro updatedKey scopes written hwriting
    rw [hwriting] at hno
    simpa using hno

end

section

variable [UuidText] [Sha256] {k : String} {time : OffsetDateTime} {w : Pool World Task}

omit [UuidText] in
theorem Sound.spawn (h : Sound k w) (keyId keySecret : String) :
    Sound k { w with tasks := w.tasks ++ [.validate { keyId, keySecret, phase := .finding }] } where
  ids := by
    intro v hv
    obtain hv | hv := List.mem_append.mp hv
    · exact h.ids v hv
    · cases List.mem_singleton.mp hv
      exact ⟨by simp, by simp⟩
  expiry := by
    obtain ⟨e, he, hkey, hclock, hsettled⟩ := h.expiry
    refine ⟨e, ?_, hkey, hclock, fun time htime => ?_⟩
    · rwa [List.getElem?_append_left (List.getElem?_eq_some_iff.mp he).1]
    · have hbefore := hsettled time htime
      refine ⟨hbefore.clock, hbefore.row, fun v hv hk => ?_⟩
      obtain hv | hv := List.mem_append.mp hv
      · exact hbefore.inFlight v hv hk
      · cases List.mem_singleton.mp hv
        exact ⟨by simp, by simp⟩
  only := by
    intro i e he
    by_cases hi : i < w.tasks.length
    · rw [List.getElem?_append_left hi] at he
      exact h.only i e he
    · rw [List.getElem?_append_right (Nat.le_of_not_lt hi)] at he
      cases List.mem_singleton.mp (List.mem_of_getElem? he)

omit [UuidText] in
theorem Sound.tick (h : Sound k w) (time : OffsetDateTime) :
    Sound k { w with shared := { w.shared with clock := max w.shared.clock time } } where
  ids := h.ids
  expiry := by
    obtain ⟨e, he, hkey, hclock, hsettled⟩ := h.expiry
    have hle : w.shared.clock ≤ max w.shared.clock time := le_max_left _ _
    refine ⟨e, he, hkey, fun now hnow => (hclock now hnow).trans hle, fun time htime => ?_⟩
    have hbefore := hsettled time htime
    exact ⟨hbefore.clock.trans hle, hbefore.row,
      fun v hv hk => (hbefore.inFlight v hv hk).mono hle⟩
  only := h.only

omit [UuidText] in
theorem Sound.validate (h : Sound k w) {i : Nat} {fault : Option String} {v v' : Validation}
    {world' : World} (hok : undisturbed w (.run i fault) = true)
    (htask : w.tasks[i]? = some (.validate v)) (heffect : Effect w.shared v world' v') :
    Sound k { shared := world', tasks := w.tasks.set i (.validate v') } := by
  have hown := h.ids v (List.mem_of_getElem? htask)
  obtain ⟨hkeyId, -, hclockEq⟩ := heffect.frame
  obtain ⟨e, he, hkey, hclock, hsettled⟩ := h.expiry
  have hi : i ≠ 0 := by
    rintro rfl
    rw [he] at htask
    cases htask
  refine ⟨?_, ⟨e, ?_, hkey, ?_, fun time htime => ?_⟩, ?_⟩
  · intro u hu
    obtain hu | hu := List.mem_or_eq_of_mem_set hu
    · exact h.ids u hu
    · cases hu
      exact heffect.hasOwnRow hown
  · rwa [List.getElem?_set_ne hi]
  · rwa [hclockEq]
  · have hbefore := hsettled time htime
    have hpast : ∀ key, v.phase = .checking key → v.keyId = k → time < w.shared.clock :=
      fun key hphase hk => past_of_undisturbed hok htask hphase (List.mem_of_getElem? he) htime
        (hkey.trans hk.symm)
    obtain ⟨hrow, hspent⟩ := heffect.spent hown hbefore.row
      (hbefore.inFlight v (List.mem_of_getElem? htask)) hpast
    refine ⟨by rw [hclockEq]; exact hbefore.clock, hrow, fun u hu hk => ?_⟩
    obtain hu | hu := List.mem_or_eq_of_mem_set hu
    · rw [hclockEq]
      exact hbefore.inFlight u hu hk
    · cases hu
      exact hspent (hkeyId ▸ hk)
  · intro j e' he'
    obtain ⟨-, heq⟩ | ⟨-, hget⟩ := Pool.getElem?_set_cases he'
    · cases heq
    · exact h.only j e' hget

omit [UuidText] in
theorem Sound.expire (h : Sound k w) {i : Nat} {fault : Option String} {e e' : Expiry}
    {world' : World} (hok : undisturbed w (.run i fault) = true)
    (htask : w.tasks[i]? = some (.expire e)) (heffect : ExpiryEffect w.shared e fault world' e') :
    Sound k { shared := world', tasks := w.tasks.set i (.expire e') } := by
  obtain rfl := h.only i e htask
  obtain ⟨e₀, he, hkey, hclock, hsettled⟩ := h.expiry
  rw [htask] at he
  cases he
  have hlt := (List.getElem?_eq_some_iff.mp htask).1
  have hvalidate : ∀ v, .validate v ∈ w.tasks.set 0 (.expire e') → .validate v ∈ w.tasks := by
    intro v hv
    obtain hv | hv := List.mem_or_eq_of_mem_set hv
    · exact hv
    · cases hv
  refine ⟨fun v hv => h.ids v (hvalidate v hv), ?_, ?_⟩
  · refine ⟨e', by simp [hlt], ?_⟩
    cases heffect with
    | expired now hphase hfault =>
      subst hfault
      refine ⟨hkey, by simp, ?_⟩
      intro time htime
      cases htime
      refine ⟨hclock now hphase, ?_, fun v hv hk => ?_⟩
      · rw [← hkey]
        exact rowExpires_expire _ _ _
      · have hspent : v.Spent now w.shared.clock :=
          spent_of_undisturbed hok htask hphase (hvalidate v hv) (hk.trans hkey.symm)
        exact hspent
    | read => exact ⟨hkey, by simp, by simp⟩
    | onward phase hnext =>
      exact ⟨hkey, fun now hnow => absurd hnow (hnext now).1,
        fun time htime => absurd htime (hnext time).2⟩
  · intro j e'' he''
    obtain ⟨hj, -⟩ | ⟨-, hget⟩ := Pool.getElem?_set_cases he''
    · exact hj
    · exact h.only j e'' hget

theorem Sound.step (h : Sound k w) {move : Move (String × String) (Option String) OffsetDateTime}
    (hok : undisturbed w move = true) : Sound k (program.step w move) := by
  have hsteps := program.steps_step w move
  generalize program.step w move = w' at hsteps
  cases hsteps with
  | idle => exact h
  | spawn op => exact h.spawn op.1 op.2
  | outside time => exact h.tick time
  | run htask hadvance =>
    rename_i i fault t t' world'
    cases t with
    | validate v =>
      obtain ⟨⟨world'', v'⟩, hv, heq⟩ := Option.map_eq_some_iff.mp hadvance
      cases heq
      exact h.validate hok htask (Validation.advance_effect hv)
    | expire e =>
      obtain ⟨⟨world'', e'⟩, he, heq⟩ := Option.map_eq_some_iff.mp hadvance
      cases heq
      exact h.expire hok htask (Expiry.advance_effect he)

/-! ## After the expiry -/

/-- The key expired at `time`, and the validations from the `n`-th task on came later. -/
structure Revoked (k : String) (time : OffsetDateTime) (n : Nat) (w : Pool World Task) : Prop where
  expired : ∃ e, w.tasks[0]? = some (.expire e) ∧ e.keyId = k ∧ e.phase = .expired time
  later : ∀ j v, n ≤ j → w.tasks[j]? = some (.validate v) → v.keyId = k → v.Barred time

omit [UuidText] in
theorem Revoked.settled {n : Nat} (h : Revoked k time n w) (hsound : Sound k w) :
    Settled k time w := by
  obtain ⟨e, he, -, hphase⟩ := h.expired
  obtain ⟨e', he', -, -, hsettled⟩ := hsound.expiry
  rw [he] at he'
  cases he'
  exact hsettled time hphase

theorem Revoked.step {n : Nat} (h : Revoked k time n w) (hsound : Sound k w)
    {move : Move (String × String) (Option String) OffsetDateTime}
    (hok : undisturbed w move = true) : Revoked k time n (program.step w move) := by
  obtain ⟨e, he, hkey, hphase⟩ := h.expired
  have hsteps := program.steps_step w move
  generalize program.step w move = w' at hsteps
  cases hsteps with
  | idle => exact h
  | outside time => exact ⟨h.expired, h.later⟩
  | spawn op =>
    refine ⟨⟨e, ?_, hkey, hphase⟩, fun j v hj hv hk => ?_⟩
    · rwa [List.getElem?_append_left (List.getElem?_eq_some_iff.mp he).1]
    · by_cases hlt : j < w.tasks.length
      · rw [List.getElem?_append_left hlt] at hv
        exact h.later j v hj hv hk
      · rw [List.getElem?_append_right (Nat.le_of_not_lt hlt)] at hv
        cases List.mem_singleton.mp (List.mem_of_getElem? hv)
        exact .inl rfl
  | run htask hadvance =>
    rename_i i fault t t' world'
    cases t with
    | validate v =>
      obtain ⟨⟨world'', v'⟩, hv, heq⟩ := Option.map_eq_some_iff.mp hadvance
      cases heq
      have heffect := Validation.advance_effect hv
      have hi : i ≠ 0 := by
        rintro rfl
        rw [he] at htask
        cases htask
      refine ⟨⟨e, by rwa [List.getElem?_set_ne hi], hkey, hphase⟩, fun j u hj hu hk => ?_⟩
      obtain ⟨rfl, heq⟩ | ⟨-, hget⟩ := Pool.getElem?_set_cases hu
      · cases heq
        rw [heffect.frame.1] at hk
        refine heffect.barred (hk ▸ (h.settled hsound).row) (fun key hchecking => ?_)
          (h.later j v hj htask hk)
        exact past_of_undisturbed hok htask hchecking (List.mem_of_getElem? he) hphase
          (hkey.trans hk.symm)
      · exact h.later j u hj hget hk
    | expire e' =>
      obtain ⟨⟨world'', e''⟩, hadv, -⟩ := Option.map_eq_some_iff.mp hadvance
      obtain rfl := hsound.only i e' htask
      rw [he] at htask
      cases htask
      simp [Expiry.advance, hphase] at hadv

omit [UuidText] in
theorem sound_revoking (world : World) (e : Expiry) : Sound e.keyId (revoking world e) where
  ids := by simp [revoking]
  expiry := ⟨_, rfl, rfl, by simp, by simp⟩
  only := by
    intro i e' he'
    have hlt := (List.getElem?_eq_some_iff.mp he').1
    simpa [revoking] using hlt

/-- In a run in which no validation can bring the key back when it is expired, and none looks
at the clock too early, the key stays expired. -/
theorem staysRevoked_of_undisturbed (world : World) (e : Expiry)
    (moves : List (Move (String × String) (Option String) OffsetDateTime))
    (hrun : Along program.step (fun w move => undisturbed w move = true) (revoking world e)
      moves) :
    ∀ reached rest, moves = reached ++ rest → StaysRevoked world e reached := by
  rintro reached rest rfl before after ex now rfl hexpired hphase
  obtain ⟨hreached, -⟩ := (along_append _ _ _).mp hrun
  obtain ⟨hbefore, hafter⟩ := (along_append _ _ _).mp hreached
  have hsound : Sound e.keyId (program.run (revoking world e) before) :=
    Along.invariant (fun _ _ h hok => h.step hok) (sound_revoking world e) hbefore
  have hkey : ex.keyId = e.keyId := by
    obtain ⟨e', he', hkey, -⟩ := hsound.expiry
    rw [hexpired] at he'
    cases he'
    exact hkey
  have hstart : Revoked e.keyId now (program.run (revoking world e) before).tasks.length
      (program.run (revoking world e) before) := by
    refine ⟨⟨ex, hexpired, hkey, hphase⟩, fun j v hj hv => ?_⟩
    exact absurd (List.getElem?_eq_some_iff.mp hv).1 (Nat.not_lt.mpr hj)
  obtain ⟨hend, hrevoked⟩ := Along.invariant (I := fun w => Sound e.keyId w ∧
      Revoked e.keyId now (program.run (revoking world e) before).tasks.length w)
    (fun w move h hok => ⟨h.1.step hok, h.2.step h.1 hok⟩) ⟨hsound, hstart⟩ hafter
  have hjoin : program.run (revoking world e) (before ++ after) =
      after.foldl program.step (program.run (revoking world e) before) :=
    List.foldl_append
  rw [hjoin]
  refine ⟨(hrevoked.settled hend).row, fun j v hj hv hk ctx hok => ?_⟩
  obtain hfinding | ⟨key, hchecking, -⟩ | ⟨rejection, hfinished⟩ := hrevoked.later j v hj hv hk
  all_goals simp_all

end

/-! ## A key that comes back -/

/-- Two hours into the day the key is valid for. -/
def seededWorld : World where
  store := seededStore
  clock := ⟨7200 * 10 ^ 9, by decide, by decide⟩

/-- The owner asks for its own key to be expired. -/
def ownRequest : Expiry where
  actor := actorFromUser seededOwner
  authenticatedUser := ⟨1⟩
  requestedUser := "me"
  keyId := "abcdefghij"
  phase := .resolving

/-- The key is expired, and then a request presents it. -/
def expireFirst : List (Move (String × String) (Option String) OffsetDateTime) :=
  [.run 0 none, .run 0 none, .run 0 none, .run 0 none,
    .outside ⟨7201 * 10 ^ 9, by decide, by decide⟩,
    .spawn ("abcdefghij", "0123456789abcdefghijkl"), .run 1 none, .run 1 none]

theorem staysRevoked_expireFirst :
    @StaysRevoked Uuid.hyphenated seededDigest seededWorld ownRequest expireFirst :=
  @staysRevoked_of_undisturbed Uuid.hyphenated seededDigest seededWorld ownRequest expireFirst
    (by decide +kernel) expireFirst [] (List.append_nil _).symm

/-- A request reads the row and the clock, and then the key is expired. -/
def expireBetween : List (Move (String × String) (Option String) OffsetDateTime) :=
  [.spawn ("abcdefghij", "0123456789abcdefghijkl"), .run 1 none, .run 1 none,
    .run 0 none, .run 0 none, .run 0 none, .run 0 none]

/-- The write of the request comes last, with an expiry a day later. -/
theorem not_staysRevoked_expireBetween :
    ¬ @StaysRevoked Uuid.hyphenated seededDigest seededWorld ownRequest
      (expireBetween ++ [.run 1 none]) := by
  intro h
  obtain ⟨hrow, -⟩ := h expireBetween [.run 1 none]
    { ownRequest with phase := .expired seededWorld.clock } seededWorld.clock rfl rfl rfl
  have hlate := hrow
    { seededKey.toApiKeyRow with
      lastUsed := seededWorld.clock
      expiresAt := ⟨93600 * 10 ^ 9, by decide, by decide⟩ } rfl
  exact absurd hlate (by decide)

end Coderd.Auth.KeyRevocation
