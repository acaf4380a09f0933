import Coderd.Auth.ApiKeys

namespace Coderd.Auth

open Coderd.Foundation Coderd.Rbac
open Coderd.CryptoKeys (Duration)

/-! ## The cache -/

/-- `cachedAt` is on the monotonic clock, in nanoseconds. -/
structure CachedSession where
  user : AuthenticatedUser
  cachedAt : Nat

/-- Keyed by the token's hash. -/
structure SessionCache where
  entries : HashMap (List UInt8) CachedSession
  ttl : Duration
  insertCount : UInt64

/-- Expired entries are swept every so many inserts. -/
def sweepInterval : UInt64 := 100

/-- A map of so many entries is swept on every insert. -/
def sweepSizeThreshold : Nat := 10000

/-- The entry is within the time to live. An instant in the future has not elapsed at all. -/
def CachedSession.isFresh (cached : CachedSession) (ttl : Duration) (now : Nat) : Bool :=
  now - cached.cachedAt < ttl.nanos

namespace SessionCache

def new (ttl : Duration) : SessionCache where
  entries := ∅
  ttl := ttl
  insertCount := 0

def get (cache : SessionCache) (tokenHash : List UInt8) (now : Nat) : Option AuthenticatedUser :=
  match cache.entries.lookup tokenHash with
  | some cached => if cached.isFresh cache.ttl now then some cached.user else none
  | none => none

/-- `fetch_add` on the counter, which wraps. -/
def count (cache : SessionCache) : SessionCache × UInt64 :=
  ({ cache with insertCount := cache.insertCount + 1 }, cache.insertCount)

/-- What `insert` does under the write lock, with the count it got before. -/
def insertCounted (cache : SessionCache) (tokenHash : List UInt8) (user : AuthenticatedUser)
    (count : UInt64) (now : Nat) : SessionCache :=
  let shouldSweep := count % sweepInterval = 0 ∨ sweepSizeThreshold ≤ cache.entries.entries.length
  let kept :=
    if shouldSweep then cache.entries.retain fun _ cached => cached.isFresh cache.ttl now
    else cache.entries
  { cache with entries := kept.insert tokenHash { user, cachedAt := now } }

def evict (cache : SessionCache) (tokenHash : List UInt8) : SessionCache :=
  { cache with entries := cache.entries.erase tokenHash }

def evictUser (cache : SessionCache) (userId : Uuid) : SessionCache :=
  { cache with entries := cache.entries.retain fun _ cached => cached.user.id ≠ userId }

variable {cache : SessionCache} {tokenHash k : List UInt8} {cached : CachedSession}

theorem get_eq_some {user : AuthenticatedUser} {now : Nat}
    (h : cache.get tokenHash now = some user) :
    0 < cache.ttl.nanos ∧ ∃ cached, cache.entries.lookup tokenHash = some cached ∧
      cached.user = user := by
  unfold get at h
  split at h
  next cached hlookup =>
    split at h
    next hfresh =>
      cases h
      have helapsed : now - cached.cachedAt < cache.ttl.nanos := by
        simpa [CachedSession.isFresh] using hfresh
      exact ⟨by omega, cached, hlookup, rfl⟩
    · cases h
  · cases h

/-- An insert adds one entry, and may drop others. -/
theorem lookup_insertCounted {user : AuthenticatedUser} {count : UInt64} {now : Nat}
    (h : (cache.insertCounted tokenHash user count now).entries.lookup k = some cached) :
    (k = tokenHash ∧ cached.user = user) ∨ cache.entries.lookup k = some cached := by
  unfold insertCounted at h
  dsimp only at h
  rw [HashMap.lookup_insert_ite] at h
  split at h
  next hk =>
    cases h
    exact .inl ⟨hk, rfl⟩
  · right
    split at h
    · rw [HashMap.lookup_retain, Option.filter_eq_some_iff] at h
      exact h.1
    · exact h

theorem lookup_evict (cache : SessionCache) (tokenHash k : List UInt8) :
    (cache.evict tokenHash).entries.lookup k =
      if k = tokenHash then none else cache.entries.lookup k :=
  HashMap.lookup_erase_ite _ _ _

theorem lookup_evictUser {userId : Uuid} :
    (cache.evictUser userId).entries.lookup k = some cached ↔
      cache.entries.lookup k = some cached ∧ cached.user.id ≠ userId := by
  unfold evictUser
  rw [HashMap.lookup_retain, Option.filter_eq_some_iff]
  simp

end SessionCache

/-! ## The sessions of the store -/

namespace Store

def findUserBySessionTokenHash [UuidText] (store : Store) (tokenHash : List UInt8) :
    Option AuthenticatedUser :=
  match store.authSessions.lookup tokenHash with
  | none => none
  | some userId =>
    (store.findUserById userId).map fun user =>
      { AuthenticatedUser.ofRecord user with
        orgRoles := orgRolesOf (store.listUserMemberships userId) }

def deleteAuthSession (store : Store) (tokenHash : List UInt8) : Store :=
  { store with authSessions := store.authSessions.erase tokenHash }

/-- One transaction: the user's password is replaced, and with it go its sessions and keys. -/
def replaceUserPassword (store : Store) (userId : Uuid) : Store × Bool :=
  match store.findUserById userId with
  | none => (store, false)
  | some _ =>
    ({ store with
        authSessions := store.authSessions.retain fun _ owner => owner ≠ userId
        apiKeys := store.apiKeys.retain fun _ key => key.userId ≠ userId }, true)

theorem lookup_replaceUserPassword {store : Store} {userId : Uuid}
    (h : (store.replaceUserPassword userId).2 = true) (k : List UInt8) :
    (store.replaceUserPassword userId).1.authSessions.lookup k =
      (store.authSessions.lookup k).filter fun owner => owner ≠ userId := by
  unfold replaceUserPassword at h ⊢
  split
  next hnone =>
    rw [hnone] at h
    cases h
  · exact HashMap.lookup_retain _ _ _

theorem replaceUserPassword_of_false {store : Store} {userId : Uuid}
    (h : (store.replaceUserPassword userId).2 = false) :
    (store.replaceUserPassword userId).1 = store := by
  unfold replaceUserPassword at h ⊢
  split
  · rfl
  next hsome =>
    rw [hsome] at h
    cases h

/-- A session is looked up for the user it belongs to. -/
theorem findUserBySessionTokenHash_eq_some [UuidText] {store : Store} {tokenHash : List UInt8}
    {user : AuthenticatedUser} (h : store.findUserBySessionTokenHash tokenHash = some user) :
    store.authSessions.lookup tokenHash = some user.id := by
  unfold findUserBySessionTokenHash at h
  split at h
  · cases h
  next userId hlookup =>
    obtain ⟨record, hrecord, rfl⟩ := Option.map_eq_some_iff.mp h
    rw [hlookup]
    exact congrArg some (findUserById_id hrecord).symm

end Store

/-! ## Lookups -/

structure AuthenticatedRequest where
  sessionToken : String
  user : AuthenticatedUser
  actor : Actor

def AuthenticatedRequest.of (sessionToken : String) (user : AuthenticatedUser) :
    AuthenticatedRequest where
  sessionToken := sessionToken
  user := user
  actor := actorFromUser user

end Coderd.Auth
