import Coderd.Auth.SessionCache
import Coderd.Foundation.Interleaving

namespace Coderd.Auth.SessionRevocation

open Coderd.Foundation Coderd.Rbac
open Coderd.CryptoKeys (Duration)

/-! ## The calls, step by step -/

/-- The store, the cache and the monotonic clock. -/
structure World where
  store : Store
  cache : SessionCache
  clock : Nat

/-- An insert takes a number from the counter before it takes the lock. -/
inductive AuthenticationPhase where
  | looking
  | querying
  | counting (user : AuthenticatedUser)
  | inserting (user : AuthenticatedUser) (count : UInt64)
  | finished (result : Except String (Option AuthenticatedRequest))

structure Authentication where
  sessionToken : String
  phase : AuthenticationPhase

inductive LogoutPhase where
  | deleting
  | evicting
  | finished (result : Except String Unit)

structure Logout where
  sessionToken : String
  phase : LogoutPhase

/-- The end of both password changes, after their checks. -/
inductive PasswordPhase where
  | replacing
  | evicting
  | finished (result : Except AuthServiceError Uuid)

structure PasswordChange where
  userId : Uuid
  phase : PasswordPhase

section

variable [UuidText] [Sha256]

def Authentication.tokenHash (a : Authentication) : List UInt8 := Sha256.digest a.sessionToken

def Authentication.advance (world : World) (a : Authentication) (fault : Option String) :
    Option (World × Authentication) :=
  match a.phase, fault with
  | .looking, _ =>
    match world.cache.get a.tokenHash world.clock with
    | some user =>
      some (world, { a with phase := .finished (.ok (some (.of a.sessionToken user))) })
    | none => some (world, { a with phase := .querying })
  | .querying, some e => some (world, { a with phase := .finished (.error e) })
  | .querying, none =>
    match world.store.findUserBySessionTokenHash a.tokenHash with
    | none => some (world, { a with phase := .finished (.ok none) })
    | some user => some (world, { a with phase := .counting user })
  | .counting user, _ =>
    let (cache, count) := world.cache.count
    some ({ world with cache }, { a with phase := .inserting user count })
  | .inserting user count, _ =>
    some ({ world with cache := world.cache.insertCounted a.tokenHash user count world.clock },
      { a with phase := .finished (.ok (some (.of a.sessionToken user))) })
  | .finished _, _ => none

def Logout.tokenHash (l : Logout) : List UInt8 := Sha256.digest l.sessionToken

def Logout.advance (world : World) (l : Logout) (fault : Option String) :
    Option (World × Logout) :=
  match l.phase, fault with
  | .deleting, some e => some (world, { l with phase := .finished (.error e) })
  | .deleting, none =>
    some ({ world with store := world.store.deleteAuthSession l.tokenHash },
      { l with phase := .evicting })
  | .evicting, _ =>
    some ({ world with cache := world.cache.evict l.tokenHash },
      { l with phase := .finished (.ok ()) })
  | .finished _, _ => none

def PasswordChange.advance (world : World) (p : PasswordChange) (fault : Option String) :
    Option (World × PasswordChange) :=
  match p.phase, fault with
  | .replacing, some e => some (world, { p with phase := .finished (.error (.storage e)) })
  | .replacing, none =>
    match world.store.replaceUserPassword p.userId with
    | (store, true) => some ({ world with store }, { p with phase := .evicting })
    | (store, false) =>
      some ({ world with store },
        { p with phase := .finished (.error (.notFound "User not found.")) })
  | .evicting, _ =>
    some ({ world with cache := world.cache.evictUser p.userId },
      { p with phase := .finished (.ok p.userId) })
  | .finished _, _ => none

inductive Task where
  | authenticate (a : Authentication)
  | logout (l : Logout)
  | changePassword (p : PasswordChange)

inductive Op where
  | authenticate (sessionToken : String)
  | logout (sessionToken : String)
  | changePassword (userId : Uuid)

def Task.enter : Op → Task
  | .authenticate sessionToken => .authenticate { sessionToken, phase := .looking }
  | .logout sessionToken => .logout { sessionToken, phase := .deleting }
  | .changePassword userId => .changePassword { userId, phase := .replacing }

def Task.advance (world : World) (t : Task) (fault : Option String) : Option (World × Task) :=
  match t with
  | .authenticate a => (a.advance world fault).map fun (world, a) => (world, .authenticate a)
  | .logout l => (l.advance world fault).map fun (world, l) => (world, .logout l)
  | .changePassword p => (p.advance world fault).map fun (world, p) => (world, .changePassword p)

/-- The clock moves on from outside. -/
def program : Program World Task Op (Option String) Nat where
  enter := Task.enter
  advance := Task.advance
  outside world elapsed := { world with clock := world.clock + elapsed }

end

/-- A service that has just started, on a store with sessions. -/
def started (store : Store) (ttl : Duration) (clock : Nat) : Pool World Task where
  shared := { store, cache := .new ttl, clock }
  tasks := []

/-! ## What is claimed -/

section

variable [Sha256]

/-- The sessions the call ends: the one of the token, or all those the user has. -/
def Task.revokes (initial : Store) (tokenHash : List UInt8) : Task → Prop
  | .authenticate _ => False
  | .logout l => l.tokenHash = tokenHash
  | .changePassword p => initial.authSessions.lookup tokenHash = some p.userId

end

def Task.hasReturned : Task → Prop
  | .authenticate _ => False
  | .logout l => l.phase = .finished (.ok ())
  | .changePassword p => ∃ userId, p.phase = .finished (.ok userId)

section

variable [UuidText] [Sha256]

/-- Once a logout or a password change has returned, no call of `authenticate` that is started
from then on with a token it ended returns a user. -/
def TakesEffectAtOnce (store : Store) (ttl : Duration) (clock : Nat)
    (moves : List (Move Op (Option String) Nat)) : Prop :=
  ∀ before after t tokenHash, moves = before ++ after →
    t ∈ (program.run (started store ttl clock) before).tasks → t.hasReturned →
    t.revokes store tokenHash →
    ∀ j a, (program.run (started store ttl clock) before).tasks.length ≤ j →
      (program.run (started store ttl clock) moves).tasks[j]? = some (.authenticate a) →
      a.tokenHash = tokenHash → ∀ request, a.phase ≠ .finished (.ok (some request))

end

/-! ## Lookups that are about to be cached -/

section

variable [Sha256]

/-- The entry that the call is about to make. -/
def Task.caches : Task → Option (List UInt8 × AuthenticatedUser)
  | .authenticate a =>
    match a.phase with
    | .counting user | .inserting user _ => some (a.tokenHash, user)
    | _ => none
  | _ => none

/-- No call is about to cache what is being evicted. -/
def undisturbed (w : Pool World Task) : Move Op (Option String) Nat → Bool
  | .run i _ =>
    w.shared.cache.ttl.nanos = 0 ||
      match w.tasks[i]? with
      | some (.logout l) =>
        match l.phase with
        | .evicting => w.tasks.all fun t => t.caches.all fun entry => entry.1 ≠ l.tokenHash
        | _ => true
      | some (.changePassword p) =>
        match p.phase with
        | .evicting => w.tasks.all fun t => t.caches.all fun entry => entry.2.id ≠ p.userId
        | _ => true
      | _ => true
  | _ => true

end

/-! ## What a step can do -/

section

variable [Sha256]

/-- A step only takes sessions away, caches what it was about to cache, and is about to cache
what the store has. -/
structure Confined (world : World) (t : Task) (world' : World) (t' : Task) : Prop where
  sessions : ∀ k userId, world'.store.authSessions.lookup k = some userId →
    world.store.authSessions.lookup k = some userId
  entries : ∀ k cached, world'.cache.entries.lookup k = some cached →
    world.cache.entries.lookup k = some cached ∨ t.caches = some (k, cached.user)
  caches : ∀ k user, t'.caches = some (k, user) →
    t.caches = some (k, user) ∨ world.store.authSessions.lookup k = some user.id
  ttl : world'.cache.ttl = world.cache.ttl
  revokes : ∀ initial k, t'.revokes initial k ↔ t.revokes initial k

/-- The call has deleted the rows of what it ends. -/
def Task.hasDeleted : Task → Prop
  | .authenticate _ => False
  | .logout l => l.phase = .evicting ∨ l.phase = .finished (.ok ())
  | .changePassword p => p.phase = .evicting ∨ ∃ userId, p.phase = .finished (.ok userId)

variable {world world' : World} {fault : Option String}

theorem Authentication.advance_confined [UuidText] {a a' : Authentication}
    (h : a.advance world fault = some (world', a')) :
    Confined world (.authenticate a) world' (.authenticate a') := by
  cases hphase : a.phase with
  | looking =>
    simp only [Authentication.advance, hphase] at h
    split at h
    all_goals
      cases h
      exact ⟨fun _ _ hk => hk, fun _ _ hk => .inl hk, by simp [Task.caches], rfl, fun _ _ => .rfl⟩
  | querying =>
    cases fault with
    | some e =>
      simp only [Authentication.advance, hphase] at h
      cases h
      exact ⟨fun _ _ hk => hk, fun _ _ hk => .inl hk, by simp [Task.caches], rfl, fun _ _ => .rfl⟩
    | none =>
      simp only [Authentication.advance, hphase] at h
      split at h
      · cases h
        exact ⟨fun _ _ hk => hk, fun _ _ hk => .inl hk, by simp [Task.caches], rfl,
          fun _ _ => .rfl⟩
      next user huser =>
        cases h
        refine ⟨fun _ _ hk => hk, fun _ _ hk => .inl hk, fun k user' hcaches => ?_, rfl,
          fun _ _ => .rfl⟩
        cases hcaches
        exact .inr (Store.findUserBySessionTokenHash_eq_some huser)
  | counting user =>
    simp only [Authentication.advance, hphase, SessionCache.count] at h
    cases h
    refine ⟨fun _ _ hk => hk, fun _ _ hk => .inl hk, fun k user' hcaches => ?_, rfl,
      fun _ _ => .rfl⟩
    cases hcaches
    left
    simp [Task.caches, hphase, Authentication.tokenHash]
  | inserting user count =>
    simp only [Authentication.advance, hphase] at h
    cases h
    refine ⟨fun _ _ hk => hk, fun k cached hk => ?_, by simp [Task.caches], rfl,
      fun _ _ => .rfl⟩
    obtain ⟨rfl, rfl⟩ | hbefore := SessionCache.lookup_insertCounted hk
    · right
      simp [Task.caches, hphase]
    · exact .inl hbefore
  | finished result =>
    simp only [Authentication.advance, hphase] at h
    cases h

theorem Logout.advance_confined {l l' : Logout} (h : l.advance world fault = some (world', l')) :
    Confined world (.logout l) world' (.logout l') := by
  cases hphase : l.phase with
  | deleting =>
    cases fault with
    | some e =>
      simp only [Logout.advance, hphase] at h
      cases h
      exact ⟨fun _ _ hk => hk, fun _ _ hk => .inl hk, by simp [Task.caches], rfl, fun _ _ => .rfl⟩
    | none =>
      simp only [Logout.advance, hphase] at h
      cases h
      refine ⟨fun k userId hk => ?_, fun _ _ hk => .inl hk, by simp [Task.caches], rfl,
        fun _ _ => .rfl⟩
      simp only [Store.deleteAuthSession] at hk
      rw [HashMap.lookup_erase_ite] at hk
      split at hk
      · cases hk
      · exact hk
  | evicting =>
    simp only [Logout.advance, hphase] at h
    cases h
    refine ⟨fun _ _ hk => hk, fun k cached hk => ?_, by simp [Task.caches], rfl, fun _ _ => .rfl⟩
    rw [SessionCache.lookup_evict] at hk
    split at hk
    · cases hk
    · exact .inl hk
  | finished result =>
    simp only [Logout.advance, hphase] at h
    cases h

theorem PasswordChange.advance_confined {p p' : PasswordChange}
    (h : p.advance world fault = some (world', p')) :
    Confined world (.changePassword p) world' (.changePassword p') := by
  cases hphase : p.phase with
  | replacing =>
    cases fault with
    | some e =>
      simp only [PasswordChange.advance, hphase] at h
      cases h
      exact ⟨fun _ _ hk => hk, fun _ _ hk => .inl hk, by simp [Task.caches], rfl, fun _ _ => .rfl⟩
    | none =>
      simp only [PasswordChange.advance, hphase] at h
      split at h
      next store hreplaced =>
        cases h
        refine ⟨fun k userId hk => ?_, fun _ _ hk => .inl hk, by simp [Task.caches], rfl,
          fun _ _ => .rfl⟩
        have hstore : store = (world.store.replaceUserPassword p.userId).1 := by rw [hreplaced]
        simp only [hstore] at hk
        rw [Store.lookup_replaceUserPassword (by rw [hreplaced]), Option.filter_eq_some_iff] at hk
        exact hk.1
      next store hreplaced =>
        cases h
        have hfalse : (world.store.replaceUserPassword p.userId).2 = false := by rw [hreplaced]
        have hstore : store = world.store :=
          (congrArg Prod.fst hreplaced).symm.trans (Store.replaceUserPassword_of_false hfalse)
        rw [hstore]
        exact ⟨fun _ _ hk => hk, fun _ _ hk => .inl hk, by simp [Task.caches], rfl,
          fun _ _ => .rfl⟩
  | evicting =>
    simp only [PasswordChange.advance, hphase] at h
    cases h
    exact ⟨fun _ _ hk => hk, fun k cached hk => .inl (SessionCache.lookup_evictUser.mp hk).1,
      by simp [Task.caches], rfl, fun _ _ => .rfl⟩
  | finished result =>
    simp only [PasswordChange.advance, hphase] at h
    cases h

theorem Task.advance_confined [UuidText] {t t' : Task}
    (h : t.advance world fault = some (world', t')) : Confined world t world' t' := by
  cases t with
  | authenticate a =>
    obtain ⟨⟨world'', a'⟩, ha, heq⟩ := Option.map_eq_some_iff.mp h
    cases heq
    exact Authentication.advance_confined ha
  | logout l =>
    obtain ⟨⟨world'', l'⟩, hl, heq⟩ := Option.map_eq_some_iff.mp h
    cases heq
    exact Logout.advance_confined hl
  | changePassword p =>
    obtain ⟨⟨world'', p'⟩, hp, heq⟩ := Option.map_eq_some_iff.mp h
    cases heq
    exact PasswordChange.advance_confined hp

/-- The session is deleted, and neither cached nor about to be. -/
structure Gone (tokenHash : List UInt8) (w : Pool World Task) : Prop where
  row : w.shared.store.authSessions.lookup tokenHash = none
  entry : w.shared.cache.ttl.nanos = 0 ∨
    w.shared.cache.entries.lookup tokenHash = none ∧
      ∀ t ∈ w.tasks, ∀ user, t.caches ≠ some (tokenHash, user)

structure Sound (initial : Store) (w : Pool World Task) : Prop where
  sessions : ∀ k userId, w.shared.store.authSessions.lookup k = some userId →
    initial.authSessions.lookup k = some userId
  cached : ∀ k cached, w.shared.cache.entries.lookup k = some cached →
    initial.authSessions.lookup k = some cached.user.id
  caching : ∀ t ∈ w.tasks, ∀ k user, t.caches = some (k, user) →
    initial.authSessions.lookup k = some user.id
  deleted : ∀ t ∈ w.tasks, t.hasDeleted → ∀ k, t.revokes initial k →
    w.shared.store.authSessions.lookup k = none
  returned : ∀ t ∈ w.tasks, t.hasReturned → ∀ k, t.revokes initial k → Gone k w

variable {initial : Store} {w : Pool World Task} {i : Nat} {t t' : Task} {k : List UInt8}

/-- What is deleted stays so, and nothing caches it any more. -/
theorem Gone.advance (h : Gone k w) (htask : w.tasks[i]? = some t)
    (hconfined : Confined w.shared t world' t') :
    Gone k { shared := world', tasks := w.tasks.set i t' } where
  row := by
    refine Option.eq_none_iff_forall_ne_some.mpr fun userId hrow => ?_
    have hbefore := hconfined.sessions k userId hrow
    rw [h.row] at hbefore
    cases hbefore
  entry := by
    rw [hconfined.ttl]
    refine h.entry.imp_right ?_
    rintro ⟨hnone, hcaches⟩
    have ht := List.mem_of_getElem? htask
    constructor
    · refine Option.eq_none_iff_forall_ne_some.mpr fun cached hcached => ?_
      obtain hbefore | hcaching := hconfined.entries k cached hcached
      · rw [hnone] at hbefore
        cases hbefore
      · exact hcaches t ht _ hcaching
    · intro u hu user hcaching
      obtain hu | rfl := List.mem_or_eq_of_mem_set hu
      · exact hcaches u hu user hcaching
      · obtain hbefore | hrow := hconfined.caches k user hcaching
        · exact hcaches t ht user hbefore
        · rw [h.row] at hrow
          cases hrow

/-- A step keeps the invariant, if what the step itself has deleted or ended is gone. -/
theorem Sound.advance (h : Sound initial w) (htask : w.tasks[i]? = some t)
    (hconfined : Confined w.shared t world' t')
    (hdeleted : t'.hasDeleted → ∀ k, t'.revokes initial k →
      world'.store.authSessions.lookup k = none)
    (hreturned : t'.hasReturned → ∀ k, t'.revokes initial k →
      Gone k { shared := world', tasks := w.tasks.set i t' }) :
    Sound initial { shared := world', tasks := w.tasks.set i t' } where
  sessions k userId hk := h.sessions k userId (hconfined.sessions k userId hk)
  cached k cached hk := by
    obtain hbefore | hcaching := hconfined.entries k cached hk
    · exact h.cached k cached hbefore
    · exact h.caching t (List.mem_of_getElem? htask) k cached.user hcaching
  caching u hu k user hcaching := by
    obtain hu | rfl := List.mem_or_eq_of_mem_set hu
    · exact h.caching u hu k user hcaching
    · obtain hbefore | hrow := hconfined.caches k user hcaching
      · exact h.caching t (List.mem_of_getElem? htask) k user hbefore
      · exact h.sessions k user.id hrow
  deleted u hu hdel k hk := by
    obtain hu | rfl := List.mem_or_eq_of_mem_set hu
    · refine Option.eq_none_iff_forall_ne_some.mpr fun userId hrow => ?_
      have hbefore := hconfined.sessions k userId hrow
      rw [h.deleted u hu hdel k hk] at hbefore
      cases hbefore
    · exact hdeleted hdel k hk
  returned u hu hret k hk := by
    obtain hu | rfl := List.mem_or_eq_of_mem_set hu
    · exact (h.returned u hu hret k hk).advance htask hconfined
    · exact hreturned hret k hk

end

section

variable [UuidText] [Sha256] {initial : Store} {w : Pool World Task} {i : Nat} {t t' : Task}
  {fault : Option String} {world' : World} {k : List UInt8}

/-- A call that has deleted its rows finds none of them left. -/
theorem Sound.deleted_of_advance (h : Sound initial w) (htask : w.tasks[i]? = some t)
    (hadvance : t.advance w.shared fault = some (world', t')) (hdeleted : t'.hasDeleted)
    (hrevokes : t'.revokes initial k) : world'.store.authSessions.lookup k = none := by
  have ht := List.mem_of_getElem? htask
  cases t with
  | authenticate a =>
    obtain ⟨⟨world'', a'⟩, -, heq⟩ := Option.map_eq_some_iff.mp hadvance
    cases heq
    cases hdeleted
  | logout l =>
    obtain ⟨⟨world'', l'⟩, hl, heq⟩ := Option.map_eq_some_iff.mp hadvance
    cases heq
    unfold Logout.advance at hl
    split at hl
    · cases hl
      simp [Task.hasDeleted] at hdeleted
    · cases hl
      cases hrevokes
      exact (HashMap.lookup_erase_ite _ _ _).trans (if_pos rfl)
    next hphase =>
      cases hl
      exact h.deleted _ ht (.inl hphase) k hrevokes
    · cases hl
  | changePassword p =>
    obtain ⟨⟨world'', p'⟩, hp, heq⟩ := Option.map_eq_some_iff.mp hadvance
    cases heq
    unfold PasswordChange.advance at hp
    split at hp
    · cases hp
      simp [Task.hasDeleted] at hdeleted
    · split at hp
      next store hreplaced =>
        cases hp
        have hstore : store = (w.shared.store.replaceUserPassword p.userId).1 := by rw [hreplaced]
        refine Option.eq_none_iff_forall_ne_some.mpr fun owner howner => ?_
        simp only [hstore] at howner
        rw [Store.lookup_replaceUserPassword (by rw [hreplaced]), Option.filter_eq_some_iff]
          at howner
        obtain ⟨hrow, hother⟩ := howner
        -- The row would be one of the user's, and those are gone.
        have howned := h.sessions k owner hrow
        rw [show initial.authSessions.lookup k = some p.userId from hrevokes] at howned
        cases howned
        simp at hother
      · cases hp
        simp [Task.hasDeleted] at hdeleted
    next hphase =>
      cases hp
      exact h.deleted _ ht (.inl hphase) k hrevokes
    · cases hp

/-- A call that returns has evicted what it ends, and nobody is about to cache it again. -/
theorem Sound.gone_of_advance (h : Sound initial w) (hok : undisturbed w (.run i fault) = true)
    (htask : w.tasks[i]? = some t) (hadvance : t.advance w.shared fault = some (world', t'))
    (hreturned : t'.hasReturned) (hrevokes : t'.revokes initial k)
    (hrow : world'.store.authSessions.lookup k = none) :
    Gone k { shared := world', tasks := w.tasks.set i t' } := by
  refine ⟨hrow, ?_⟩
  rw [(Task.advance_confined hadvance).ttl]
  simp only [undisturbed, htask, Bool.or_eq_true, decide_eq_true_eq] at hok
  refine hok.imp_right fun hquiet => ?_
  cases t with
  | authenticate a =>
    obtain ⟨⟨world'', a'⟩, -, heq⟩ := Option.map_eq_some_iff.mp hadvance
    cases heq
    cases hreturned
  | logout l =>
    obtain ⟨⟨world'', l'⟩, hl, heq⟩ := Option.map_eq_some_iff.mp hadvance
    cases heq
    unfold Logout.advance at hl
    split at hl
    · cases hl
      simp [Task.hasReturned] at hreturned
    · cases hl
      simp [Task.hasReturned] at hreturned
    next hphase =>
      cases hl
      cases hrevokes
      refine ⟨(SessionCache.lookup_evict _ _ _).trans (if_pos rfl), fun u hu user hcaching => ?_⟩
      simp only [hphase, List.all_eq_true] at hquiet
      obtain hu | rfl := List.mem_or_eq_of_mem_set hu
      · have hother := hquiet u hu
        rw [hcaching] at hother
        simp [Logout.tokenHash] at hother
      · cases hcaching
    · cases hl
  | changePassword p =>
    obtain ⟨⟨world'', p'⟩, hp, heq⟩ := Option.map_eq_some_iff.mp hadvance
    cases heq
    unfold PasswordChange.advance at hp
    split at hp
    · cases hp
      simp [Task.hasReturned] at hreturned
    · split at hp
      · cases hp
        simp [Task.hasReturned] at hreturned
      · cases hp
        simp [Task.hasReturned] at hreturned
    next hphase =>
      cases hp
      have howner : initial.authSessions.lookup k = some p.userId := hrevokes
      simp only [hphase, List.all_eq_true] at hquiet
      constructor
      · refine Option.eq_none_iff_forall_ne_some.mpr fun cached hcached => ?_
        obtain ⟨hbefore, hother⟩ := SessionCache.lookup_evictUser.mp hcached
        have howned := h.cached k cached hbefore
        rw [howner] at howned
        exact hother (Option.some.inj howned).symm
      · intro u hu user hcaching
        obtain hu | rfl := List.mem_or_eq_of_mem_set hu
        · have howned := h.caching u hu k user hcaching
          rw [howner] at howned
          have hother := hquiet u hu
          rw [hcaching] at hother
          simp [Option.some.inj howned] at hother
        · cases hcaching
    · cases hp

omit [UuidText] [Sha256] in
theorem Task.hasReturned.hasDeleted (h : t.hasReturned) : t.hasDeleted := by
  cases t with
  | authenticate a => exact h
  | logout l => exact .inr h
  | changePassword p => exact .inr h

omit [UuidText] in
/-- A call that has just been started caches nothing and has deleted nothing. -/
theorem Task.enter_idle (op : Op) :
    (Task.enter op).caches = none ∧ ¬ (Task.enter op).hasDeleted := by
  cases op with
  | authenticate sessionToken => exact ⟨rfl, id⟩
  | logout sessionToken => exact ⟨rfl, by simp [Task.enter, Task.hasDeleted]⟩
  | changePassword userId => exact ⟨rfl, by simp [Task.enter, Task.hasDeleted]⟩

omit [UuidText] in
theorem Gone.spawn (h : Gone k w) (op : Op) :
    Gone k { w with tasks := w.tasks ++ [Task.enter op] } where
  row := h.row
  entry := by
    refine h.entry.imp_right (And.imp_right fun hcaches u hu user hcaching => ?_)
    obtain hu | hu := List.mem_append.mp hu
    · exact hcaches u hu user hcaching
    · rw [List.mem_singleton.mp hu, (Task.enter_idle op).1] at hcaching
      cases hcaching

omit [UuidText] in
theorem Sound.spawn (h : Sound initial w) (op : Op) :
    Sound initial { w with tasks := w.tasks ++ [Task.enter op] } where
  sessions := h.sessions
  cached := h.cached
  caching u hu k user hcaching := by
    obtain hu | hu := List.mem_append.mp hu
    · exact h.caching u hu k user hcaching
    · rw [List.mem_singleton.mp hu, (Task.enter_idle op).1] at hcaching
      cases hcaching
  deleted u hu hdeleted k hk := by
    obtain hu | hu := List.mem_append.mp hu
    · exact h.deleted u hu hdeleted k hk
    · rw [List.mem_singleton.mp hu] at hdeleted
      exact absurd hdeleted (Task.enter_idle op).2
  returned u hu hreturned k hk := by
    obtain hu | hu := List.mem_append.mp hu
    · exact (h.returned u hu hreturned k hk).spawn op
    · rw [List.mem_singleton.mp hu] at hreturned
      exact absurd hreturned.hasDeleted (Task.enter_idle op).2

omit [UuidText] in
theorem Sound.tick (h : Sound initial w) (elapsed : Nat) :
    Sound initial { w with shared := { w.shared with clock := w.shared.clock + elapsed } } where
  sessions := h.sessions
  cached := h.cached
  caching := h.caching
  deleted := h.deleted
  returned u hu hreturned k hk := by
    have hgone := h.returned u hu hreturned k hk
    exact ⟨hgone.row, hgone.entry⟩

theorem Sound.step (h : Sound initial w) {move : Move Op (Option String) Nat}
    (hok : undisturbed w move = true) : Sound initial (program.step w move) := by
  have hsteps := program.steps_step w move
  generalize program.step w move = w' at hsteps
  cases hsteps with
  | idle => exact h
  | spawn op => exact h.spawn op
  | outside elapsed => exact h.tick elapsed
  | run htask hadvance =>
    refine h.advance htask (Task.advance_confined hadvance)
      (fun hdeleted k hk => h.deleted_of_advance htask hadvance hdeleted hk)
      (fun hreturned k hk => ?_)
    exact h.gone_of_advance hok htask hadvance hreturned hk
      (h.deleted_of_advance htask hadvance hreturned.hasDeleted hk)

omit [UuidText] in
theorem sound_started (store : Store) (ttl : Duration) (clock : Nat) :
    Sound store (started store ttl clock) where
  sessions _ _ hk := hk
  cached _ _ hk := nomatch hk
  caching := by simp [started]
  deleted := by simp [started]
  returned := by simp [started]

/-! ## Calls that come later -/

/-- The call has no user, neither to return nor to cache. -/
structure Authentication.Barred (a : Authentication) : Prop where
  caches : (Task.authenticate a).caches = none
  result : ∀ request, a.phase ≠ .finished (.ok (some request))

theorem Authentication.Barred.advance {a a' : Authentication} (h : a.Barred)
    (hgone : Gone a.tokenHash w) (hadvance : a.advance w.shared fault = some (world', a')) :
    a'.Barred := by
  cases hphase : a.phase with
  | looking =>
    simp only [Authentication.advance, hphase] at hadvance
    split at hadvance
    next user hget =>
      obtain ⟨hpos, cached, hcached, -⟩ := SessionCache.get_eq_some hget
      obtain hzero | ⟨hnone, -⟩ := hgone.entry
      · omega
      · rw [hnone] at hcached
        cases hcached
    · cases hadvance
      exact ⟨rfl, by simp⟩
  | querying =>
    cases fault with
    | some e =>
      simp only [Authentication.advance, hphase] at hadvance
      cases hadvance
      exact ⟨rfl, by simp⟩
    | none =>
      simp only [Authentication.advance, hphase] at hadvance
      split at hadvance
      · cases hadvance
        exact ⟨rfl, by simp⟩
      next user huser =>
        have hrow := Store.findUserBySessionTokenHash_eq_some huser
        rw [hgone.row] at hrow
        cases hrow
  | counting user =>
    have hcaches := h.caches
    simp [Task.caches, hphase] at hcaches
  | inserting user count =>
    have hcaches := h.caches
    simp [Task.caches, hphase] at hcaches
  | finished result =>
    simp only [Authentication.advance, hphase] at hadvance
    cases hadvance

theorem Authentication.tokenHash_of_advance {world : World} {a a' : Authentication}
    (h : a.advance world fault = some (world', a')) : a'.tokenHash = a.tokenHash := by
  unfold Authentication.advance at h
  repeat' split at h
  all_goals
    cases h
    try rfl

/-- The session is gone, and the calls for it from the `n`-th task on get no user. -/
structure Ended (k : List UInt8) (n : Nat) (w : Pool World Task) : Prop where
  gone : Gone k w
  later : ∀ j a, n ≤ j → w.tasks[j]? = some (.authenticate a) → a.tokenHash = k → a.Barred

theorem Ended.step {n : Nat} (h : Ended k n w) (move : Move Op (Option String) Nat) :
    Ended k n (program.step w move) := by
  have hsteps := program.steps_step w move
  generalize program.step w move = w' at hsteps
  cases hsteps with
  | idle => exact h
  | outside elapsed => exact ⟨⟨h.gone.row, h.gone.entry⟩, h.later⟩
  | spawn op =>
    refine ⟨h.gone.spawn op, fun j a hj ha hk => ?_⟩
    by_cases hlt : j < w.tasks.length
    · rw [List.getElem?_append_left hlt] at ha
      exact h.later j a hj ha hk
    · rw [List.getElem?_append_right (Nat.le_of_not_lt hlt)] at ha
      have hnew := List.mem_singleton.mp (List.mem_of_getElem? ha)
      refine ⟨by rw [hnew]; exact (Task.enter_idle op).1, ?_⟩
      cases op with
      | authenticate sessionToken =>
        cases hnew
        simp
      | logout sessionToken => cases hnew
      | changePassword userId => cases hnew
  | run htask hadvance =>
    refine ⟨h.gone.advance htask (Task.advance_confined hadvance), fun j a hj ha hk => ?_⟩
    obtain ⟨rfl, hsame⟩ | ⟨-, hget⟩ := Pool.getElem?_set_cases ha
    · rename_i t t' world'
      cases t with
      | authenticate a₀ =>
        obtain ⟨⟨world'', a'⟩, hstep, heq⟩ := Option.map_eq_some_iff.mp hadvance
        cases heq
        cases hsame
        have hhash := Authentication.tokenHash_of_advance hstep
        have hbefore := h.later j a₀ hj htask (hhash.symm.trans hk)
        exact hbefore.advance ((hhash.symm.trans hk) ▸ h.gone) hstep
      | logout l =>
        obtain ⟨⟨world'', l'⟩, -, heq⟩ := Option.map_eq_some_iff.mp hadvance
        cases heq
        cases hsame
      | changePassword p =>
        obtain ⟨⟨world'', p'⟩, -, heq⟩ := Option.map_eq_some_iff.mp hadvance
        cases heq
        cases hsame
    · exact h.later j a hj hget hk

/-- In a run in which nobody is about to cache what is being evicted, a session is over once
the call that ends it has returned. -/
theorem takesEffectAtOnce_of_undisturbed (store : Store) (ttl : Duration) (clock : Nat)
    (moves : List (Move Op (Option String) Nat))
    (hrun : Along program.step (fun w move => undisturbed w move = true)
      (started store ttl clock) moves) :
    ∀ reached rest, moves = reached ++ rest → TakesEffectAtOnce store ttl clock reached := by
  rintro reached rest rfl before after t tokenHash rfl ht hreturned hrevokes
  obtain ⟨hreached, -⟩ := (along_append _ _ _).mp hrun
  obtain ⟨hbefore, hafter⟩ := (along_append _ _ _).mp hreached
  have hsound : Sound store (program.run (started store ttl clock) before) :=
    Along.invariant (fun _ _ h hok => h.step hok) (sound_started store ttl clock) hbefore
  have hstart : Ended tokenHash (program.run (started store ttl clock) before).tasks.length
      (program.run (started store ttl clock) before) := by
    refine ⟨hsound.returned t ht hreturned tokenHash hrevokes, fun j a hj ha => ?_⟩
    exact absurd (List.getElem?_eq_some_iff.mp ha).1 (Nat.not_lt.mpr hj)
  have hend := Along.invariant (I := Ended tokenHash _) (fun _ move h _ => h.step move) hstart
    hafter
  intro j a hj ha hk
  have hjoin : program.run (started store ttl clock) (before ++ after) =
      after.foldl program.step (program.run (started store ttl clock) before) :=
    List.foldl_append
  rw [hjoin] at ha
  exact (hend.later j a hj ha hk).result

end

/-! ## A session that outlives its logout -/

def sessionToken : String := "AAECAwQFBgcICQoLDA0ODxAREhMUFRYXGBkaGxwdHh8"

def sessionHash : List UInt8 :=
  [234, 134, 106, 117, 126, 76, 56, 186, 191, 168, 18, 124, 190, 154, 64, 157,
    62, 31, 147, 160, 15, 241, 72, 143, 247, 53, 252, 249, 23, 175, 255, 208]

/-- The digest of the one token that is presented. -/
@[reducible] def sessionDigest : Sha256 where
  digest token := if token = sessionToken then sessionHash else []

/-- A member with one session. -/
def memberStore : Store where
  users := AList.insert ⟨1⟩
    { username := "member"
      rbacRoles := ["member"]
      loginType := .password
      status := .active
      lastSeenAt := none
      deleted := false
      isSystem := false } ∅
  memberships := []
  apiKeys := ∅
  authSessions := AList.insert sessionHash ⟨1⟩ ∅

/-- A lookup runs to its end, then a logout, then a second lookup. -/
def logoutAfter : List (Move Op (Option String) Nat) :=
  [.spawn (.authenticate sessionToken), .run 0 none, .run 0 none, .run 0 none, .run 0 none,
    .spawn (.logout sessionToken), .run 1 none, .run 1 none,
    .spawn (.authenticate sessionToken), .run 2 none, .run 2 none]

theorem takesEffectAtOnce_logoutAfter :
    @TakesEffectAtOnce Uuid.hyphenated sessionDigest memberStore (.fromSecs 30) 0 logoutAfter :=
  @takesEffectAtOnce_of_undisturbed Uuid.hyphenated sessionDigest memberStore (.fromSecs 30) 0
    logoutAfter (by decide +kernel) logoutAfter [] (List.append_nil _).symm

/-- A lookup reads the store, and a logout runs to its end before the lookup is cached. -/
def logoutBetween : List (Move Op (Option String) Nat) :=
  [.spawn (.authenticate sessionToken), .run 0 none, .run 0 none, .run 0 none,
    .spawn (.logout sessionToken), .run 1 none, .run 1 none]

def cachedMember : AuthenticatedUser where
  id := ⟨1⟩
  username := "member"
  organizationIds := []
  roles := ["member"]
  orgRoles := []
  loginType := .password
  status := .active
  lastSeenAt := none

/-- The insert of the first lookup comes after the eviction, and answers a second one. -/
theorem not_takesEffectAtOnce_logoutBetween :
    ¬ @TakesEffectAtOnce Uuid.hyphenated sessionDigest memberStore (.fromSecs 30) 0
      (logoutBetween ++ [.run 0 none, .spawn (.authenticate sessionToken), .run 2 none]) := by
  let := sessionDigest
  intro h
  have hlogout : Task.logout ⟨sessionToken, .finished (.ok ())⟩ ∈
      [Task.authenticate ⟨sessionToken, .inserting cachedMember 0⟩,
        Task.logout ⟨sessionToken, .finished (.ok ())⟩] := by
    simp
  exact h logoutBetween _ _ sessionHash rfl hlogout rfl rfl 2
    ⟨sessionToken, .finished (.ok (some (.of sessionToken cachedMember)))⟩ (by decide) rfl rfl
    (.of sessionToken cachedMember) rfl

end Coderd.Auth.SessionRevocation
