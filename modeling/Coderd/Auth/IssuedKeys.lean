import Coderd.Auth.Issuing
import Coderd.Auth.SessionRevocation
import Mathlib.Data.List.TakeDrop

namespace Coderd.Auth

open Coderd.Foundation Coderd.Rbac
open Coderd.CryptoKeys (Duration OffsetDateTime)

/-! ## Presenting a token -/

def presenting (token : String) : HeaderMap where
  coderSessionToken := HeaderValue.fromStr token
  cookie := none
  authorization := none

/-- The request is let in as that user. -/
def Outcome.admitsAs (userId : Uuid) : Outcome → Prop
  | .admitted ctx => ctx.user.id = userId
  | _ => False

/-- A text of the form of the tokens the service generates. -/
structure IsTokenForm (token : String) : Prop where
  length : token.toList.length = 43
  alphabet : ∀ c ∈ token.toList, c ∈ Base64.alphabet

section

variable [UuidText] [Sha256]

/-- Until the row expires the key lets its user in, and no other token of the form does. -/
def KeyWorks (service : Service) (issued : OffsetDateTime) (clock : Nat)
    (generation : ApiKeyGeneration) (userId : Uuid) : Prop :=
  ∃ row, service.store.findApiKeyById generation.keyId = some row ∧
    ∀ now clock', issued ≤ now → now < row.expiresAt → clock ≤ clock' →
      (apiKeyAuthMiddleware .none now clock' service
        (presenting generation.key)).1.admitsAs userId ∧
      ∀ other, IsTokenForm other → other ≠ generation.key →
        ¬ (apiKeyAuthMiddleware .none now clock' service (presenting other)).1.admitsAs userId

/-! ## Sessions -/

/-- The user the session tables know for the token. -/
def Service.sessionUser (service : Service) (clock : Nat) (token : String) :
    Option AuthenticatedUser :=
  service.cache.get (Sha256.digest token) clock <|>
    service.store.findUserBySessionTokenHash (Sha256.digest token)

/-- The token is a session of that user, who is active or can be activated. -/
def Service.HasSession (service : Service) (userId : Uuid) (clock : Nat) (token : String) : Prop :=
  ∃ user, service.sessionUser clock token = some user ∧ user.id = userId ∧
    (user.status = .active ∨
      user.status = .dormant ∧ (service.store.findUserById userId).isSome = true)

variable {service : Service} {clock : Nat} {now : OffsetDateTime} {token : String} {userId : Uuid}

omit [UuidText] [Sha256] in
theorem splitOnce_eq_none {s : String} {c : Char} (h : c ∉ s.toList) : splitOnce s c = none := by
  have hall : s.toList.dropWhile (fun d => decide (d ≠ c)) = [] := by
    rw [List.dropWhile_eq_nil_iff]
    intro d hd
    have hne : d ≠ c := fun heq => h (heq ▸ hd)
    simpa using hne
  unfold splitOnce
  rw [List.span_eq_takeWhile_dropWhile, hall]

omit [UuidText] [Sha256] in
theorem IsTokenForm.splitApiToken_eq_none (h : IsTokenForm token) : splitApiToken token = none := by
  have hdash : '-' ∉ token.toList := by
    intro hmem
    exact absurd (h.alphabet '-' hmem) (by decide)
  rw [splitApiToken, splitOnce_eq_none hdash]

omit [UuidText] [Sha256] in
theorem IsTokenForm.fromStr (h : IsTokenForm token) :
    ∃ value, HeaderValue.fromStr token = some value ∧ value.text = token ∧ token ≠ "" := by
  have hvisible : token.toList.all isVisibleAscii = true := by
    rw [List.all_eq_true]
    intro c hc
    have halphabet : Base64.alphabet.all isVisibleAscii = true := by decide
    exact List.all_eq_true.mp halphabet c (h.alphabet c hc)
  refine ⟨⟨token, hvisible⟩, dif_pos hvisible, rfl, ?_⟩
  rintro rfl
  exact absurd h.length (by decide)

omit [UuidText] [Sha256] in
theorem isTokenForm_newSessionToken (bytes : Vector UInt8 sessionTokenLength) :
    IsTokenForm (newSessionToken bytes) where
  length := by
    rw [newSessionToken, Base64.encode, String.toList_ofList, Base64.length_encodeChars,
      Vector.length_toList]
    rfl
  alphabet := by
    intro c hc
    rw [newSessionToken, Base64.encode, String.toList_ofList] at hc
    exact Base64.mem_alphabet_of_mem_encodeChars hc

/-! ## What the middleware does with such a token -/

omit [UuidText] [Sha256] in
theorem isSome_updateUserStatus (store : Store) (userId : Uuid) (status : UserStatus) :
    (store.updateUserStatus userId status).2.isSome = (store.findUserById userId).isSome := by
  unfold Store.updateUserStatus
  cases hrow : store.users.lookup userId with
  | none => simp [Store.findUserById, hrow]
  | some row =>
    cases hdeleted : row.deleted with
    | true => simp [Store.findUserById, hrow, hdeleted]
    | false =>
      simp only [Store.findUserById, hrow, hdeleted, Bool.false_eq_true, if_false]
      rw [AList.lookup_insert]
      rfl

theorem authenticate_of_form (h : IsTokenForm token) (clock : Nat) (service : Service) :
    ∃ service', service'.store = service.store ∧
      authenticate none clock service (presenting token) =
        (.ok ((service.sessionUser clock token).map (.of token)), service') := by
  obtain ⟨value, hvalue, rfl, -⟩ := h.fromStr
  unfold authenticate Service.sessionUser presenting
  simp only [hvalue, Option.map_some, Option.orElse_eq_orElse, Option.orElse_eq_or, Option.some_or]
  cases hget : service.cache.get (Sha256.digest value.text) clock with
  | some user => exact ⟨service, rfl, rfl⟩
  | none =>
    cases hfind : service.store.findUserBySessionTokenHash (Sha256.digest value.text) with
    | none => exact ⟨service, rfl, rfl⟩
    | some user =>
      let (cache, count) := service.cache.count
      exact ⟨{ service with
        cache := cache.insertCounted (Sha256.digest value.text) user count clock }, rfl, rfl⟩

/-- The answer to a token that is a session of `user`, or of nobody. -/
def sessionAnswer (user : Option AuthenticatedUser) : Except Rejection AuthenticatedContext :=
  match user with
  | some user => .ok { user, actor := actorFromUser user, apiKey := none, scopes := [.all] }
  | none => .error (.unauthorized "Missing or invalid session token.")

theorem tokenContext_of_form (h : IsTokenForm token) (now : OffsetDateTime) (clock : Nat)
    (service : Service) :
    ∃ service', service'.store = service.store ∧ tokenContext .none now clock service token =
      (sessionAnswer (service.sessionUser clock token), service') := by
  obtain ⟨service', hstore, hauthenticate⟩ := authenticate_of_form h clock service
  refine ⟨service', hstore, ?_⟩
  have hheaders : authenticate none clock service
      { coderSessionToken := HeaderValue.fromStr token, cookie := none, authorization := none } =
        (.ok ((service.sessionUser clock token).map (.of token)), service') := hauthenticate
  unfold tokenContext
  rw [h.splitApiToken_eq_none]
  simp only [RequestFaults.none, sessionContext, hheaders]
  cases service.sessionUser clock token with
  | none => rfl
  | some user => rfl

omit [UuidText] [Sha256] in
theorem extractToken_presenting (h : IsTokenForm token) :
    extractTokenFromHeaders (presenting token) = some token := by
  obtain ⟨value, hvalue, rfl, hne⟩ := h.fromStr
  simp [extractTokenFromHeaders, presenting, hvalue, nonEmpty, hne]

/-- A token of the generated form is looked up among the sessions only. -/
theorem admitsAs_iff (h : IsTokenForm token) :
    (apiKeyAuthMiddleware .none now clock service (presenting token)).1.admitsAs userId ↔
      service.HasSession userId clock token := by
  obtain ⟨service', hstore, hcontext⟩ := tokenContext_of_form h now clock service
  unfold apiKeyAuthMiddleware Service.HasSession
  simp only [extractToken_presenting h, hcontext]
  cases service.sessionUser clock token with
  | none => simp [sessionAnswer, Outcome.admitsAs]
  | some user =>
    simp only [sessionAnswer, Option.some.injEq, exists_eq_left', maybeActivateDormant, hstore,
      RequestFaults.none]
    by_cases hdormant : user.status = .dormant
    · have hsame := isSome_updateUserStatus service.store user.id .active
      simp only [hdormant, ne_eq, not_true_eq_false, if_false]
      rcases hupdate : service.store.updateUserStatus user.id .active with ⟨store, _ | record⟩
      · rw [hupdate] at hsame
        simp only [Outcome.admitsAs, reduceCtorEq, true_and, false_or, false_iff]
        rintro ⟨rfl, hsome⟩
        rw [hsome] at hsame
        cases hsame
      · rw [hupdate] at hsame
        simp only [Outcome.admitsAs, not_true_eq_false, if_false, reduceCtorEq, true_and,
          false_or]
        constructor
        · rintro rfl
          exact ⟨rfl, hsame.symm⟩
        · exact And.left
    · simp only [hdormant, ne_eq, not_false_eq_true, if_true]
      by_cases hactive : user.status = .active
      · simp [hactive, Outcome.admitsAs]
      · simp [hactive, Outcome.admitsAs]

/-! ## The created row -/

theorem createApiKeyForUser_ok {fault : Option String} {randomness : Randomness}
    {store store' : Store} {request : ApiKeyCreation} {generation : ApiKeyGeneration}
    {lifetime : Duration} (hlifetime : request.lifetime = lifetime)
    (h : createApiKeyForUser fault randomness now store request = (.ok generation, store')) :
    ∃ key : ApiKeyRecord, store'.findApiKeyById generation.keyId = some key ∧
      key.expiresAt.unixNanos = now.unixNanos + Duration.asSecs lifetime * 10 ^ 9 ∧
      generation.key = newSessionToken randomness.secret ∧
      store' = { store with apiKeys := store'.apiKeys } := by
  subst hlifetime
  unfold createApiKeyForUser at h
  dsimp only at h
  split at h
  · cases h
  split at h
  · cases h
  next expiresAt hexpires =>
    split at h
    · cases h
    split at h
    · cases h
    next after hcreated =>
      cases h
      unfold Store.createApiKey at hcreated
      split at hcreated
      · cases hcreated
      · cases hcreated
        refine ⟨request.record randomness now expiresAt, ?_, ?_, rfl, rfl⟩
        · unfold Store.findApiKeyById
          rw [AList.lookup_insert]
          rfl
        · unfold OffsetDateTime.add at hexpires
          split at hexpires
          · cases hexpires
            rfl
          · cases hexpires

omit [UuidText] [Sha256] in
theorem lifetime_of_tokenCreation {randomness : Randomness} {maxTokenLifetimeSecs : UInt64}
    {targetUser : UserRecord} {request : CreateTokenRequest} {creation : ApiKeyCreation}
    (h : tokenCreation randomness maxTokenLifetimeSecs targetUser request = .ok creation) :
    creation.lifetime = (KeyRequest.token request).lifetime := by
  unfold tokenCreation at h
  split at h
  · cases h
  · cases h
    rfl

theorem createKey_ok {faults : CreationFaults} {randomness : Randomness} {store store' : Store}
    {requester : Requester} {request : KeyRequest} {generation : ApiKeyGeneration}
    (h : createKey faults randomness now store requester request = (.ok generation, store')) :
    ∃ key : ApiKeyRecord, store'.findApiKeyById generation.keyId = some key ∧
      key.expiresAt.unixNanos = now.unixNanos + Duration.asSecs request.lifetime * 10 ^ 9 ∧
      generation.key = newSessionToken randomness.secret ∧
      store' = { store with apiKeys := store'.apiKeys } := by
  cases request with
  | session =>
    simp only [createKey, createSessionApiKey] at h
    split at h
    · cases h
    next targetUser _ =>
      have hlifetime : (sessionCreation targetUser).lifetime = KeyRequest.session.lifetime := by
        simp only [sessionCreation, KeyRequest.lifetime]
      exact createApiKeyForUser_ok hlifetime h
  | token request =>
    simp only [createKey, createTokenApiKey] at h
    split at h
    · cases h
    next targetUser _ =>
    split at h
    · cases h
    · generalize hcreation : tokenCreation randomness (store.tokenConfig targetUser.id) targetUser
        request = creation at h
      cases creation with
      | error e => cases h
      | ok creation => exact createApiKeyForUser_ok (lifetime_of_tokenCreation hcreation) h

/-- A service with other keys has the same sessions. -/
theorem hasSession_of_apiKeys {store' : Store}
    (h : store' = { service.store with apiKeys := store'.apiKeys }) :
    Service.HasSession { service with store := store' } userId clock token ↔
      service.HasSession userId clock token := by
  rw [h]
  exact Iff.rfl

/-- An issued key works exactly if its row plays no part: it has expired at once, or its secret
already was the session token of the user, who has no other. -/
theorem keyWorks_iff {faults : CreationFaults} {randomness : Randomness} {store' : Store}
    {requester : Requester} {request : KeyRequest} {generation : ApiKeyGeneration}
    (hcreate : createKey faults randomness now service.store requester request =
      (.ok generation, store')) (userId : Uuid) (clock : Nat) :
    KeyWorks { service with store := store' } now clock generation userId ↔
      Duration.asSecs request.lifetime = 0 ∨
        ∀ clock' ≥ clock,
          service.HasSession userId clock' (newSessionToken randomness.secret) ∧
          ∀ other, IsTokenForm other → other ≠ newSessionToken randomness.secret →
            ¬ service.HasSession userId clock' other := by
  obtain ⟨key, hfind, hexpires, hkey, hsame⟩ := createKey_ok hcreate
  have hform := isTokenForm_newSessionToken randomness.secret
  unfold KeyWorks
  rw [hkey]
  constructor
  · rintro ⟨row, hrow, hworks⟩
    rw [hfind] at hrow
    cases hrow
    by_cases hsecs : Duration.asSecs request.lifetime = 0
    · exact .inl hsecs
    · right
      intro clock' hclock
      have hlt : now.unixNanos < key.expiresAt.unixNanos := by omega
      obtain ⟨hown, hothers⟩ := hworks now clock' le_rfl hlt hclock
      refine ⟨(hasSession_of_apiKeys hsame).mp ((admitsAs_iff hform).mp hown), ?_⟩
      intro other hother hne hsession
      exact hothers other hother hne
        ((admitsAs_iff hother).mpr ((hasSession_of_apiKeys hsame).mpr hsession))
  · intro h
    refine ⟨key, hfind, fun now' clock' hissued hexpired hclock => ?_⟩
    obtain hsecs | hsessions := h
    · have hle : now.unixNanos ≤ now'.unixNanos := hissued
      have hlt : now'.unixNanos < key.expiresAt.unixNanos := hexpired
      omega
    · obtain ⟨hown, hothers⟩ := hsessions clock' hclock
      refine ⟨(admitsAs_iff hform).mpr ((hasSession_of_apiKeys hsame).mpr hown), ?_⟩
      intro other hother hne hadmits
      exact hothers other hother hne
        ((hasSession_of_apiKeys hsame).mp ((admitsAs_iff hother).mp hadmits))

/-- A key whose secret is no session token is turned away as one, at any time. -/
theorem rejected_of_fresh {faults : CreationFaults} {randomness : Randomness} {store' : Store}
    {requester : Requester} {request : KeyRequest} {generation : ApiKeyGeneration}
    {issued : OffsetDateTime}
    (hcreate : createKey faults randomness issued service.store requester request =
      (.ok generation, store'))
    (hfresh : service.sessionUser clock (newSessionToken randomness.secret) = none) :
    (apiKeyAuthMiddleware .none now clock { service with store := store' }
      (presenting generation.key)).1 =
        .rejected (.unauthorized "Missing or invalid session token.") := by
  obtain ⟨-, -, -, hkey, hsame⟩ := createKey_ok hcreate
  have hform := isTokenForm_newSessionToken randomness.secret
  have hnone : Service.sessionUser { service with store := store' } clock
      (newSessionToken randomness.secret) = none := by
    rw [hsame]
    exact hfresh
  obtain ⟨service', -, hcontext⟩ :=
    tokenContext_of_form hform now clock { service with store := store' }
  rw [hkey]
  simp only [apiKeyAuthMiddleware, extractToken_presenting hform, hcontext, hnone, sessionAnswer]

end

/-! ## A member's session key -/

def memberService : Service where
  store := { SessionRevocation.memberStore with authSessions := ∅ }
  cache := .new (.fromSecs 30)

def memberRequester : Requester where
  actor := actorFromUser SessionRevocation.cachedMember
  authenticatedUser := ⟨1⟩
  requestedUser := "me"

/-- The bytes 0 to 31, and two ids. -/
def drawn : Randomness where
  secret := Vector.ofFn fun i => UInt8.ofNat i
  keyId := ⟨2⟩
  tokenName := ⟨3⟩

def noFaults : CreationFaults := ⟨none, none, none⟩

def memberGeneration : ApiKeyGeneration where
  keyId := "00000000-0000-0000-0000-000000000002"
  key := SessionRevocation.sessionToken

def memberStoreAfter : Store :=
  (@createKey Uuid.hyphenated SessionRevocation.sessionDigest noFaults drawn .unixEpoch
    memberService.store memberRequester .session).2

theorem createKey_member :
    @createKey Uuid.hyphenated SessionRevocation.sessionDigest noFaults drawn .unixEpoch
      memberService.store memberRequester .session = (.ok memberGeneration, memberStoreAfter) :=
  Prod.ext (by rfl) rfl

/-- The key is of no use: the member has no session with that token. -/
theorem not_keyWorks_member :
    ¬ @KeyWorks Uuid.hyphenated SessionRevocation.sessionDigest
      { memberService with store := memberStoreAfter } .unixEpoch 0 memberGeneration ⟨1⟩ := by
  let := Uuid.hyphenated
  let := SessionRevocation.sessionDigest
  rintro ⟨row, hrow, hworks⟩
  obtain ⟨key, hfind, hexpires, hkey, -⟩ := createKey_ok createKey_member
  rw [hfind] at hrow
  obtain rfl : row = key := (Option.some.inj hrow).symm
  have hday : Duration.asSecs KeyRequest.session.lifetime = 86400 := by decide
  have hlt : OffsetDateTime.unixEpoch < row.expiresAt := by
    change (0 : Int) < row.expiresAt.unixNanos
    rw [hexpires, hday]
    decide
  have hadmits := (hworks .unixEpoch 0 le_rfl hlt le_rfl).1
  rw [hkey, admitsAs_iff (isTokenForm_newSessionToken _)] at hadmits
  obtain ⟨user, huser, -⟩ := hadmits
  have hnone : Service.sessionUser { memberService with store := memberStoreAfter } 0
      (newSessionToken drawn.secret) = none := by
    rfl
  rw [hnone] at huser
  cases huser

/-- A token for half a second, which is stored with no lifetime at all. -/
def shortToken : KeyRequest :=
  .token
    { lifetime := ⟨5 * 10 ^ 8, by decide⟩
      scope := ""
      scopes := []
      tokenName := "short"
      allowList := [] }

def shortStoreAfter : Store :=
  (@createKey Uuid.hyphenated SessionRevocation.sessionDigest noFaults drawn .unixEpoch
    memberService.store memberRequester shortToken).2

theorem keyWorks_shortToken :
    @KeyWorks Uuid.hyphenated SessionRevocation.sessionDigest
      { memberService with store := shortStoreAfter } .unixEpoch 0 memberGeneration ⟨1⟩ :=
  (@keyWorks_iff Uuid.hyphenated SessionRevocation.sessionDigest memberService .unixEpoch noFaults
    drawn shortStoreAfter memberRequester shortToken memberGeneration (Prod.ext (by rfl) rfl) ⟨1⟩
    0).mpr (.inl (by decide))

end Coderd.Auth
