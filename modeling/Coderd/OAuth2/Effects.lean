import Coderd.OAuth2.Provider

namespace Coderd.OAuth2

open Coderd.Foundation Coderd.Auth
open Coderd.CryptoKeys (OffsetDateTime)

/-! ## What a call can do -/

namespace World

variable (w : World)

def withoutApp (id : Uuid) : World :=
  { w with
    apps := w.apps.erase id
    approvals := w.approvals.retain fun key _ => key.1 ≠ id
    pendings := w.pendings.retain fun _ row => row.appId ≠ id
    codes := w.codes.retain fun _ code => code.appId ≠ id }.cascade
      (w.secrets.retain fun _ secret => secret.appId ≠ id)

def withoutTokens (appId userId : Uuid) : World :=
  { w with tokens := w.tokens.retain fun _ token => !w.ofAppAndUser appId userId token }

end World

/-- All that a store call that does not fail can do to the world. -/
inductive Change (call : Nat) (w : World) : StoreCall → World → Prop where
  | same (q : StoreCall) : Change call w q w
  | createApp {app : AppRow} {id : Uuid} {apps : AppTable}
      (happs : w.apps.create? id app = some apps) :
      Change call w (.createApp app) { w with apps := apps }
  | updateApp (id : Uuid) (name icon callbackUrl : String) (redirectUris : List String) :
      Change call w (.updateApp id name icon callbackUrl redirectUris)
        { w with apps := w.apps.update id name icon callbackUrl redirectUris }
  | deleteApp (id : Uuid) : Change call w (.deleteApp id) (w.withoutApp id)
  | approve (appId userId : Uuid) (scope : String) :
      Change call w (.insertUserApproval appId userId scope)
        { w with approvals := w.approvals.insert (appId, userId) scope }
  | insertPending {row : PendingConsentRow} {nonce : Uuid}
      {pendings : Register Uuid PendingConsentRow}
      (hinsert : w.pendings.Inserted nonce row pendings) :
      Change call w (.insertPendingConsent row)
        ({ w with pendings := pendings }.note (.consentIssued call nonce))
  | takePending {nonce : Uuid} {row : PendingConsentRow} {now : OffsetDateTime}
      (hrow : w.pendings.rows.lookup nonce = some row) (hnow : w.clock ≤ now) :
      Change call w (.takePendingConsent nonce)
        ({ w with pendings := w.pendings.erase nonce, clock := now }.note
          (.consentTaken call nonce now))
  | createSecret {secret : SecretRow} {id : Uuid} {secrets : Register Uuid SecretRow}
      (hinsert : w.secrets.Inserted id secret secrets) :
      Change call w (.createSecret secret) { w with secrets := secrets }
  | deleteSecret (id : Uuid) : Change call w (.deleteSecret id) (w.cascade (w.secrets.erase id))
  | createCode {code : CodeRow} {app : AppRow} {id : Uuid} {codes : Register Uuid IssuedCode}
      (happ : w.apps.rows.lookup code.appId = some app)
      (hfresh : ∀ id' code', w.codes.issued.lookup id' = some code' →
        code'.hashedSecret ≠ code.hashedSecret)
      (hinsert : w.codes.Inserted id
        { code with calls := w.calls, firstParty := app.firstParty } codes) :
      Change call w (.createCode code) { w with codes := codes }
  | findCode {secretPrefix : List UInt8} {id : Uuid} :
      Change call w (.findCodeByPrefix secretPrefix) (w.note (.codeFound call id))
  | deleteCode {id : Uuid} {code : IssuedCode} (hrow : w.codes.rows.lookup id = some code) :
      Change call w (.deleteCode id)
        ({ w with codes := w.codes.erase id }.note (.codeDeleted call id))
  | createApiKey {id : String} {key : ApiKeyRow} {grant : Grant}
      {apiKeys : Register String IssuedKey}
      (hinsert : w.apiKeys.Inserted id { key with grant := grant } apiKeys) :
      Change call w (.createApiKey id key grant)
        ({ w with apiKeys := apiKeys }.note (.keyCreated call id))
  | deleteApiKey (id : String) :
      Change call w (.deleteApiKey id) { w with apiKeys := w.apiKeys.erase id }
  | createToken {token : TokenRow} {grant : Grant} {secret : SecretRow} {id : Uuid}
      {tokens : Register Uuid IssuedToken}
      (hsecret : w.secrets.rows.lookup token.appSecretId = some secret)
      (hfresh : ∀ id' token', w.tokens.issued.lookup id' = some token' →
        token'.refreshHash ≠ token.refreshHash)
      (hinsert : w.tokens.Inserted id { token with grant := grant, secret := secret } tokens) :
      Change call w (.createToken token grant)
        ({ w with tokens := tokens }.note (.tokenCreated call id))
  | deleteToken {id : Uuid} {token : IssuedToken} (hrow : w.tokens.rows.lookup id = some token) :
      Change call w (.deleteToken id)
        ({ w with tokens := w.tokens.erase id }.note (.tokenDeleted call id))
  | listTokens (appId userId : Uuid) :
      Change call w (.listTokensByAppAndUser appId userId)
        (w.note (.tokensListed call appId userId
          ((w.tokens.rows.selectAll fun _ token => w.ofAppAndUser appId userId token).map
            (·.2.apiKeyId))))
  | deleteTokens (appId userId : Uuid) :
      Change call w (.deleteTokensByAppAndUser appId userId) (w.withoutTokens appId userId)

theorem not_selected {κ ν : Type} [DecidableEq κ] {m : HashMap κ ν} {p : κ → ν → Bool}
    (h : m.selectFirst p = none) {k : κ} {v : ν} (hlookup : m.lookup k = some v) :
    ¬ p k v = true := by
  rw [HashMap.selectFirst_eq_none_iff.mp h k v hlookup]
  simp

theorem change_of_perform {call : Nat} {choice : Choice} {w w' : World} {q : StoreCall}
    {r : Except StorageError q.Response} (h : perform call choice w q = some (r, w')) :
    Change call w q w' := by
  cases q with
  | createApp app =>
    obtain ⟨apps, happs, heq⟩ := Option.map_eq_some_iff.mp h
    cases heq
    exact .createApp happs
  | findAppById id => cases h; exact .same _
  | updateApp id name icon callbackUrl redirectUris =>
    cases h
    exact .updateApp id name icon callbackUrl redirectUris
  | deleteApp id =>
    simp only [perform] at h
    split at h
    · cases h; exact .same _
    · cases h; exact .deleteApp id
  | hasUserApproval appId userId => cases h; exact .same _
  | insertUserApproval appId userId scope =>
    simp only [perform] at h
    split at h
    · cases h; exact .same _
    · cases h; exact .approve appId userId scope
  | insertPendingConsent row =>
    simp only [perform] at h
    split at h
    · cases h; exact .same _
    · obtain ⟨pendings, hinsert, heq⟩ := Option.map_eq_some_iff.mp h
      cases heq
      exact .insertPending (Register.inserted_of_insert? hinsert)
  | takePendingConsent nonce =>
    simp only [perform] at h
    split at h
    · cases h; exact .same _
    · rename_i row hrow
      split at h
      · cases h
      · rename_i hnow
        cases h
        exact .takePending hrow (not_lt.mp hnow)
  | listSecrets appId => cases h; exact .same _
  | createSecret secret =>
    simp only [perform] at h
    split at h
    · cases h; exact .same _
    · split at h
      · cases h; exact .same _
      · obtain ⟨secrets, hinsert, heq⟩ := Option.map_eq_some_iff.mp h
        cases heq
        exact .createSecret (Register.inserted_of_insert? hinsert)
  | findSecretById id => cases h; exact .same _
  | deleteSecret id =>
    simp only [perform] at h
    split at h
    · cases h; exact .same _
    · cases h; exact .deleteSecret id
  | createCode code =>
    simp only [perform] at h
    split at h
    · cases h; exact .same _
    · rename_i app happ
      split at h
      · cases h
      · rename_i hselect
        obtain ⟨codes, hinsert, heq⟩ := Option.map_eq_some_iff.mp h
        cases heq
        refine .createCode happ (fun id' code' hissued => ?_)
          (Register.inserted_of_insert? hinsert)
        simpa using not_selected hselect hissued
  | findCodeByPrefix secretPrefix =>
    simp only [perform] at h
    split at h
    · cases h; exact .same _
    · cases h; exact .findCode
  | deleteCode id =>
    simp only [perform] at h
    split at h
    · cases h; exact .same _
    · rename_i code hrow
      cases h
      exact .deleteCode hrow
  | createApiKey id key grant =>
    simp only [perform] at h
    split at h
    · cases h; exact .same _
    · obtain ⟨apiKeys, hinsert, heq⟩ := Option.map_eq_some_iff.mp h
      cases heq
      exact .createApiKey (Register.inserted_of_insert? hinsert)
  | findApiKeyById id => cases h; exact .same _
  | deleteApiKey id =>
    simp only [perform] at h
    split at h
    · cases h; exact .same _
    · cases h; exact .deleteApiKey id
  | createToken token grant =>
    simp only [perform] at h
    split at h
    · cases h; exact .same _
    · rename_i secret hsecret
      split at h
      · cases h
      · rename_i hselect
        obtain ⟨tokens, hinsert, heq⟩ := Option.map_eq_some_iff.mp h
        cases heq
        refine .createToken hsecret (fun id' token' hissued => ?_)
          (Register.inserted_of_insert? hinsert)
        simpa using not_selected hselect hissued
  | findTokenByPrefix hashPrefix => cases h; exact .same _
  | findTokenByRefreshHash refreshHash => cases h; exact .same _
  | deleteToken id =>
    simp only [perform] at h
    split at h
    · cases h; exact .same _
    · rename_i token hrow
      cases h
      exact .deleteToken hrow
  | listTokensByAppAndUser appId userId => cases h; exact .listTokens appId userId
  | deleteTokensByAppAndUser appId userId => cases h; exact .deleteTokens appId userId

/-- The store call of a step, with the number of the call that makes it. -/
def Op.query? : Op → Option (Nat × StoreCall)
  | store call q => some (call, q)
  | attempt call q => some (call, q)
  | _ => none

/-- A request has come in. -/
def World.begun (w : World) (request : Request) (now : OffsetDateTime) : World :=
  { w with clock := now, calls := w.calls + 1 }.note (.began w.calls request now)

/-- All that a step can do to the world. -/
inductive Steps (choice : Choice) (w : World) : Op → World → Prop where
  | quiet (op : Op) (hop : op.query? = none) : Steps choice w op w
  | tick (hnow : w.clock ≤ choice.now) : Steps choice w .nowUtc { w with clock := choice.now }
  | begin (request : Request) (hnow : w.clock ≤ choice.now) :
      Steps choice w (.begin request) (w.begun request choice.now)
  | finish (call : Nat) (reply : Reply) :
      Steps choice w (.finish call reply) (w.note (.finished call reply))
  | failed {op : Op} {call : Nat} {q : StoreCall} (hop : op.query? = some (call, q))
      (hfails : choice.fails = true) : Steps choice w op (w.note (.failed call q))
  | change {op : Op} {call : Nat} {q : StoreCall} {w' : World} (hop : op.query? = some (call, q))
      (hfails : choice.fails = false) (hchange : Change call w q w') : Steps choice w op w'

theorem steps_of_query {choice : Choice} {w w' : World} {op : Op} {call : Nat} {q : StoreCall}
    {r : Except StorageError q.Response} (hop : op.query? = some (call, q))
    (h : query call choice w q = some (r, w')) : Steps choice w op w' := by
  unfold query at h
  split at h
  · rename_i hfails
    cases h
    exact .failed hop hfails
  · rename_i hfails
    exact .change hop (by simpa using hfails) (change_of_perform h)

theorem steps_of_store {choice : Choice} {w w' : World} {call : Nat} {q : StoreCall}
    {r : Except StorageError q.Response} (h : query call choice w q = some (r, w')) :
    Steps choice w (.store call q) w' :=
  steps_of_query rfl h

theorem steps_of_exec {choice : Choice} {w w' : World} {op : Op} {r : op.Response}
    (h : exec op w choice = some (r, w')) : Steps choice w op w' := by
  cases op with
  | begin request =>
    simp only [exec] at h
    split at h
    · cases h
    · rename_i hnow
      cases h
      exact .begin request (not_lt.mp hnow)
  | finish call reply => cases h; exact .finish call reply
  | nowUtc =>
    simp only [exec] at h
    split at h
    · cases h
    · rename_i hnow
      cases h
      exact .tick (not_lt.mp hnow)
  | randomBytes => cases h; exact .quiet _ rfl
  | newUuid => cases h; exact .quiet _ rfl
  | store call q => exact steps_of_query rfl h
  | attempt call q =>
    obtain ⟨⟨result, w''⟩, hquery, heq⟩ := Option.map_eq_some_iff.mp h
    cases heq
    exact steps_of_query rfl hquery

/-- An event between the first and the last moment of a call. -/
def Event.Inner : Event → Prop
  | began _ _ _ | finished _ _ => False
  | _ => True

/-- No call has begun or ended since. -/
def World.LogsInner (w w' : World) : Prop :=
  w'.log = w.log ∨ ∃ e, w'.log = e :: w.log ∧ e.Inner

theorem World.LogsInner.mem {w w' : World} (h : w.LogsInner w') {e : Event} (he : e ∈ w'.log) :
    e.Inner ∨ e ∈ w.log := by
  obtain hlog | ⟨e', hlog, hinner⟩ := h
  · exact .inr (hlog ▸ he)
  · rw [hlog] at he
    cases List.mem_cons.mp he with
    | inl heq => exact .inl (heq ▸ hinner)
    | inr he => exact .inr he

theorem World.LogsInner.began {w w' : World} (h : w.LogsInner w') {call : Nat} {request : Request}
    {at_ : OffsetDateTime} (he : .began call request at_ ∈ w'.log) :
    .began call request at_ ∈ w.log :=
  (h.mem he).resolve_left id

theorem World.LogsInner.finished {w w' : World} (h : w.LogsInner w') {call : Nat} {reply : Reply}
    (he : .finished call reply ∈ w'.log) : .finished call reply ∈ w.log :=
  (h.mem he).resolve_left id

theorem Change.logsInner {call : Nat} {w w' : World} {q : StoreCall} (h : Change call w q w') :
    w.LogsInner w' := by
  cases h <;> first
    | exact .inl rfl
    | exact .inr ⟨_, rfl, trivial⟩

theorem Steps.logsInner {choice : Choice} {w w' : World} {op : Op} (h : Steps choice w op w')
    (hbegin : ∀ request, op ≠ .begin request) (hfinish : ∀ call reply, op ≠ .finish call reply) :
    w.LogsInner w' := by
  cases h with
  | quiet => exact .inl rfl
  | tick => exact .inl rfl
  | begin request => exact absurd rfl (hbegin request)
  | finish call reply => exact absurd rfl (hfinish call reply)
  | failed => exact .inr ⟨_, rfl, trivial⟩
  | change _ _ hchange => exact hchange.logsInner

/-! ## What a response says -/

section

variable {call : Nat} {choice : Choice} {w w' : World}

theorem perform_of_ok {q : StoreCall} {a : q.Response}
    (h : query call choice w q = some (.ok a, w')) :
    perform call choice w q = some (.ok a, w') := by
  unfold query at h
  split at h
  · cases h
  · exact h

theorem of_findCode {secretPrefix : List UInt8} {id : Uuid} {code : IssuedCode}
    (h : query call choice w (.findCodeByPrefix secretPrefix) = some (.ok (some (id, code)), w')) :
    w.codes.rows.lookup id = some code ∧ code.secretPrefix = secretPrefix ∧
      w' = w.note (.codeFound call id) := by
  have h := perform_of_ok h
  simp only [perform] at h
  split at h
  · cases h
  · rename_i hselect
    cases h
    obtain ⟨hrow, hbytes⟩ := HashMap.selectAny_spec hselect
    exact ⟨hrow, by simpa using hbytes, rfl⟩

theorem of_listSecrets {appId id : Uuid} {secret : SecretRow} {secrets : List (Uuid × SecretRow)}
    (h : query call choice w (.listSecrets appId) = some (.ok secrets, w'))
    (hmem : (id, secret) ∈ secrets) :
    w'.secrets.rows.lookup id = some secret ∧ secret.appId = appId := by
  have h := perform_of_ok h
  simp only [perform, Option.some.injEq, Prod.mk.injEq, Except.ok.injEq] at h
  obtain ⟨rfl, rfl⟩ := h
  obtain ⟨hrow, happ⟩ := HashMap.mem_selectAll.mp (List.mem_reverse.mp hmem)
  exact ⟨hrow, by simpa using happ⟩

theorem matchedSecret_spec [Sha256] {secretId : Uuid} {clientSecret : String}
    {secrets : List (Uuid × SecretRow)} {secret : SecretRow}
    (h : matchedSecret clientSecret secrets = some (secretId, secret)) :
    (secretId, secret) ∈ secrets ∧ secret.hashedSecret = Sha256.digest clientSecret :=
  ⟨List.mem_of_find?_eq_some h, by simpa using List.find?_some h⟩

theorem of_deleteCode {id : Uuid}
    (h : query call choice w (.deleteCode id) = some (.ok true, w')) :
    (∃ code, w.codes.rows.lookup id = some code) ∧
      w' = { w with codes := w.codes.erase id }.note (.codeDeleted call id) := by
  have h := perform_of_ok h
  simp only [perform] at h
  split at h
  · cases h
  · rename_i code hrow
    cases h
    exact ⟨⟨code, hrow⟩, rfl⟩

/-- A row that was to be deleted is gone, unless the store has failed. -/
theorem of_discardCode {id : Uuid}
    (h : exec (.attempt call (.deleteCode id)) w choice = some ((), w')) :
    .failed call (.deleteCode id) ∈ w'.log ∨ w'.codes.rows.lookup id = none := by
  obtain ⟨⟨r, w''⟩, hquery, heq⟩ := Option.map_eq_some_iff.mp h
  cases heq
  unfold query at hquery
  split at hquery
  · cases hquery
    exact .inl List.mem_cons_self
  · simp only [perform] at hquery
    split at hquery
    · rename_i hnone
      cases hquery
      exact .inr hnone
    · cases hquery
      exact .inr (AList.lookup_erase _ _)

/-- The key that was to be deleted is gone, if the store has not failed. -/
theorem of_discardKey {id : String} (hfails : choice.fails = false)
    (h : exec (.attempt call (.deleteApiKey id)) w choice = some ((), w')) :
    w'.apiKeys.rows.lookup id = none := by
  obtain ⟨⟨r, w''⟩, hquery, heq⟩ := Option.map_eq_some_iff.mp h
  cases heq
  rw [query, if_neg (by simp [hfails])] at hquery
  simp only [perform] at hquery
  split at hquery
  · rename_i hnone
    cases hquery
    exact hnone
  · cases hquery
    exact AList.lookup_erase _ _

theorem of_findToken {refreshHash : List UInt8} {id : Uuid} {token : IssuedToken}
    (h : query call choice w (.findTokenByRefreshHash refreshHash) =
      some (.ok (some (id, token)), w')) :
    w'.tokens.rows.lookup id = some token ∧ token.refreshHash = refreshHash := by
  have h := perform_of_ok h
  simp only [perform, Option.some.injEq, Prod.mk.injEq, Except.ok.injEq] at h
  obtain ⟨hselect, rfl⟩ := h
  obtain ⟨hrow, hhash⟩ := HashMap.selectAny_spec hselect
  exact ⟨hrow, by simpa using hhash⟩

theorem of_deleteToken {id : Uuid}
    (h : query call choice w (.deleteToken id) = some (.ok true, w')) :
    (∃ token, w.tokens.rows.lookup id = some token) ∧
      w' = { w with tokens := w.tokens.erase id }.note (.tokenDeleted call id) := by
  have h := perform_of_ok h
  simp only [perform] at h
  split at h
  · cases h
  · rename_i token hrow
    cases h
    exact ⟨⟨token, hrow⟩, rfl⟩

theorem of_listTokens {appId userId : Uuid} {rows : List (Uuid × IssuedToken)}
    (h : query call choice w (.listTokensByAppAndUser appId userId) = some (.ok rows, w')) :
    (rows = w.tokens.rows.selectAll fun _ token => w.ofAppAndUser appId userId token) ∧
      w' = w.note (.tokensListed call appId userId (rows.map (·.2.apiKeyId))) := by
  have h := perform_of_ok h
  simp only [perform, Option.some.injEq, Prod.mk.injEq, Except.ok.injEq] at h
  obtain ⟨rfl, rfl⟩ := h
  exact ⟨rfl, rfl⟩

theorem of_deleteTokens {appId userId : Uuid} {count : Nat}
    (h : query call choice w (.deleteTokensByAppAndUser appId userId) = some (.ok count, w')) :
    w' = w.withoutTokens appId userId := by
  have h := perform_of_ok h
  simp only [perform, Option.some.injEq, Prod.mk.injEq, Except.ok.injEq] at h
  obtain ⟨-, rfl⟩ := h
  rfl

theorem of_createApiKey {id : String} {key : ApiKeyRow} {grant : Grant}
    (h : query call choice w (.createApiKey id key grant) = some (.ok true, w')) :
    ∃ apiKeys, w.apiKeys.Inserted id { key with grant := grant } apiKeys ∧
      w' = { w with apiKeys := apiKeys }.note (.keyCreated call id) := by
  have h := perform_of_ok h
  simp only [perform] at h
  split at h
  · cases h
  · obtain ⟨apiKeys, hinsert, heq⟩ := Option.map_eq_some_iff.mp h
    cases heq
    exact ⟨apiKeys, Register.inserted_of_insert? hinsert, rfl⟩

theorem of_createToken {token : TokenRow} {grant : Grant}
    (h : query call choice w (.createToken token grant) = some (.ok (), w')) :
    ∃ id secret tokens, w.secrets.rows.lookup token.appSecretId = some secret ∧
      w.tokens.Inserted id { token with grant := grant, secret := secret } tokens ∧
      w' = { w with tokens := tokens }.note (.tokenCreated call id) := by
  have h := perform_of_ok h
  simp only [perform] at h
  split at h
  · cases h
  · rename_i secret hsecret
    split at h
    · cases h
    · obtain ⟨tokens, hinsert, heq⟩ := Option.map_eq_some_iff.mp h
      cases heq
      exact ⟨choice.uuid, secret, tokens, hsecret, Register.inserted_of_insert? hinsert, rfl⟩

end

/-! ## What no step undoes -/

namespace AppTable

/-- The flag of an app stays what it was registered under. -/
def Later (apps apps' : AppTable) : Prop :=
  ∀ id flag, apps.registered.lookup id = some flag → apps'.registered.lookup id = some flag

theorem later_create {apps apps' : AppTable} {id : Uuid} {app : AppRow}
    (h : apps.create? id app = some apps') : apps.Later apps' := by
  unfold create? at h
  split at h
  · cases h
  · rename_i hfresh
    cases h
    intro id' flag hflag
    have hne : id' ≠ id := by
      rintro rfl
      simp [hflag] at hfresh
    simpa [HashMap.lookup_insert_ite, hne] using hflag

end AppTable

namespace World

structure Later (w w' : World) : Prop where
  apps : w.apps.Later w'.apps
  pendings : w.pendings.Later w'.pendings
  secrets : w.secrets.Later w'.secrets
  codes : w.codes.Later w'.codes
  apiKeys : w.apiKeys.Later w'.apiKeys
  tokens : w.tokens.Later w'.tokens
  log : w.log <:+ w'.log
  calls : w.calls ≤ w'.calls
  clock : w.clock ≤ w'.clock

theorem Later.refl (w : World) : w.Later w where
  apps _ _ h := h
  pendings := .refl _
  secrets := .refl _
  codes := .refl _
  apiKeys := .refl _
  tokens := .refl _
  log := List.suffix_rfl
  calls := Nat.le_refl _
  clock := le_refl _

theorem Later.trans {w w' w'' : World} (h : w.Later w') (h' : w'.Later w'') : w.Later w'' where
  apps id flag hflag := h'.apps id flag (h.apps id flag hflag)
  pendings := h.pendings.trans h'.pendings
  secrets := h.secrets.trans h'.secrets
  codes := h.codes.trans h'.codes
  apiKeys := h.apiKeys.trans h'.apiKeys
  tokens := h.tokens.trans h'.tokens
  log := h.log.trans h'.log
  calls := h.calls.trans h'.calls
  clock := h.clock.trans h'.clock

theorem Later.mem_log {w w' : World} (h : w.Later w') {event : Event} (hmem : event ∈ w.log) :
    event ∈ w'.log :=
  h.log.mem hmem

theorem later_note (w : World) (event : Event) : w.Later (w.note event) :=
  { Later.refl w with log := List.suffix_cons event w.log }

theorem later_cascade (w : World) {secrets : Register Uuid SecretRow}
    (h : w.secrets.Later secrets) : w.Later (w.cascade secrets) :=
  { Later.refl w with
    secrets := h
    tokens := Register.later_retain _ _ }

theorem later_withoutApp (w : World) (id : Uuid) : w.Later (w.withoutApp id) :=
  { Later.refl w with
    apps := fun _ _ h => h
    pendings := Register.later_retain _ _
    secrets := Register.later_retain _ _
    codes := Register.later_retain _ _
    tokens := Register.later_retain _ _ }

end World

theorem Change.later {call : Nat} {w w' : World} {q : StoreCall} (h : Change call w q w') :
    w.Later w' := by
  cases h with
  | same => exact .refl w
  | createApp happs => exact { World.Later.refl w with apps := AppTable.later_create happs }
  | updateApp => exact { World.Later.refl w with apps := fun _ _ h => h }
  | deleteApp id => exact w.later_withoutApp id
  | approve => exact { World.Later.refl w with }
  | insertPending hinsert =>
    refine World.Later.trans ?_ (World.later_note _ _)
    exact { World.Later.refl w with pendings := hinsert.later }
  | takePending _ hnow =>
    refine World.Later.trans ?_ (World.later_note _ _)
    exact { World.Later.refl w with
      pendings := Register.later_erase _ _
      clock := hnow }
  | createSecret hinsert => exact { World.Later.refl w with secrets := hinsert.later }
  | deleteSecret id => exact w.later_cascade (Register.later_erase _ _)
  | createCode _ _ hinsert => exact { World.Later.refl w with codes := hinsert.later }
  | findCode => exact w.later_note _
  | deleteCode =>
    refine World.Later.trans ?_ (World.later_note _ _)
    exact { World.Later.refl w with codes := Register.later_erase _ _ }
  | createApiKey hinsert =>
    refine World.Later.trans ?_ (World.later_note _ _)
    exact { World.Later.refl w with apiKeys := hinsert.later }
  | deleteApiKey => exact { World.Later.refl w with apiKeys := Register.later_erase _ _ }
  | createToken _ _ hinsert =>
    refine World.Later.trans ?_ (World.later_note _ _)
    exact { World.Later.refl w with tokens := hinsert.later }
  | deleteToken =>
    refine World.Later.trans ?_ (World.later_note _ _)
    exact { World.Later.refl w with tokens := Register.later_erase _ _ }
  | listTokens => exact w.later_note _
  | deleteTokens => exact { World.Later.refl w with tokens := Register.later_retain _ _ }

theorem Steps.later {choice : Choice} {w w' : World} {op : Op} (h : Steps choice w op w') :
    w.Later w' := by
  cases h with
  | quiet => exact .refl w
  | tick hnow => exact { World.Later.refl w with clock := hnow }
  | begin request hnow =>
    refine World.Later.trans ?_ (World.later_note _ _)
    exact { World.Later.refl w with
      clock := hnow
      calls := Nat.le_succ _ }
  | finish => exact w.later_note _
  | failed => exact w.later_note _
  | change _ _ hchange => exact hchange.later

/-! ## Steps that make neither keys nor tokens -/

/-- The calls that make a key or a token. -/
def StoreCall.Grants : StoreCall → Prop
  | createApiKey _ _ _ | createToken _ _ => True
  | _ => False

/-- Key and token rows are only taken away. -/
structure World.Shrinks (w w' : World) : Prop where
  later : w.Later w'
  tokens : ∀ id token, w'.tokens.rows.lookup id = some token → w.tokens.rows.lookup id = some token
  apiKeys : ∀ id key, w'.apiKeys.rows.lookup id = some key → w.apiKeys.rows.lookup id = some key
  issued : w'.tokens.issued = w.tokens.issued

theorem Change.shrinks {call : Nat} {w w' : World} {q : StoreCall} (h : Change call w q w')
    (hq : ¬ q.Grants) : w.Shrinks w' := by
  refine ⟨h.later, ?_, ?_, ?_⟩
  · intro id token hrow
    cases h with
    | createToken => exact absurd trivial hq
    | deleteApp => exact (Register.lookup_retain_iff.mp hrow).1
    | deleteSecret => exact (Register.lookup_retain_iff.mp hrow).1
    | deleteToken => exact (Register.lookup_erase_iff.mp hrow).2
    | deleteTokens => exact (Register.lookup_retain_iff.mp hrow).1
    | _ => exact hrow
  · intro id key hrow
    cases h with
    | createApiKey => exact absurd trivial hq
    | deleteApiKey => exact (Register.lookup_erase_iff.mp hrow).2
    | _ => exact hrow
  · cases h with
    | createToken => exact absurd trivial hq
    | _ => rfl

theorem Steps.shrinks {choice : Choice} {w w' : World} {op : Op} (h : Steps choice w op w')
    (hop : ∀ call q, op.query? = some (call, q) → ¬ q.Grants) : w.Shrinks w' := by
  refine ⟨h.later, ?_, ?_, ?_⟩ <;>
  cases h with
  | change hquery _ hchange =>
    have hshrinks := hchange.shrinks (hop _ _ hquery)
    first
      | exact hshrinks.tokens
      | exact hshrinks.apiKeys
      | exact hshrinks.issued
  | _ => first | exact fun _ _ h => h | rfl

/-! ## The growth of the world -/

def growth [Sha256] [UrlSyntax] : Growth provider where
  Later := World.Later
  refl := .refl
  trans := .trans
  exec h := (steps_of_exec h).later
  outside w _ := .refl w

/-! ## Rules for the ways in which errors are passed on -/

section

variable [Sha256] [UrlSyntax] {regime : Regime Op World Choice Request Empty} {ω α β : Type}
  {m : Method growth regime ω} {seen : World} {o : ω} {call : Nat}

theorem plays_awaitStore {Q : World → ω → Outcome α → Prop} {q : StoreCall}
    {next : q.Response → Handler (Outcome α)}
    (h : ∀ s others choice r s', seen.Later s → m.inv s (o :: others) →
      regime.call (.store call q) s choice → query call choice s q = some (r, s') →
      ∃ o', m.inv s' (o' :: others) ∧ (∀ e, r = .error e → Q s' o' (.error (.storage e))) ∧
        ∀ a, r = .ok a → m.Plays Q (next a) s' o') :
    m.Plays Q (awaitStore call q next) seen o := by
  intro s others choice r s' hseen hinv hallowed hexec
  obtain ⟨o', hinv', herror, hok⟩ := h s others choice r s' hseen hinv hallowed hexec
  refine ⟨o', hinv', ?_⟩
  cases r with
  | error e => exact herror e rfl
  | ok a => exact hok a rfl

theorem plays_replyStore {Q : World → ω → Reply → Prop} {q : StoreCall}
    {next : q.Response → Handler Reply}
    (h : ∀ s others choice r s', seen.Later s → m.inv s (o :: others) →
      regime.call (.store call q) s choice → query call choice s q = some (r, s') →
      ∃ o', m.inv s' (o' :: others) ∧ (∀ e, r = .error e → Q s' o' (.storageError e)) ∧
        ∀ a, r = .ok a → m.Plays Q (next a) s' o') :
    m.Plays Q (replyStore call q next) seen o := by
  intro s others choice r s' hseen hinv hallowed hexec
  obtain ⟨o', hinv', herror, hok⟩ := h s others choice r s' hseen hinv hallowed hexec
  refine ⟨o', hinv', ?_⟩
  cases r with
  | error e => exact herror e rfl
  | ok a => exact hok a rfl

/-- A call that the invariant does not look at. -/
theorem keeps_call {quiet : Op → Prop} (hkeeps : m.Keeps quiet) {Q : World → ω → α → Prop}
    {op : Op} {next : op.Response → Handler α} (hop : quiet op)
    (hnext : ∀ s choice r s', seen.Later s → exec op s choice = some (r, s') →
      m.Plays Q (next r) s' o) : m.Plays Q (.call op next) seen o :=
  hkeeps.call hop hnext


theorem keeps_awaitStore {quiet : Op → Prop} (hkeeps : m.Keeps quiet)
    {Q : World → ω → Outcome α → Prop} {q : StoreCall} {next : q.Response → Handler (Outcome α)}
    (hop : quiet (.store call q)) (herror : ∀ s' e, seen.Later s' → Q s' o (.error (.storage e)))
    (h : ∀ s choice a s', seen.Later s → query call choice s q = some (.ok a, s') →
      m.Plays Q (next a) s' o) : m.Plays Q (awaitStore call q next) seen o := by
  refine plays_awaitStore fun s others choice r s' hseen hinv hallowed hexec => ?_
  refine ⟨o, hkeeps.keeps hop hinv hallowed hexec, fun e _ => ?_, fun a hr => ?_⟩
  · exact herror s' e (hseen.trans (steps_of_store hexec).later)
  · rw [hr] at hexec
    exact h s choice a s' hseen hexec

theorem plays_awaitOk {Q : World → ω → Outcome β → Prop} {p : Handler (Outcome α)}
    {next : α → Handler (Outcome β)}
    (h : m.Plays (fun seen' o' r => (∀ e, r = .error e → Q seen' o' (.error e)) ∧
      ∀ a, r = .ok a → m.Plays Q (next a) seen' o') p seen o) :
    m.Plays Q (awaitOk p next) seen o := by
  refine Method.Plays.bind (h.mono fun seen' o' r _ hr => ?_)
  cases r with
  | error e => exact hr.1 e rfl
  | ok a => exact hr.2 a rfl

theorem plays_replyOk {Q : World → ω → Reply → Prop} {p : Handler (Outcome α)}
    {next : α → Handler Reply}
    (h : m.Plays (fun seen' o' r => (∀ e, r = .error e → Q seen' o' (.failed e)) ∧
      ∀ a, r = .ok a → m.Plays Q (next a) seen' o') p seen o) :
    m.Plays Q (replyOk p next) seen o := by
  refine Method.Plays.bind (h.mono fun seen' o' r _ hr => ?_)
  cases r with
  | error e => exact hr.1 e rfl
  | ok a => exact hr.2 a rfl

/-- Nothing is asked of what is left. -/
def anyEnd {α : Type} (_ : World) (_ : ω) (_ : α) : Prop := True

/-- A request, from the rules for its first and its last moment and for what is between them. -/
theorem plays_serve {Q : World → ω → Unit → Prop} {request : Request}
    (h : ∀ s others choice, seen.Later s → m.inv s (o :: others) →
      regime.call (.begin request) s choice → s.clock ≤ choice.now →
      ∃ o', m.inv (s.begun request choice.now) (o' :: others) ∧
        m.Plays (fun seen' o'' reply => ∀ t others choice, seen'.Later t →
          m.inv t (o'' :: others) → regime.call (.finish s.calls reply) t choice →
          ∃ last, m.inv (t.note (.finished s.calls reply)) (last :: others) ∧
            Q (t.note (.finished s.calls reply)) last ()) (handle s.calls request)
          (s.begun request choice.now) o') :
    m.Plays Q (serve request) seen o := by
  intro s others choice (call : Nat) s' hseen hinv hallowed hexec
  have hexec : exec (.begin request) s choice = some (call, s') := hexec
  simp only [exec] at hexec
  split at hexec
  · cases hexec
  · rename_i hnow
    cases hexec
    obtain ⟨o', hinv', hhandle⟩ := h s others choice hseen hinv hallowed (not_lt.mp hnow)
    refine ⟨o', hinv', Method.Plays.bind (hhandle.mono fun seen' o'' reply _ hend => ?_)⟩
    intro t others' choice' r t' hseen' hinv'' hallowed' hexec'
    cases hexec'
    exact hend t others' choice' hseen' hinv'' hallowed'

end

/-! ## What can be taken once -/

/-- What can be taken once only. -/
inductive Spent where
  | consent (nonce : Uuid)
  | code (id : Uuid)
  | token (id : Uuid)
  deriving DecidableEq

def Event.spent : Event → Option Spent
  | consentTaken _ nonce _ => some (.consent nonce)
  | codeDeleted _ id => some (.code id)
  | tokenDeleted _ id => some (.token id)
  | _ => none

/-- There has been a row of it, and there is none any more. -/
def World.Gone (w : World) : Spent → Prop
  | .consent nonce =>
    (∃ row, w.pendings.issued.lookup nonce = some row) ∧ w.pendings.rows.lookup nonce = none
  | .code id => (∃ row, w.codes.issued.lookup id = some row) ∧ w.codes.rows.lookup id = none
  | .token id => (∃ row, w.tokens.issued.lookup id = some row) ∧ w.tokens.rows.lookup id = none

theorem World.Gone.later {w w' : World} {x : Spent} (h : w.Gone x) (hlater : w.Later w') :
    w'.Gone x := by
  cases x with
  | consent nonce =>
    obtain ⟨⟨row, hissued⟩, hnone⟩ := h
    exact ⟨⟨row, hlater.pendings.issued _ _ hissued⟩, hlater.pendings.gone _ _ hissued hnone⟩
  | code id =>
    obtain ⟨⟨row, hissued⟩, hnone⟩ := h
    exact ⟨⟨row, hlater.codes.issued _ _ hissued⟩, hlater.codes.gone _ _ hissued hnone⟩
  | token id =>
    obtain ⟨⟨row, hissued⟩, hnone⟩ := h
    exact ⟨⟨row, hlater.tokens.issued _ _ hissued⟩, hlater.tokens.gone _ _ hissued hnone⟩

theorem Change.spent_before {call : Nat} {w w' : World} {q : StoreCall} (h : Change call w q w')
    {e : Event} {x : Spent} (he : e ∈ w'.log) (hx : e.spent = some x) (hgone : w.Gone x) :
    e ∈ w.log := by
  have hold : ∀ {e' : Event}, (∀ y, e'.spent = some y → ¬ w.Gone y) → e ∈ e' :: w.log →
      e ∈ w.log := by
    intro e' hthere hmem
    refine (List.mem_cons.mp hmem).resolve_left fun heq => ?_
    exact hthere x (heq ▸ hx) hgone
  cases h with
  | takePending hrow =>
    refine hold (fun y hy hgone => ?_) he
    cases hy
    rw [hgone.2] at hrow
    cases hrow
  | deleteCode hrow =>
    refine hold (fun y hy hgone => ?_) he
    cases hy
    rw [hgone.2] at hrow
    cases hrow
  | deleteToken hrow =>
    refine hold (fun y hy hgone => ?_) he
    cases hy
    rw [hgone.2] at hrow
    cases hrow
  | insertPending => exact hold (fun y hy => by cases hy) he
  | findCode => exact hold (fun y hy => by cases hy) he
  | createApiKey => exact hold (fun y hy => by cases hy) he
  | createToken => exact hold (fun y hy => by cases hy) he
  | listTokens => exact hold (fun y hy => by cases hy) he
  | _ => exact he

/-- What is gone is not taken any more. -/
theorem Steps.spent_before {choice : Choice} {w w' : World} {op : Op} (h : Steps choice w op w')
    {e : Event} {x : Spent} (he : e ∈ w'.log) (hx : e.spent = some x) (hgone : w.Gone x) :
    e ∈ w.log := by
  have hold : ∀ {e' : Event}, e'.spent = none → e ∈ e' :: w.log → e ∈ w.log := by
    intro e' hnone hmem
    refine (List.mem_cons.mp hmem).resolve_left fun heq => ?_
    rw [heq, hnone] at hx
    cases hx
  cases h with
  | quiet => exact he
  | tick => exact he
  | begin => exact hold rfl he
  | finish => exact hold rfl he
  | failed => exact hold rfl he
  | change _ _ hchange => exact hchange.spent_before he hx hgone

/-! ## What the log records -/

/-- Two events that do not take the same thing. -/
def Event.TakesOther (e e' : Event) : Prop := ∀ x, e.spent = some x → e'.spent ≠ some x

instance : Std.Symm Event.TakesOther where
  symm _ _ h x hx hx' := h x hx' hx

/-- What holds of the log and of the tables, whatever the calls are. -/
structure Recorded (w : World) : Prop where
  began_lt : ∀ {call : Nat} {request : Request} {at_ : OffsetDateTime},
    .began call request at_ ∈ w.log → call < w.calls
  began_unique : ∀ {call : Nat} {request request' : Request} {at_ at_' : OffsetDateTime},
    .began call request at_ ∈ w.log → .began call request' at_' ∈ w.log →
      request = request' ∧ at_ = at_'
  codes_unique : w.codes.Unique (·.hashedSecret)
  tokens_unique : w.tokens.Unique (·.refreshHash)
  gone : ∀ {e : Event} {x : Spent}, e ∈ w.log → e.spent = some x → w.Gone x
  once : w.log.Pairwise Event.TakesOther

namespace Recorded

variable {w w' : World}

theorem start (apps : AppTable) : Recorded (World.start apps) where
  began_lt h := by cases h
  began_unique h := by cases h
  codes_unique := Register.Unique.empty _
  tokens_unique := Register.Unique.empty _
  gone h := by cases h
  once := List.Pairwise.nil

/-- Nothing is taken twice. -/
theorem spent_once (h : Recorded w) {e e' : Event} {x : Spent} (he : e ∈ w.log) (he' : e' ∈ w.log)
    (hx : e.spent = some x) (hx' : e'.spent = some x) : e = e' := by
  by_contra hne
  exact h.once.forall he he' hne x hx hx'

theorem spent_count (h : Recorded w) {e : Event} {x : Spent} (he : e ∈ w.log)
    (hx : e.spent = some x) : w.log.countP (fun e => e.spent = some x) = 1 := by
  have hpairwise := h.once.filter fun e => decide (e.spent = some x)
  rw [List.countP_eq_length_filter]
  have hmem : e ∈ w.log.filter fun e => decide (e.spent = some x) := by simp [he, hx]
  match hfilter : w.log.filter fun e => decide (e.spent = some x) with
  | [] => simp [hfilter] at hmem
  | [_] => simp [hfilter]
  | a :: b :: rest =>
    have ha : a ∈ w.log.filter fun e => decide (e.spent = some x) := by simp [hfilter]
    have hb : b ∈ w.log.filter fun e => decide (e.spent = some x) := by simp [hfilter]
    rw [hfilter] at hpairwise
    have htakes := List.rel_of_pairwise_cons hpairwise (List.mem_cons_self : b ∈ b :: rest)
    simp only [List.mem_filter, decide_eq_true_eq] at ha hb
    exact absurd hb.2 (htakes x ha.2)

/-- A step that neither begins a call nor takes anything. -/
theorem keep (h : Recorded w) (hlater : w.Later w')
    (hlog : w'.log = w.log ∨ ∃ e, w'.log = e :: w.log ∧ e.spent = none ∧
      ∀ call request at_, e ≠ .began call request at_)
    (hcodes : w'.codes.Unique (·.hashedSecret)) (htokens : w'.tokens.Unique (·.refreshHash)) :
    Recorded w' := by
  have hbegan : ∀ {call request at_}, Event.began call request at_ ∈ w'.log →
      .began call request at_ ∈ w.log := by
    intro call request at_ hmem
    obtain hlog | ⟨e, hlog, -, hne⟩ := hlog
    · rwa [hlog] at hmem
    · rw [hlog] at hmem
      cases List.mem_cons.mp hmem with
      | inl heq => exact absurd heq.symm (hne call request at_)
      | inr hmem => exact hmem
  refine ⟨fun hmem => ?_, fun hmem hmem' => ?_, hcodes, htokens, fun {e x} he hx => ?_, ?_⟩
  · exact Nat.lt_of_lt_of_le (h.began_lt (hbegan hmem)) hlater.calls
  · exact h.began_unique (hbegan hmem) (hbegan hmem')
  · obtain hlog | ⟨e', hlog, hspent, -⟩ := hlog
    · rw [hlog] at he
      exact (h.gone he hx).later hlater
    · rw [hlog] at he
      cases List.mem_cons.mp he with
      | inl heq =>
        rw [heq, hspent] at hx
        cases hx
      | inr he => exact (h.gone he hx).later hlater
  · obtain hlog | ⟨e', hlog, hspent, -⟩ := hlog
    · rw [hlog]
      exact h.once
    · rw [hlog]
      refine List.pairwise_cons.mpr ⟨fun e _ x hx => ?_, h.once⟩
      rw [hspent] at hx
      cases hx

/-- A step that takes what is still there. -/
theorem take (h : Recorded w) (hlater : w.Later w') {e : Event} {x : Spent}
    (hlog : w'.log = e :: w.log) (hspent : e.spent = some x) (hthere : ¬ w.Gone x)
    (hgone : w'.Gone x) (hcodes : w'.codes.issued = w.codes.issued)
    (htokens : w'.tokens.issued = w.tokens.issued) : Recorded w' := by
  have hbegan : ∀ {call request at_}, Event.began call request at_ ∈ w'.log →
      .began call request at_ ∈ w.log := by
    intro call request at_ hmem
    rw [hlog] at hmem
    cases List.mem_cons.mp hmem with
    | inl heq =>
      rw [← heq] at hspent
      cases hspent
    | inr hmem => exact hmem
  refine ⟨fun hmem => ?_, fun hmem hmem' => ?_, ?_, ?_, fun {e' x'} he' hx' => ?_, ?_⟩
  · exact Nat.lt_of_lt_of_le (h.began_lt (hbegan hmem)) hlater.calls
  · exact h.began_unique (hbegan hmem) (hbegan hmem')
  · simpa [Register.Unique, hcodes] using h.codes_unique
  · simpa [Register.Unique, htokens] using h.tokens_unique
  · rw [hlog] at he'
    cases List.mem_cons.mp he' with
    | inl heq =>
      rw [heq, hspent] at hx'
      cases hx'
      exact hgone
    | inr he' => exact (h.gone he' hx').later hlater
  · rw [hlog]
    refine List.pairwise_cons.mpr ⟨fun e' he' y hy hy' => ?_, h.once⟩
    rw [hspent] at hy
    cases hy
    exact hthere (h.gone he' hy')

theorem change {call : Nat} {q : StoreCall} (h : Recorded w) (hchange : Change call w q w') :
    Recorded w' := by
  have hlater := hchange.later
  cases hchange with
  | createCode happ hfresh hinsert =>
    refine h.keep hlater (.inl rfl) ?_ h.tokens_unique
    exact h.codes_unique.insert hinsert fun id' code' hissued => hfresh id' code' hissued
  | createToken hsecret hfresh hinsert =>
    refine h.keep hlater (.inr ⟨_, rfl, rfl, by simp⟩) h.codes_unique ?_
    exact h.tokens_unique.insert hinsert fun id' token' hissued => hfresh id' token' hissued
  | @takePending nonce row now hrow hnow =>
    refine h.take hlater rfl rfl ?_ ?_ rfl rfl
    · rintro ⟨-, hnone⟩
      rw [hrow] at hnone
      cases hnone
    · exact ⟨⟨row, w.pendings.rows_issued _ _ hrow⟩, AList.lookup_erase _ _⟩
  | @deleteCode id code hrow =>
    refine h.take hlater rfl rfl ?_ ?_ rfl rfl
    · rintro ⟨-, hnone⟩
      rw [hrow] at hnone
      cases hnone
    · exact ⟨⟨code, w.codes.rows_issued _ _ hrow⟩, AList.lookup_erase _ _⟩
  | @deleteToken id token hrow =>
    refine h.take hlater rfl rfl ?_ ?_ rfl rfl
    · rintro ⟨-, hnone⟩
      rw [hrow] at hnone
      cases hnone
    · exact ⟨⟨token, w.tokens.rows_issued _ _ hrow⟩, AList.lookup_erase _ _⟩
  | findCode => exact h.keep hlater (.inr ⟨_, rfl, rfl, by simp⟩) h.codes_unique h.tokens_unique
  | listTokens => exact h.keep hlater (.inr ⟨_, rfl, rfl, by simp⟩) h.codes_unique h.tokens_unique
  | same => exact h
  | createApp => exact h.keep hlater (.inl rfl) h.codes_unique h.tokens_unique
  | updateApp => exact h.keep hlater (.inl rfl) h.codes_unique h.tokens_unique
  | deleteApp => exact h.keep hlater (.inl rfl) h.codes_unique h.tokens_unique
  | approve => exact h.keep hlater (.inl rfl) h.codes_unique h.tokens_unique
  | insertPending =>
    exact h.keep hlater (.inr ⟨_, rfl, rfl, by simp⟩) h.codes_unique h.tokens_unique
  | createSecret => exact h.keep hlater (.inl rfl) h.codes_unique h.tokens_unique
  | deleteSecret => exact h.keep hlater (.inl rfl) h.codes_unique h.tokens_unique
  | createApiKey =>
    exact h.keep hlater (.inr ⟨_, rfl, rfl, by simp⟩) h.codes_unique h.tokens_unique
  | deleteApiKey => exact h.keep hlater (.inl rfl) h.codes_unique h.tokens_unique
  | deleteTokens => exact h.keep hlater (.inl rfl) h.codes_unique h.tokens_unique

theorem step {choice : Choice} {op : Op} (h : Recorded w) (hsteps : Steps choice w op w') :
    Recorded w' := by
  have hlater := hsteps.later
  cases hsteps with
  | quiet => exact h
  | tick => exact h.keep hlater (.inl rfl) h.codes_unique h.tokens_unique
  | finish => exact h.keep hlater (.inr ⟨_, rfl, rfl, by simp⟩) h.codes_unique h.tokens_unique
  | failed => exact h.keep hlater (.inr ⟨_, rfl, rfl, by simp⟩) h.codes_unique h.tokens_unique
  | change _ _ hchange => exact h.change hchange
  | begin request hnow =>
    refine ⟨?_, ?_, h.codes_unique, h.tokens_unique, ?_, ?_⟩
    · intro call request' at_ hmem
      cases List.mem_cons.mp hmem with
      | inl heq =>
        cases heq
        exact Nat.lt_succ_self w.calls
      | inr hmem => exact Nat.lt_succ_of_lt (h.began_lt hmem)
    · intro call r r' t t' hmem hmem'
      cases List.mem_cons.mp hmem with
      | inl heq =>
        cases List.mem_cons.mp hmem' with
        | inl heq' =>
          cases heq
          cases heq'
          exact ⟨rfl, rfl⟩
        | inr hmem' =>
          cases heq
          exact absurd (h.began_lt hmem') (Nat.lt_irrefl _)
      | inr hmem =>
        cases List.mem_cons.mp hmem' with
        | inl heq' =>
          cases heq'
          exact absurd (h.began_lt hmem) (Nat.lt_irrefl _)
        | inr hmem' => exact h.began_unique hmem hmem'
    · intro e x he hx
      cases List.mem_cons.mp he with
      | inl heq =>
        rw [heq] at hx
        cases hx
      | inr he => exact (h.gone he hx).later hlater
    · refine List.pairwise_cons.mpr ⟨fun e _ x hx => ?_, h.once⟩
      cases hx

end Recorded

/-! ## What the answers promise -/

/-- What is to be seen of a call from its answer on. -/
structure Contract where
  Holds : Nat → Request → OffsetDateTime → Reply → World → Prop
  later : ∀ {call request at_ reply} {w w' : World}, Holds call request at_ reply w → w.Later w' →
    Holds call request at_ reply w'

namespace Contract

structure Kept (contract : Contract) (w : World) : Prop where
  finished_lt : ∀ call reply, .finished call reply ∈ w.log → call < w.calls
  holds : ∀ call request at_ reply, .began call request at_ ∈ w.log →
    .finished call reply ∈ w.log → contract.Holds call request at_ reply w

namespace Kept

variable {contract : Contract} {w w' : World}

theorem start (apps : AppTable) : contract.Kept (World.start apps) where
  finished_lt call reply h := by cases h
  holds call request at_ reply h := by cases h

/-- A step that neither begins nor ends a call. -/
theorem inner (h : contract.Kept w) (hlater : w.Later w') (hlog : w.LogsInner w') :
    contract.Kept w' where
  finished_lt call reply hfinished :=
    (h.finished_lt call reply (hlog.finished hfinished)).trans_le hlater.calls
  holds call request at_ reply hbegan hfinished :=
    contract.later
      (h.holds call request at_ reply (hlog.began hbegan) (hlog.finished hfinished)) hlater

/-- The call that begins has not been answered. -/
theorem begin (h : contract.Kept w) {request : Request} {now : OffsetDateTime}
    (hlater : w.Later (w.begun request now)) : contract.Kept (w.begun request now) := by
  have hold : ∀ {call reply}, .finished call reply ∈ (w.begun request now).log →
      .finished call reply ∈ w.log :=
    fun hmem => (List.mem_cons.mp hmem).resolve_left fun heq => by cases heq
  refine ⟨fun call reply hfinished => ?_, fun call request' at_ reply hbegan hfinished => ?_⟩
  · exact Nat.lt_succ_of_lt (h.finished_lt call reply (hold hfinished))
  · cases List.mem_cons.mp hbegan with
    | inl heq =>
      cases heq
      exact absurd (h.finished_lt _ _ (hold hfinished)) (Nat.lt_irrefl _)
    | inr hbegan => exact contract.later (h.holds _ _ _ _ hbegan (hold hfinished)) hlater

/-- The call that ends has kept its promise. -/
theorem finish (h : contract.Kept w) (hrecorded : Recorded w) {call : Nat} {request : Request}
    {at_ : OffsetDateTime} {reply : Reply} (hbegan : .began call request at_ ∈ w.log)
    (hholds : contract.Holds call request at_ reply w) :
    contract.Kept (w.note (.finished call reply)) := by
  have hlater := w.later_note (.finished call reply)
  refine ⟨fun call' reply' hfinished => ?_, fun call' request' at_' reply' hbegan' hfinished => ?_⟩
  · cases List.mem_cons.mp hfinished with
    | inl heq =>
      cases heq
      exact hrecorded.began_lt hbegan
    | inr hfinished => exact h.finished_lt call' reply' hfinished
  · have hbefore : .began call' request' at_' ∈ w.log :=
      (List.mem_cons.mp hbegan').resolve_left fun heq => by cases heq
    cases List.mem_cons.mp hfinished with
    | inl heq =>
      cases heq
      obtain ⟨rfl, rfl⟩ := hrecorded.began_unique hbegan hbefore
      exact contract.later hholds hlater
    | inr hfinished => exact contract.later (h.holds _ _ _ _ hbefore hfinished) hlater

end Kept

end Contract

end Coderd.OAuth2
