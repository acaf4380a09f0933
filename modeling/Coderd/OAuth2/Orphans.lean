import Coderd.OAuth2.Revocation
import Coderd.OAuth2.Rotation

namespace Coderd.OAuth2

open Coderd.Foundation Coderd.Auth
open Coderd.CryptoKeys (OffsetDateTime)

/-! ## Keys and the tokens that refer to them -/

namespace World

variable (w : World)

/-- A token row has the key as its access token. -/
def Refers (key : String) : Prop :=
  ∃ id token, w.tokens.rows.lookup id = some token ∧ token.apiKeyId = key

/-- The call deletes the token row, or what the row hangs on. -/
def Takes (id : Uuid) (token : IssuedToken) : StoreCall → Prop
  | .deleteApp appId =>
    ∃ secret, w.secrets.rows.lookup token.appSecretId = some secret ∧ secret.appId = appId
  | .deleteSecret secretId => token.appSecretId = secretId
  | .deleteToken tokenId => tokenId = id
  | .deleteTokensByAppAndUser appId userId => w.ofAppAndUser appId userId token = true
  | _ => False

end World

section

variable {w w' : World} {call : Nat} {q : StoreCall}

theorem Change.kept_or_taken (h : Change call w q w') (href : w.Referenced) {id : Uuid}
    {token : IssuedToken} (hrow : w.tokens.rows.lookup id = some token) :
    w'.tokens.rows.lookup id = some token ∨ w.Takes id token q := by
  obtain ⟨secret, hsecret⟩ := href id token hrow
  cases h with
  | deleteApp appId =>
    by_cases happ : secret.appId = appId
    · exact .inr ⟨secret, hsecret, happ⟩
    · have hkept : (w.secrets.retain fun _ row => row.appId ≠ appId).rows.lookup
          token.appSecretId = some secret :=
        Register.lookup_retain_iff.mpr ⟨hsecret, decide_eq_true happ⟩
      exact .inl (Register.lookup_retain_iff.mpr ⟨hrow, Option.isSome_iff_exists.mpr ⟨_, hkept⟩⟩)
  | deleteSecret secretId =>
    by_cases hid : token.appSecretId = secretId
    · exact .inr hid
    · have hkept := Register.lookup_erase_iff.mpr ⟨hid, hsecret⟩
      exact .inl (Register.lookup_retain_iff.mpr ⟨hrow, Option.isSome_iff_exists.mpr ⟨_, hkept⟩⟩)
  | createToken _ _ hinsert => exact .inl (hinsert.rows_of_rows hrow)
  | @deleteToken tokenId token' _ =>
    by_cases hid : tokenId = id
    · exact .inr hid
    · exact .inl (Register.lookup_erase_iff.mpr ⟨Ne.symm hid, hrow⟩)
  | deleteTokens appId userId =>
    cases hof : w.ofAppAndUser appId userId token with
    | true => exact .inr hof
    | false => exact .inl (Register.lookup_retain_iff.mpr ⟨hrow, by simp [hof]⟩)
  | _ => exact .inl hrow

end

/-! ## Steps that leave the tables alone -/

/-- The tables of keys, secrets and tokens are the same. -/
structure World.Alike (w w' : World) : Prop where
  secrets : w'.secrets = w.secrets
  apiKeys : w'.apiKeys = w.apiKeys
  tokens : w'.tokens = w.tokens

section

variable {w w' : World} {call : Nat} {choice : Choice}

theorem alike_of_createApiKey {id : String} {key : ApiKeyRow} {grant : Grant}
    {r : Except StorageError Bool}
    (h : query call choice w (.createApiKey id key grant) = some (r, w')) (hr : r ≠ .ok true) :
    w.Alike w' := by
  unfold query at h
  split at h
  · cases h
    exact ⟨rfl, rfl, rfl⟩
  · simp only [perform] at h
    split at h
    · cases h
      exact ⟨rfl, rfl, rfl⟩
    · obtain ⟨apiKeys, -, heq⟩ := Option.map_eq_some_iff.mp h
      cases heq
      exact absurd rfl hr

theorem alike_of_createToken {token : TokenRow} {grant : Grant} {e : StorageError}
    (h : query call choice w (.createToken token grant) = some (.error e, w')) : w.Alike w' := by
  unfold query at h
  split at h
  · cases h
    exact ⟨rfl, rfl, rfl⟩
  · simp only [perform] at h
    split at h
    · cases h
      exact ⟨rfl, rfl, rfl⟩
    · split at h
      · cases h
      · obtain ⟨tokens, -, heq⟩ := Option.map_eq_some_iff.mp h
        cases heq

theorem alike_of_deleteToken {id : Uuid} {r : Except StorageError Bool}
    (h : query call choice w (.deleteToken id) = some (r, w')) (hr : r ≠ .ok true) :
    w.Alike w' := by
  unfold query at h
  split at h
  · cases h
    exact ⟨rfl, rfl, rfl⟩
  · simp only [perform] at h
    split at h
    · cases h
      exact ⟨rfl, rfl, rfl⟩
    · cases h
      exact absurd rfl hr

theorem alike_of_deleteTokens {appId userId : Uuid} {e : StorageError}
    (h : query call choice w (.deleteTokensByAppAndUser appId userId) = some (.error e, w')) :
    w.Alike w' := by
  unfold query at h
  split at h
  · cases h
    exact ⟨rfl, rfl, rfl⟩
  · cases h

end

/-! ## What is still to be seen to -/

/-- A call is to delete the key, or to insert the token that refers to it. -/
def Due (duties : List (List String)) (key : String) : Prop := ∃ keys ∈ duties, key ∈ keys

/-- Each key has a token that refers to it, or some call has it to see to. -/
structure Tended (w : World) (duties : List (List String)) : Prop where
  referenced : w.Referenced
  keys : ∀ id key, w.apiKeys.rows.lookup id = some key → w.Refers id ∨ Due duties id

theorem Due.cons {duties : List (List String)} {keys : List String} {key : String}
    (h : Due duties key) : Due (keys :: duties) key := by
  obtain ⟨keys', hmem, hkey⟩ := h
  exact ⟨keys', List.mem_cons_of_mem _ hmem, hkey⟩

theorem Due.uncons {duties : List (List String)} {keys : List String} {key : String}
    (h : Due (keys :: duties) key) : key ∈ keys ∨ Due duties key := by
  obtain ⟨keys', hmem, hkey⟩ := h
  cases List.mem_cons.mp hmem with
  | inl heq => exact .inl (heq ▸ hkey)
  | inr hmem => exact .inr ⟨keys', hmem, hkey⟩

theorem Due.head {duties : List (List String)} {keys : List String} {key : String}
    (h : key ∈ keys) : Due (keys :: duties) key :=
  ⟨keys, List.mem_cons_self, h⟩

/-- A call that has had nothing to see to takes something on. -/
theorem Due.take {duties : List (List String)} {keys : List String} {key : String}
    (h : Due ([] :: duties) key) : Due (keys :: duties) key :=
  (h.uncons.resolve_left List.not_mem_nil).cons

theorem Due.perm {duties duties' : List (List String)} {key : String} (h : Due duties key)
    (hperm : duties.Perm duties') : Due duties' key := by
  obtain ⟨keys, hmem, hkey⟩ := h
  exact ⟨keys, hperm.mem_iff.mp hmem, hkey⟩

namespace Tended

variable {w w' : World} {call : Nat} {q : StoreCall} {duties duties' others : List (List String)}
  {keys : List String} {key : String}

theorem start (apps : AppTable) : Tended (World.start apps) [] where
  referenced id token h := by simp [World.start] at h
  keys id key h := by simp [World.start] at h

theorem perm (hperm : duties.Perm duties') (h : Tended w duties) : Tended w duties' where
  referenced := h.referenced
  keys id key hrow := (h.keys id key hrow).imp_right fun hdue => hdue.perm hperm

theorem join (h : Tended w duties) : Tended w (keys :: duties) where
  referenced := h.referenced
  keys id key hrow := (h.keys id key hrow).imp_right Due.cons

theorem alike (h : Tended w duties) (halike : w.Alike w') : Tended w' duties where
  referenced := by simpa only [World.Referenced, halike.secrets, halike.tokens] using h.referenced
  keys := by simpa only [World.Refers, halike.apiKeys, halike.tokens] using h.keys

/-- A call that makes neither keys nor tokens. The keys of the token rows that it takes away must
be gone, or be seen to from then on. -/
theorem change (h : Tended w duties) (hchange : Change call w q w') (hq : ¬ q.Grants)
    (hdue : ∀ key, Due duties key → Due duties' key)
    (htaken : ∀ id token, w.tokens.rows.lookup id = some token → w.Takes id token q →
      w.apiKeys.rows.lookup token.apiKeyId = none ∨ Due duties' token.apiKeyId) :
    Tended w' duties' where
  referenced := h.referenced.change hchange
  keys id key hrow := by
    have hold := (hchange.shrinks hq).apiKeys id key hrow
    obtain ⟨tokenId, token, htoken, rfl⟩ | hkey := h.keys id key hold
    · cases hchange.kept_or_taken h.referenced htoken with
      | inl hkept => exact .inl ⟨tokenId, token, hkept, rfl⟩
      | inr htakes =>
        refine .inr ((htaken tokenId token htoken htakes).resolve_left fun hnone => ?_)
        rw [hnone] at hold
        cases hold
    · exact .inr (hdue id hkey)

/-- The key is new, and the call that has made it sees to it. -/
theorem createKey {key : ApiKeyRow} {grant : Grant} {apiKeys : Register String IssuedKey}
    {id : String} (h : Tended w ([] :: others))
    (hinsert : w.apiKeys.Inserted id { key with grant := grant } apiKeys) :
    Tended ({ w with apiKeys := apiKeys }.note (.keyCreated call id)) ([id] :: others) where
  referenced := h.referenced
  keys id' key' hrow := by
    obtain ⟨rfl, rfl⟩ | hold := hinsert.rows_cases hrow
    · exact .inr (.head List.mem_cons_self)
    · exact (h.keys id' key' hold).imp_right Due.take

/-- The call that has the key to see to has inserted the token that refers to it. -/
theorem createToken {token : TokenRow} {grant : Grant} {secret : SecretRow}
    {tokens : Register Uuid IssuedToken} {id : Uuid} (h : Tended w ([token.apiKeyId] :: others))
    (hsecret : w.secrets.rows.lookup token.appSecretId = some secret)
    (hinsert : w.tokens.Inserted id { token with grant := grant, secret := secret } tokens) :
    Tended ({ w with tokens := tokens }.note (.tokenCreated call id)) ([] :: others) where
  referenced id' token' hrow := by
    obtain ⟨rfl, rfl⟩ | hold := hinsert.rows_cases hrow
    · exact ⟨secret, hsecret⟩
    · exact h.referenced id' token' hold
  keys id' key' hrow := by
    obtain ⟨tokenId, token', htoken, hid⟩ | hdue := h.keys id' key' hrow
    · exact .inl ⟨tokenId, token', hinsert.rows_of_rows htoken, hid⟩
    · cases hdue.uncons with
      | inl hkey => exact .inl ⟨id, _, hinsert.rows_self, (List.mem_singleton.mp hkey).symm⟩
      | inr hdue => exact .inr hdue.cons

/-- The key need not be seen to any more. -/
theorem discharge (h : Tended w ((key :: keys) :: others))
    (hkey : w.apiKeys.rows.lookup key = none ∨ w.Refers key) : Tended w (keys :: others) where
  referenced := h.referenced
  keys id row hrow := by
    obtain hrefers | hdue := h.keys id row hrow
    · exact .inl hrefers
    · cases hdue.uncons with
      | inr hdue => exact .inr hdue.cons
      | inl hmem =>
        cases List.mem_cons.mp hmem with
        | inr hmem => exact .inr (.head hmem)
        | inl heq =>
          subst heq
          refine .inl (hkey.resolve_left fun hnone => ?_)
          rw [hnone] at hrow
          cases hrow

end Tended

/-! ## The condition -/

/-- The keys of the token rows that the call takes away are there no more. -/
def World.KeysGone (w : World) (q : StoreCall) : Prop :=
  ∀ id token, w.tokens.rows.lookup id = some token → w.Takes id token q →
    w.apiKeys.rows.lookup token.apiKeyId = none

/-- What a step must find in order to leave no key behind. -/
def LeavesNoKey : Op → World → Choice → Prop
  -- a refresh takes the token, and deletes the key next
  | .store _ (.deleteToken _), _, _ => True
  -- a revocation takes the tokens that it has listed
  | .store call (.deleteTokensByAppAndUser appId userId), w, choice => choice.fails = false →
    ∀ keys, .tokensListed call appId userId keys ∈ w.log → ∀ id token,
      w.tokens.rows.lookup id = some token → w.ofAppAndUser appId userId token = true →
      w.apiKeys.rows.lookup token.apiKeyId = none ∨ token.apiKeyId ∈ keys
  -- a key is not deleted, which a token still refers to
  | .attempt _ (.deleteApiKey key), w, choice => choice.fails = true →
    w.apiKeys.rows.lookup key = none ∨ w.Refers key
  -- an app, a secret or a token row is deleted whose keys are gone
  | .store _ q, w, choice => choice.fails = false → w.KeysGone q
  | .attempt _ q, w, choice => choice.fails = false → w.KeysGone q
  | _, _, _ => True

def tidy : Regime Op World Choice Request Empty where
  call := LeavesNoKey
  spawn _ _ := True
  outside _ _ := True

theorem LeavesNoKey.keysGone {op : Op} {w : World} {choice : Choice} {call : Nat} {q : StoreCall}
    (h : LeavesNoKey op w choice) (hop : op.Authorizing) (hquery : op.query? = some (call, q))
    (hfails : choice.fails = false) : w.KeysGone q := by
  cases op with
  | store call' q' =>
    cases hquery
    cases q <;> first | exact h hfails | cases hop
  | attempt call' q' =>
    cases hquery
    cases q <;> first | exact h hfails | exact fun _ _ _ htakes => htakes.elim
  | _ => cases hquery

theorem Tended.step {op : Op} {w w' : World} {choice : Choice} {duties : List (List String)}
    (h : Tended w duties) (hop : op.Authorizing) (hallowed : LeavesNoKey op w choice)
    (hsteps : Steps choice w op w') : Tended w' duties := by
  cases hsteps with
  | change hquery hfails hchange =>
    refine h.change hchange (hop.ungranting.2 _ _ hquery) (fun _ hdue => hdue) ?_
    exact fun id token hrow htakes => .inl (hallowed.keysGone hop hquery hfails id token hrow htakes)
  | _ => exact h.alike ⟨rfl, rfl, rfl⟩

/-! ## The calls -/

section

variable [Sha256] [UrlSyntax]

def tending : Method growth tidy (List String) where
  inv := Tended
  perm := Tended.perm

variable {seen : World} {call : Nat}

theorem tending_keeps : tending.Keeps Op.Authorizing where
  keeps hop hinv hallowed hexec := Tended.step hinv hop hallowed (steps_of_exec hexec)

theorem tending_keeps_plain : tending.Keeps Op.Plain :=
  tending_keeps.mono fun _ => Op.Plain.authorizing

/-- The call has nothing to see to any more. -/
def Discharged {α : Type} (_ : World) (keys : List String) (_ : α) : Prop := keys = []

/-- The deletion of a key that the call has to see to, whether or not the store fails. -/
theorem discardKey_tends {α : Type} {Q : World → List String → α → Prop} {key : String}
    {keys : List String} {next : Unit → Handler α}
    (hnext : ∀ w, seen.Later w → tending.Plays Q (next ()) w keys) :
    tending.Plays Q (.call (.attempt call (.deleteApiKey key)) next) seen (key :: keys) := by
  intro s others choice r s' hseen hinv hallowed hexec
  have hexec : exec (.attempt call (.deleteApiKey key)) s choice = some ((), s') := hexec
  have hop : (Op.attempt call (.deleteApiKey key)).Authorizing := trivial
  have htended : Tended s' ((key :: keys) :: others) :=
    Tended.step hinv hop hallowed (steps_of_exec hexec)
  have hdone : s'.apiKeys.rows.lookup key = none ∨ s'.Refers key := by
    cases hfails : choice.fails with
    | false => exact .inl (of_discardKey hfails hexec)
    | true =>
      simp only [exec, query, hfails, if_pos, Option.map_some, Option.some.injEq,
        Prod.mk.injEq] at hexec
      obtain ⟨-, rfl⟩ := hexec
      exact hallowed hfails
  exact ⟨keys, htended.discharge hdone, hnext s' (hseen.trans (steps_of_exec hexec).later)⟩

theorem storeTokenPair_tends {keySecret refreshToken : String} {key : ApiKeyRow} {token : TokenRow}
    {grant : Grant} :
    tending.Plays Discharged
      (storeTokenPair call token.apiKeyId keySecret refreshToken key token grant) seen [] := by
  refine plays_awaitStore fun s others choice r s₁ hs hinv hallowed hexec => ?_
  by_cases hr : r = .ok true
  · obtain ⟨apiKeys, hinsert, rfl⟩ := of_createApiKey (hr ▸ hexec)
    refine ⟨[token.apiKeyId], hinv.createKey hinsert, fun e he => ?_, fun created hcreated => ?_⟩
    · rw [hr] at he
      cases he
    · rw [hr] at hcreated
      cases hcreated
      intro s₂ others' choice' (r' : Except StorageError Unit) s₃ hs₂ hinv₂ hallowed' hexec'
      cases r' with
      | ok _ =>
        obtain ⟨id, secret, tokens, hsecret, hinsert', rfl⟩ := of_createToken hexec'
        exact ⟨[], Tended.createToken hinv₂ hsecret hinsert', rfl⟩
      | error e =>
        -- the key is there without a token, until the call has deleted it
        have halike : s₂.Alike s₃ := alike_of_createToken hexec'
        exact ⟨_, hinv₂.alike halike, discardKey_tends fun _ _ => rfl⟩
  · refine ⟨[], hinv.alike (alike_of_createApiKey hexec hr), fun e _ => rfl,
      fun (created : Bool) hcreated => ?_⟩
    cases created with
    | true => exact absurd hcreated hr
    | false => exact rfl

theorem generateTokenPair_tends {secretId userId : Uuid} {audience : String} {grant : Grant} :
    tending.Plays Discharged (generateTokenPair call secretId userId audience grant) seen [] :=
  generateTokenPair_plays tending_keeps_plain (fun _ _ _ => rfl)
    fun _ _ _ _ _ _ _ _ => storeTokenPair_tends

theorem redeemCode_tends {args : ExchangeArgs} {id secretId : Uuid} {code : IssuedCode} :
    tending.Plays Discharged (redeemCode call args id code secretId) seen [] := by
  unfold redeemCode
  split
  · exact rfl
  · refine keeps_awaitStore tending_keeps_plain trivial (fun _ _ _ => rfl)
      fun s _ (deleted : Bool) s' _ _ => ?_
    cases deleted with
    | false => exact rfl
    | true => exact generateTokenPair_tends

/-- The key of the token that is taken is the one that is deleted next. -/
theorem rotateToken_tends {id : Uuid} {token : IssuedToken}
    (hissued : seen.tokens.issued.lookup id = some token) :
    tending.Plays Discharged (rotateToken call id token) seen [] := by
  refine plays_awaitStore fun s others choice r s₁ hs hinv _ hexec => ?_
  by_cases hr : r = .ok true
  · obtain ⟨⟨token', hrow⟩, rfl⟩ := of_deleteToken (hr ▸ hexec)
    have hsame := s.tokens.rows_issued _ _ hrow
    rw [hs.tokens.issued _ _ hissued] at hsame
    cases hsame
    have htended : Tended ({ s with tokens := s.tokens.erase id }.note (.tokenDeleted call id))
        ([token.apiKeyId] :: others) := by
      refine hinv.change (.deleteToken hrow) (fun h => h) (fun _ => Due.take)
        fun id' token' hrow' htakes => ?_
      obtain rfl : id = id' := htakes
      rw [hrow] at hrow'
      cases hrow'
      exact .inr (.head List.mem_cons_self)
    refine ⟨_, htended, fun e he => ?_, fun deleted hd => ?_⟩
    · rw [hr] at he
      cases he
    · rw [hr] at hd
      cases hd
      exact discardKey_tends fun _ _ => generateTokenPair_tends
  · refine ⟨[], hinv.alike (alike_of_deleteToken hexec hr), fun e _ => rfl,
      fun (deleted : Bool) hd => ?_⟩
    cases deleted with
    | true => exact absurd hd hr
    | false => exact rfl

theorem discardKeys_tends {α : Type} (a : α) (keys : List String) :
    tending.Plays Discharged (discardKeys call (.done a) keys) seen keys := by
  induction keys generalizing seen with
  | nil => exact rfl
  | cons key keys ih => exact discardKey_tends fun _ _ => ih

theorem revokeTokens_tends {appId userId : Uuid} :
    tending.Plays Discharged (revokeTokens call appId userId) seen [] := by
  refine keeps_awaitStore tending_keeps_plain trivial (fun _ _ _ => rfl)
    fun s _ (rows : List (Uuid × IssuedToken)) s₁ _ hexec => ?_
  obtain ⟨-, rfl⟩ := of_listTokens hexec
  refine plays_awaitStore fun s₂ others choice r s₃ hs₂ hinv hallowed hexec' => ?_
  have hlisted : .tokensListed call appId userId (rows.map (·.2.apiKeyId)) ∈ s₂.log :=
    hs₂.mem_log List.mem_cons_self
  cases r with
  | error e =>
    refine ⟨[], hinv.alike (alike_of_deleteTokens hexec'), fun e _ => rfl, fun count h => ?_⟩
    cases h
  | ok count =>
    have hfails : choice.fails = false := by
      cases hfails : choice.fails with
      | false => rfl
      | true => simp [query, hfails] at hexec'
    obtain rfl := of_deleteTokens hexec'
    have htended : Tended (s₂.withoutTokens appId userId)
        (rows.map (·.2.apiKeyId) :: others) := by
      have hchange : Change call s₂ (.deleteTokensByAppAndUser appId userId)
          (s₂.withoutTokens appId userId) := .deleteTokens _ _
      refine hinv.change hchange (fun h => h) (fun _ => Due.take) fun id token hrow htakes => ?_
      exact (hallowed hfails _ hlisted id token hrow htakes).imp_right Due.head
    refine ⟨_, htended, fun e h => ?_, fun count h => ?_⟩
    · cases h
    · exact discardKeys_tends _ _

theorem handle_tends {request : Request} :
    tending.Plays Discharged (handle call request) seen [] := by
  have hauthorizing : ∀ {p : Handler Reply}, p.Uses Op.Authorizing →
      tending.Plays Discharged p seen [] := fun hp => tending_keeps.uses hp fun _ _ _ => rfl
  cases request with
  | exchangeCode args =>
    refine plays_replyOk (Method.Plays.mono (Q := Discharged) ?_
      fun w _ r _ hr => ⟨fun _ _ => hr, fun _ _ => hr⟩)
    exact exchangeCode_plays tending_keeps_plain (fun _ _ _ => rfl)
      fun _ _ _ _ _ _ _ _ _ => redeemCode_tends
  | refreshToken args =>
    refine plays_replyOk (Method.Plays.mono (Q := Discharged) ?_
      fun w _ r _ hr => ⟨fun _ _ => hr, fun _ _ => hr⟩)
    exact refreshToken_plays tending_keeps_plain (fun _ _ _ => rfl)
      fun _ _ _ _ hissued _ => rotateToken_tends hissued
  | revokeTokens appId user =>
    exact plays_replyOk (revokeTokens_tends.mono fun w _ r _ hr => ⟨fun _ _ => hr, fun _ _ => hr⟩)
  | getAuthorize user params => exact hauthorizing (getOauth2Authorize_authorizing user params)
  | consent user form => exact hauthorizing (postOauth2AuthorizeConsent_authorizing user form)
  | postAuthorize user params => exact hauthorizing (postOauth2Authorize_authorizing user params)
  | _ =>
    refine hauthorizing (Calls.Uses.mono (handle_plain ?_) fun _ => Op.Plain.authorizing)
    trivial

/-- A call has seen to everything when it returns. -/
theorem tending_sound : tending.Sound Discharged where
  spawn s duties request hinv _ := by
    refine ⟨[], Tended.join hinv, plays_serve fun s₁ others choice _ hinv₁ _ _ => ?_⟩
    refine ⟨[], hinv₁.alike ⟨rfl, rfl, rfl⟩, handle_tends.mono fun seen' keys reply _ hkeys => ?_⟩
    intro t others' choice' _ hinv' _
    exact ⟨keys, hinv'.alike ⟨rfl, rfl, rfl⟩, hkeys⟩
  outside _ _ event := event.elim

/-! ## Every run -/

/-- In every run whose steps meet the condition: once no call is in progress, each key is the
access token of a token row. -/
theorem keys_have_tokens (apps : AppTable) (moves : List (Move Request Choice Empty))
    (hrun : Along provider.program.step tidy.Allows (idle apps) moves)
    (hdone : ∀ t ∈ (provider.program.run (idle apps) moves).tasks, ∃ a, t = .done a) (id : String)
    (key : IssuedKey) (hrow : (after apps moves).apiKeys.rows.lookup id = some key) :
    (after apps moves).Refers id := by
  obtain ⟨duties, hcast⟩ := (Method.Cast.start (Tended.start apps)).along tending_sound hrun
  have htended : Tended (after apps moves) (duties.map (·.2)) := hcast.inv
  refine (htended.keys id key hrow).resolve_right ?_
  rintro ⟨keys, hmem, hkey⟩
  obtain ⟨role, hrole, rfl⟩ := List.mem_map.mp hmem
  obtain ⟨a, hnone⟩ := hcast.ended hdone role hrole
  have hnone : role.2 = [] := hnone
  rw [hnone] at hkey
  cases hkey

end

/-! ## Runs on fixed inputs -/

theorem ended_of_test {tasks : List (Handler Unit)} (h : tasks.all Calls.isDone = true) :
    ∀ t ∈ tasks, ∃ a, t = .done a :=
  fun t ht => Calls.isDone_iff.mp (List.all_eq_true.mp h t ht)

/-- The calls that delete more than one row. -/
def StoreCall.cascades : StoreCall → Bool
  | deleteApp _ | deleteSecret _ | deleteTokensByAppAndUser _ _ => true
  | _ => false

/-- A test that is passed where rows are deleted one by one, each token by a refresh. -/
def rotatesOnly : Op → World → Choice → Bool
  | .store _ q, _, choice => !choice.fails && !q.cascades
  | .attempt _ (.deleteToken _), _, _ => false
  | .attempt _ q, _, choice => !choice.fails && !q.cascades
  | _, _, _ => true

theorem leavesNoKey_of_rotatesOnly {op : Op} {w : World} {choice : Choice}
    (h : rotatesOnly op w choice = true) : tidy.call op w choice := by
  cases op with
  | store call q =>
    cases q <;> first
      | trivial
      | exact fun _ _ _ _ htakes => htakes.elim
      | exact absurd h (by simp [rotatesOnly, StoreCall.cascades])
  | attempt call q =>
    cases q with
    | deleteApiKey id =>
      intro hfails
      exact absurd h (by simp [rotatesOnly, hfails])
    | _ => first
      | exact fun _ _ _ _ htakes => htakes.elim
      | exact absurd h (by simp [rotatesOnly, StoreCall.cascades])
  | _ => trivial

theorem refreshingRun_tended :
    Along (@provider utf8Digest anyUrl).program.step tidy.Allows (idle (oneApp true))
        (grantingRun ++ refreshingRun) ∧
      (∀ t ∈ ((@provider utf8Digest anyUrl).program.run (idle (oneApp true))
        (grantingRun ++ refreshingRun)).tasks, ∃ a, t = .done a) ∧
      ∃ id key, (exchangingWorld refreshingRun).apiKeys.rows.lookup id = some key ∧
        (exchangingWorld refreshingRun).Refers id := by
  have hchecks : Regime.checks (@provider utf8Digest anyUrl) rotatesOnly (idle (oneApp true))
      (grantingRun ++ refreshingRun) = true := by decide +kernel
  have hended : ((@provider utf8Digest anyUrl).program.run (idle (oneApp true))
      (grantingRun ++ refreshingRun)).tasks.all Calls.isDone = true := by decide +kernel
  have hkey : ((exchangingWorld refreshingRun).apiKeys.rows.lookup
      (uuidOf 5).toHyphenated).isSome = true := by decide +kernel
  have hrun : Along (@provider utf8Digest anyUrl).program.step tidy.Allows (idle (oneApp true))
      (grantingRun ++ refreshingRun) :=
    Regime.along_of_checks (fun _ _ => trivial) (fun _ _ => trivial)
      (fun _ _ _ => leavesNoKey_of_rotatesOnly) hchecks
  obtain ⟨key, hrow⟩ := Option.isSome_iff_exists.mp hkey
  refine ⟨hrun, ended_of_test hended, _, key, hrow, ?_⟩
  unfold exchangingWorld at hrow ⊢
  exact @keys_have_tokens utf8Digest anyUrl (oneApp true) (grantingRun ++ refreshingRun) hrun
    (ended_of_test hended) _ key hrow

/-- The app is deleted after it has got its tokens. -/
def deletedAppRun : List (Move Request Choice Empty) :=
  exchangingRun ++ .spawn (.deleteApp (uuidOf 1)) :: List.replicate 3 (.run 3 (choiceOf 5))

theorem deletedApp_leaves_key :
    (∀ t ∈ ((@provider utf8Digest anyUrl).program.run (idle (oneApp true))
        (grantingRun ++ deletedAppRun)).tasks, ∃ a, t = .done a) ∧
      ∃ id key, (exchangingWorld deletedAppRun).apiKeys.rows.lookup id = some key ∧
        key.loginType = .oauth2ProviderApp ∧ ¬ (exchangingWorld deletedAppRun).Refers id := by
  have hended : ((@provider utf8Digest anyUrl).program.run (idle (oneApp true))
      (grantingRun ++ deletedAppRun)).tasks.all Calls.isDone = true := by decide +kernel
  have hkey : ((exchangingWorld deletedAppRun).apiKeys.rows.lookup
      (uuidOf 4).toHyphenated).any (fun key => key.loginType = .oauth2ProviderApp) = true := by
    decide +kernel
  have hnone : ((exchangingWorld deletedAppRun).tokens.rows.selectFirst fun _ token =>
      token.apiKeyId = (uuidOf 4).toHyphenated).isNone = true := by decide +kernel
  obtain ⟨key, hrow, hlogin⟩ := (Option.any_eq_true _ _).mp hkey
  refine ⟨ended_of_test hended, _, key, hrow, of_decide_eq_true hlogin, ?_⟩
  rintro ⟨id, token, htoken, hid⟩
  exact not_selected (Option.isNone_iff_eq_none.mp hnone) htoken (decide_eq_true hid)

end Coderd.OAuth2
