import Coderd.OAuth2.Exchange
import Coderd.OAuth2.Walks

namespace Coderd.OAuth2

open Coderd.Foundation Coderd.Auth
open Coderd.CryptoKeys (OffsetDateTime)

/-! ## What the log says of revocations -/

/-- The app and the user of a grant. -/
def Grant.Of (grant : Grant) (appId userId : Uuid) : Prop :=
  grant.app = appId ∧ grant.user = userId

namespace World

variable (w : World)

/-- The call has listed the tokens that it is to revoke. -/
def Listed (call : Nat) (appId userId : Uuid) : Prop :=
  ∃ keys, .tokensListed call appId userId keys ∈ w.log

def Returned (call : Nat) : Prop := ∃ reply, .finished call reply ∈ w.log

/-- The call was a revocation and has been answered with `Ok`. -/
def Revoked (call : Nat) (appId userId : Uuid) : Prop :=
  ∃ at_ count, .began call (.revokeTokens appId userId) at_ ∈ w.log ∧
    .finished call (.revoked count) ∈ w.log

/-- The code was created after the call began. -/
def MadeAfter (call : Nat) (code : Uuid) : Prop :=
  ∃ row, w.codes.issued.lookup code = some row ∧ call < row.calls

/-- A revocation is under way that has listed the tokens. -/
def Open (appId userId : Uuid) : Prop :=
  ∃ call, w.Listed call appId userId ∧ ¬ w.Returned call

end World

/-- The call has deleted a code or a token. -/
def Event.SpentBy (e : Event) (call : Nat) : Prop :=
  (∃ id, e = .codeDeleted call id) ∨ ∃ id, e = .tokenDeleted call id

/-- Since the call has deleted a code or a token, a revocation has listed. -/
def World.ListedSince (w : World) (call : Nat) (appId userId : Uuid) : Prop :=
  ∃ newer e older, w.log = newer ++ e :: older ∧ e.SpentBy call ∧
    ∃ call' keys, .tokensListed call' appId userId keys ∈ newer

/-- What an answer of `revoke_tokens` shows. -/
def revokeContract : Contract where
  Holds call request _ reply w := ∀ appId userId count, request = .revokeTokens appId userId →
    reply = .revoked count → w.Listed call appId userId
  later h hlater appId userId count hrequest hreply := by
    obtain ⟨keys, hlisted⟩ := h appId userId count hrequest hreply
    exact ⟨keys, hlater.mem_log hlisted⟩

/-! ## What tokens refer to -/

/-- Every token row has its secret. -/
def World.Referenced (w : World) : Prop :=
  ∀ id token, w.tokens.rows.lookup id = some token →
    ∃ secret, w.secrets.rows.lookup token.appSecretId = some secret

namespace World.Referenced

variable {w w' : World}

/-- The cascade deletes the tokens of the secrets that it deletes. -/
theorem cascade {secrets : Register Uuid SecretRow} : (w.cascade secrets).Referenced := by
  intro id token hrow
  obtain ⟨-, hsome⟩ := Register.lookup_retain_iff.mp hrow
  exact Option.isSome_iff_exists.mp hsome

theorem change {call : Nat} {q : StoreCall} (h : w.Referenced) (hchange : Change call w q w') :
    w'.Referenced := by
  cases hchange with
  | deleteApp => exact cascade
  | deleteSecret => exact cascade
  | createSecret hinsert =>
    intro id token hrow
    obtain ⟨secret, hsecret⟩ := h id token hrow
    exact ⟨secret, hinsert.rows_of_rows hsecret⟩
  | createToken hsecret _ hinsert =>
    intro id token hrow
    obtain ⟨rfl, rfl⟩ | hrow := hinsert.rows_cases hrow
    · exact ⟨_, hsecret⟩
    · exact h id token hrow
  | deleteToken =>
    intro id token hrow
    exact h id token (Register.lookup_erase_iff.mp hrow).2
  | deleteTokens =>
    intro id token hrow
    exact h id token (Register.lookup_retain_iff.mp hrow).1
  | _ => exact h

theorem step {choice : Choice} {op : Op} (h : w.Referenced) (hsteps : Steps choice w op w') :
    w'.Referenced := by
  cases hsteps with
  | change _ _ hchange => exact h.change hchange
  | _ => exact h

end World.Referenced

/-! ## Who is doing what -/

/-- What a call is at: nothing to be told, making the pair of a grant whose code or token it has
deleted when the log was `since`, or revoking, with the keys it still has to delete; `sweeping`
comes after the token rows are gone. -/
inductive Stage where
  | idle
  | holding (grant : Grant) (since : List Event)
  | revoking (appId userId : Uuid) (keys : List String)
  | sweeping (appId userId : Uuid) (keys : List String)

/-- The revocations that had listed by then had returned, and those answered with `Ok` began
before the code of the grant was made. -/
structure World.Holding (w : World) (call : Nat) (grant : Grant) (since : List Event) : Prop where
  suffix : since <:+ w.log
  spent : ∃ e older, since = e :: older ∧ e.SpentBy call
  returned : ∀ call' keys, .tokensListed call' grant.app grant.user keys ∈ since →
    ∃ reply, .finished call' reply ∈ since
  revoked : ∀ call' at_ count, .finished call' (.revoked count) ∈ since →
    .began call' (.revokeTokens grant.app grant.user) at_ ∈ w.log → w.MadeAfter call' grant.code

/-- The keys of the app and the user are among those that the call still has to delete. -/
structure World.Revoking (w : World) (call : Nat) (appId userId : Uuid) (keys : List String) :
    Prop where
  listed : w.Listed call appId userId
  keys : ∀ id key, w.apiKeys.rows.lookup id = some key → key.grant.Of appId userId → id ∈ keys

def World.WithoutTokens (w : World) (appId userId : Uuid) : Prop :=
  ∀ id token, w.tokens.rows.lookup id = some token → ¬ token.grant.Of appId userId

def Stage.Valid (w : World) (call : Nat) : Stage → Prop
  | idle => True
  | holding grant since => w.Holding call grant since
  | revoking appId userId keys => w.Revoking call appId userId keys
  | sweeping appId userId keys =>
    w.Revoking call appId userId keys ∧ w.WithoutTokens appId userId

/-- A task with the number of its call, between the first and the last moment of it. -/
abbrev Running := Option (Nat × Stage)

def Running.Valid (w : World) : Running → Prop
  | none => True
  | some (call, stage) => call < w.calls ∧ ¬ w.Returned call ∧ stage.Valid w call

def Running.Apart (o o' : Running) : Prop :=
  ∀ call stage call' stage', o = some (call, stage) → o' = some (call', stage') → call ≠ call'

theorem Running.Apart.symm {o o' : Running} (h : Running.Apart o o') : Running.Apart o' o :=
  fun _ _ _ _ ho ho' => Ne.symm (h _ _ _ _ ho' ho)

/-- What a revocation that was answered with `Ok` has taken away does not come back. -/
structure Final (w : World) : Prop where
  recorded : Recorded w
  answered : revokeContract.Kept w
  referenced : w.Referenced
  once : ∀ call reply reply', .finished call reply ∈ w.log → .finished call reply' ∈ w.log →
    reply = reply'
  keys : ∀ id key call, w.apiKeys.rows.lookup id = some key →
    w.Revoked call key.grant.app key.grant.user → w.MadeAfter call key.grant.code
  tokens : ∀ id token call, w.tokens.rows.lookup id = some token →
    w.Revoked call token.grant.app token.grant.user → w.MadeAfter call token.grant.code
  of_grant : ∀ id token, w.tokens.issued.lookup id = some token →
    token.userId = token.grant.user ∧ token.secret.appId = token.grant.app ∧
      w.secrets.issued.lookup token.appSecretId = some token.secret
  last : ∀ call count appId userId at_, w.log.head? = some (.finished call (.revoked count)) →
    .began call (.revokeTokens appId userId) at_ ∈ w.log →
    ∀ id key, w.apiKeys.rows.lookup id = some key → ¬ key.grant.Of appId userId

abbrev Finality : World → List Running → Prop := Ensemble Final Running.Valid Running.Apart

/-! ## Steps that take away only -/

section

variable {w w' : World} {call : Nat} {appId userId code : Uuid}

theorem World.LogsInner.returned (h : w.LogsInner w') (hreturned : w'.Returned call) :
    w.Returned call := by
  obtain ⟨reply, hfinished⟩ := hreturned
  exact ⟨reply, h.finished hfinished⟩

theorem World.LogsInner.revoked (h : w.LogsInner w') (hrevoked : w'.Revoked call appId userId) :
    w.Revoked call appId userId := by
  obtain ⟨at_, count, hbegan, hfinished⟩ := hrevoked
  exact ⟨at_, count, h.began hbegan, h.finished hfinished⟩

theorem World.MadeAfter.later (h : w.MadeAfter call code) (hlater : w.Later w') :
    w'.MadeAfter call code := by
  obtain ⟨row, hrow, hlt⟩ := h
  exact ⟨row, hlater.codes.issued _ _ hrow, hlt⟩

theorem World.Listed.later (h : w.Listed call appId userId) (hlater : w.Later w') :
    w'.Listed call appId userId := by
  obtain ⟨keys, hlisted⟩ := h
  exact ⟨keys, hlater.mem_log hlisted⟩

theorem World.Holding.keep {grant : Grant} {since : List Event}
    (h : w.Holding call grant since) (hlater : w.Later w')
    (hbegan : ∀ call' at_, .began call' (.revokeTokens grant.app grant.user) at_ ∈ w'.log →
      (∃ reply, .finished call' reply ∈ w.log) →
      .began call' (.revokeTokens grant.app grant.user) at_ ∈ w.log) :
    w'.Holding call grant since where
  suffix := h.suffix.trans hlater.log
  spent := h.spent
  returned := h.returned
  revoked call' at_ count hfinished hmem := by
    have hmem := hbegan call' at_ hmem ⟨_, h.suffix.mem hfinished⟩
    exact (h.revoked call' at_ count hfinished hmem).later hlater

/-- Where the key and token rows stay as they are. -/
theorem Stage.Valid.same_rows {stage : Stage} (h : stage.Valid w call) (hlater : w.Later w')
    (hkeys : w'.apiKeys = w.apiKeys) (htokens : w'.tokens = w.tokens)
    (hbegan : ∀ call' request at_, .began call' request at_ ∈ w'.log →
      (∃ reply, .finished call' reply ∈ w.log) → .began call' request at_ ∈ w.log) :
    stage.Valid w' call := by
  cases stage with
  | idle => trivial
  | holding grant since => exact World.Holding.keep h hlater fun call' => hbegan call' _
  | revoking appId userId keys => exact ⟨World.Listed.later h.1 hlater, hkeys ▸ h.2⟩
  | sweeping appId userId keys =>
    refine ⟨⟨World.Listed.later h.1.1 hlater, hkeys ▸ h.1.2⟩, fun id token hrow => ?_⟩
    exact h.2 id token (htokens ▸ hrow)

/-- Where no call begins or ends, and neither a key nor a token appears that a revocation under way
would have to see. -/
theorem Running.Valid.keep {o : Running} (h : Running.Valid w o) (hlater : w.Later w')
    (hlog : w.LogsInner w')
    (hkeys : ∀ call appId userId keys, w.Revoking call appId userId keys → ¬ w.Returned call →
      ∀ id key, w'.apiKeys.rows.lookup id = some key → key.grant.Of appId userId → id ∈ keys)
    (htokens : ∀ call appId userId keys, w.Revoking call appId userId keys → ¬ w.Returned call →
      w.WithoutTokens appId userId → w'.WithoutTokens appId userId) : Running.Valid w' o := by
  cases o with
  | none => trivial
  | some running =>
    obtain ⟨call, stage⟩ := running
    obtain ⟨hlt, hnot, hvalid⟩ := h
    refine ⟨hlt.trans_le hlater.calls, fun hreturned => hnot (hlog.returned hreturned), ?_⟩
    have hrevoking : ∀ {appId userId keys}, w.Revoking call appId userId keys →
        w'.Revoking call appId userId keys := fun h =>
      ⟨h.listed.later hlater, hkeys call _ _ _ h hnot⟩
    cases stage with
    | idle => trivial
    | holding grant since =>
      exact World.Holding.keep hvalid hlater fun _ _ hbegan _ => hlog.began hbegan
    | revoking appId userId keys => exact hrevoking hvalid
    | sweeping appId userId keys =>
      exact ⟨hrevoking hvalid.1, htokens call appId userId keys hvalid.1 hnot hvalid.2⟩

theorem Running.Valid.shrink {o : Running} (h : Running.Valid w o) (hs : w.Shrinks w')
    (hlog : w.LogsInner w') : Running.Valid w' o :=
  h.keep hs.later hlog
    (fun _ _ _ _ hrevoking _ id key hrow => hrevoking.keys id key (hs.apiKeys id key hrow))
    fun _ _ _ _ _ _ hwithout id token hrow => hwithout id token (hs.tokens id token hrow)

theorem Final.shrink (h : Final w) (hs : w.Shrinks w') (hlog : w.LogsInner w')
    (hrecorded : Recorded w') (hreferenced : w'.Referenced) : Final w' where
  recorded := hrecorded
  answered := h.answered.inner hs.later hlog
  referenced := hreferenced
  once call reply reply' hfinished hfinished' :=
    h.once call reply reply' (hlog.finished hfinished) (hlog.finished hfinished')
  keys id key call hrow hrevoked :=
    (h.keys id key call (hs.apiKeys _ _ hrow) (hlog.revoked hrevoked)).later hs.later
  tokens id token call hrow hrevoked :=
    (h.tokens id token call (hs.tokens _ _ hrow) (hlog.revoked hrevoked)).later hs.later
  of_grant id token hissued := by
    obtain ⟨huser, happ, hsecret⟩ := h.of_grant id token (hs.issued ▸ hissued)
    exact ⟨huser, happ, hs.later.secrets.issued _ _ hsecret⟩
  last call count appId userId at_ hhead hbegan id key hrow := by
    obtain heq | ⟨e, heq, hinner⟩ := hlog
    · rw [heq] at hhead hbegan
      exact h.last call count appId userId at_ hhead hbegan id key (hs.apiKeys _ _ hrow)
    · rw [heq] at hhead
      cases hhead
      exact hinner.elim

end

/-! ## The steps -/

section

variable {w w' : World} {roles others : List Running} {call : Nat} {grant : Grant}
  {since : List Event} {stage : Stage} {appId userId : Uuid}

/-- All that a revocation has listed, the call has known when it took its code or token. -/
theorem World.Holding.listed (h : w.Holding call grant since)
    (hsince : ¬ w.ListedSince call grant.app grant.user) {call' : Nat} {keys : List String}
    (hlisted : .tokensListed call' grant.app grant.user keys ∈ w.log) :
    .tokensListed call' grant.app grant.user keys ∈ since := by
  obtain ⟨newer, hlog⟩ := h.suffix
  obtain ⟨e, older, hsame, hspent⟩ := h.spent
  rw [← hlog] at hlisted
  refine (List.mem_append.mp hlisted).resolve_left fun hnewer => hsince ?_
  exact ⟨newer, e, older, by rw [← hlog, hsame], hspent, call', keys, hnewer⟩

/-- The code of the grant is newer than every revocation that is over. -/
theorem Final.after_of_holding (hfinal : Final w) (h : w.Holding call grant since)
    (hsince : ¬ w.ListedSince call grant.app grant.user) {call' : Nat}
    (hrevoked : w.Revoked call' grant.app grant.user) : w.MadeAfter call' grant.code := by
  obtain ⟨at_, count, hbegan, hfinished⟩ := hrevoked
  obtain ⟨keys, hlisted⟩ := hfinal.answered.holds call' _ at_ _ hbegan hfinished _ _ count rfl rfl
  obtain ⟨reply, hreturned⟩ := h.returned call' keys (h.listed hsince hlisted)
  have hreply := hfinal.once call' _ _ hfinished (h.suffix.mem hreturned)
  subst hreply
  exact h.revoked call' at_ count hreturned hbegan

/-- No revocation of its app and user is under way. -/
theorem World.Holding.not_of (h : w.Holding call grant since)
    (hsince : ¬ w.ListedSince call grant.app grant.user) {call' : Nat} {keys : List String}
    (hrevoking : w.Revoking call' appId userId keys) (hnot : ¬ w.Returned call') :
    ¬ grant.Of appId userId := by
  rintro ⟨rfl, rfl⟩
  obtain ⟨keys', hlisted⟩ := hrevoking.listed
  obtain ⟨reply, hreturned⟩ := h.returned call' keys' (h.listed hsince hlisted)
  exact hnot ⟨reply, h.suffix.mem hreturned⟩

/-- The moment at which a call takes a code or a token. -/
theorem World.holding_of_spent {e : Event} (hlog : w'.log = e :: w.log) (hspent : e.SpentBy call)
    (hopen : ¬ w.Open grant.app grant.user)
    (hafter : ∀ call', w.Revoked call' grant.app grant.user → w'.MadeAfter call' grant.code) :
    w'.Holding call grant w'.log where
  suffix := List.suffix_rfl
  spent := ⟨e, w.log, hlog, hspent⟩
  returned call' keys hlisted := by
    have hold : .tokensListed call' grant.app grant.user keys ∈ w.log := by
      rw [hlog] at hlisted
      refine (List.mem_cons.mp hlisted).resolve_left ?_
      rintro rfl
      obtain ⟨id, heq⟩ | ⟨id, heq⟩ := hspent <;> cases heq
    by_contra hnone
    refine hopen ⟨call', ⟨keys, hold⟩, ?_⟩
    rintro ⟨reply, hfinished⟩
    exact hnone ⟨reply, hlog ▸ List.mem_cons_of_mem e hfinished⟩
  revoked call' at_ count hfinished hbegan := by
    rw [hlog] at hfinished hbegan
    refine hafter call' ⟨at_, count, ?_, ?_⟩
    · refine (List.mem_cons.mp hbegan).resolve_left ?_
      rintro rfl
      obtain ⟨id, heq⟩ | ⟨id, heq⟩ := hspent <;> cases heq
    · refine (List.mem_cons.mp hfinished).resolve_left ?_
      rintro rfl
      obtain ⟨id, heq⟩ | ⟨id, heq⟩ := hspent <;> cases heq

namespace Finality

theorem start (apps : AppTable) : Finality (World.start apps) [] := by
  refine ⟨⟨.start apps, .start apps, ?_, ?_, ?_, ?_, ?_, ?_⟩, by simp, List.Pairwise.nil⟩ <;>
    simp [World.start, World.Referenced]

theorem shrink {choice : Choice} {op : Op} (h : Finality w roles) (hsteps : Steps choice w op w')
    (hs : w.Shrinks w') (hlog : w.LogsInner w') : Finality w' roles where
  shared := h.shared.shrink hs hlog (h.shared.recorded.step hsteps)
    (h.shared.referenced.step hsteps)
  valid o ho := (h.valid o ho).shrink hs hlog
  apart := h.apart

theorem step_ungranting {choice : Choice} {op : Op} (h : Finality w roles) (hop : op.Ungranting)
    (hsteps : Steps choice w op w') : Finality w' roles :=
  h.shrink hsteps (hsteps.shrinks hop.2) (hop.1.logsInner hsteps)

/-- The call goes on to another stage. -/
theorem change_stage {stage' : Stage} (h : Finality w (some (call, stage) :: others))
    (hvalid : stage'.Valid w call) : Finality w (some (call, stage') :: others) := by
  obtain ⟨hlt, hnot, -⟩ := h.own
  refine h.become ⟨hlt, hnot, hvalid⟩ fun u hu => ?_
  intro c st c' st' ho hu'
  cases ho
  exact hu call stage c' st' rfl hu'

/-- The call has deleted a code that is newer than all revocations. -/
theorem takeCode {id : Uuid} {code : IssuedCode} (hrow : w.codes.rows.lookup id = some code)
    (hopen : ¬ w.Open code.appId code.userId)
    (hafter : ∀ call', w.Revoked call' code.appId code.userId → call' < code.calls)
    (hstep : Finality ({ w with codes := w.codes.erase id }.note (.codeDeleted call id))
      (some (call, .idle) :: others)) :
    Finality ({ w with codes := w.codes.erase id }.note (.codeDeleted call id))
      (some (call, .holding ⟨id, code.appId, code.userId⟩ (.codeDeleted call id :: w.log)) ::
        others) := by
  refine hstep.change_stage (World.holding_of_spent rfl (.inl ⟨id, rfl⟩) hopen fun c hrevoked => ?_)
  exact ⟨code, w.codes.rows_issued _ _ hrow, hafter c hrevoked⟩

/-- The call has deleted a refresh token's row. -/
theorem takeToken {id : Uuid} {token : IssuedToken} (hrow : w.tokens.rows.lookup id = some token)
    (hopen : ¬ w.Open token.grant.app token.grant.user)
    (h : Finality w (some (call, .idle) :: others))
    (hstep : Finality ({ w with tokens := w.tokens.erase id }.note (.tokenDeleted call id))
      (some (call, .idle) :: others)) :
    Finality ({ w with tokens := w.tokens.erase id }.note (.tokenDeleted call id))
      (some (call, .holding token.grant (.tokenDeleted call id :: w.log)) :: others) := by
  refine hstep.change_stage (World.holding_of_spent rfl (.inr ⟨id, rfl⟩) hopen fun c hrevoked => ?_)
  exact h.shared.tokens id token c hrow hrevoked

theorem addKey {id : String} {key : ApiKeyRow} {apiKeys : Register String IssuedKey}
    (h : Finality w (some (call, .holding grant since) :: others))
    (hsince : ¬ w.ListedSince call grant.app grant.user)
    (hinsert : w.apiKeys.Inserted id { key with grant := grant } apiKeys)
    (hchange : Change call w (.createApiKey id key grant)
      ({ w with apiKeys := apiKeys }.note (.keyCreated call id))) :
    Finality ({ w with apiKeys := apiKeys }.note (.keyCreated call id))
      (some (call, .holding grant since) :: others) := by
  have hfinal := h.shared
  have hholding : w.Holding call grant since := h.own.2.2
  have hlater := hchange.later
  have hlog : w.LogsInner _ := hchange.logsInner
  have hkeep : ∀ o ∈ some (call, .holding grant since) :: others, Running.Valid _ o := fun o ho =>
    (h.valid o ho).keep hlater hlog
      (fun call' appId userId keys hrevoking hnot id' key' hrow hof => by
        obtain ⟨rfl, rfl⟩ | hrow := hinsert.rows_cases hrow
        · exact absurd hof (hholding.not_of hsince hrevoking hnot)
        · exact hrevoking.keys id' key' hrow hof)
      fun _ _ _ _ _ _ hwithout => hwithout
  refine ⟨⟨hfinal.recorded.change hchange, hfinal.answered.inner hlater hlog,
    hfinal.referenced.change hchange, ?_, ?_, ?_, hfinal.of_grant, ?_⟩, hkeep, h.apart⟩
  · intro c reply reply' hfinished hfinished'
    exact hfinal.once c reply reply' (hlog.finished hfinished) (hlog.finished hfinished')
  · intro id' key' c hrow hrevoked
    obtain ⟨rfl, rfl⟩ | hrow := hinsert.rows_cases hrow
    · exact (hfinal.after_of_holding hholding hsince (hlog.revoked hrevoked)).later hlater
    · exact (hfinal.keys id' key' c hrow (hlog.revoked hrevoked)).later hlater
  · intro id' token c hrow hrevoked
    exact (hfinal.tokens id' token c hrow (hlog.revoked hrevoked)).later hlater
  · intro c count a u at_ hhead
    cases hhead

theorem addToken {tokenId : Uuid} {token : TokenRow} {secret : SecretRow}
    {tokens : Register Uuid IssuedToken}
    (h : Finality w (some (call, .holding grant since) :: others))
    (hsince : ¬ w.ListedSince call grant.app grant.user)
    (hinsert : w.tokens.Inserted tokenId { token with grant := grant, secret := secret } tokens)
    (hchange : Change call w (.createToken token grant)
      ({ w with tokens := tokens }.note (.tokenCreated call tokenId)))
    (huser : token.userId = grant.user) (happ : secret.appId = grant.app)
    (hsecret : w.secrets.rows.lookup token.appSecretId = some secret) :
    Finality ({ w with tokens := tokens }.note (.tokenCreated call tokenId))
      (some (call, .holding grant since) :: others) := by
  have hfinal := h.shared
  have hholding : w.Holding call grant since := h.own.2.2
  have hlater := hchange.later
  have hlog : w.LogsInner _ := hchange.logsInner
  have hkeep : ∀ o ∈ some (call, .holding grant since) :: others, Running.Valid _ o := fun o ho =>
    (h.valid o ho).keep hlater hlog (fun _ _ _ _ hrevoking _ => hrevoking.keys)
      fun call' appId userId keys hrevoking hnot hwithout id' token' hrow => by
        obtain ⟨rfl, rfl⟩ | hrow := hinsert.rows_cases hrow
        · exact hholding.not_of hsince hrevoking hnot
        · exact hwithout id' token' hrow
  refine ⟨⟨hfinal.recorded.change hchange, hfinal.answered.inner hlater hlog,
    hfinal.referenced.change hchange, ?_, ?_, ?_, ?_, ?_⟩, hkeep, h.apart⟩
  · intro c reply reply' hfinished hfinished'
    exact hfinal.once c reply reply' (hlog.finished hfinished) (hlog.finished hfinished')
  · intro id' key' c hrow hrevoked
    exact (hfinal.keys id' key' c hrow (hlog.revoked hrevoked)).later hlater
  · intro id' token' c hrow hrevoked
    obtain ⟨rfl, rfl⟩ | hrow := hinsert.rows_cases hrow
    · exact (hfinal.after_of_holding hholding hsince (hlog.revoked hrevoked)).later hlater
    · exact (hfinal.tokens id' token' c hrow (hlog.revoked hrevoked)).later hlater
  · intro id' token' hissued
    obtain ⟨rfl, rfl⟩ | hissued := hinsert.issued_cases hissued
    · exact ⟨huser, happ, w.secrets.rows_issued _ _ hsecret⟩
    · exact hfinal.of_grant id' token' hissued
  · intro c count a u at_ hhead
    cases hhead

/-- An insert of a key, whatever its response is. -/
theorem tryKey {choice : Choice} {id : String} {key : ApiKeyRow}
    (h : Finality w (some (call, .holding grant since) :: others))
    (hsince : ¬ w.ListedSince call grant.app grant.user)
    (hsteps : Steps choice w (.store call (.createApiKey id key grant)) w') :
    Finality w' (some (call, .holding grant since) :: others) := by
  have hinner : (Op.store call (.createApiKey id key grant)).Inner := .inr trivial
  have hlog := hinner.logsInner hsteps
  cases hsteps with
  | quiet => exact h
  | @failed _ call' q hquery hfails =>
    exact h.shrink (.failed hquery hfails)
      ⟨w.later_note _, fun _ _ h => h, fun _ _ h => h, rfl⟩ hlog
  | change hquery _ hchange =>
    cases hquery
    cases hchange with
    | same => exact h
    | createApiKey hinsert => exact h.addKey hsince hinsert (.createApiKey hinsert)

/-- An insert of a token, whatever its response is. -/
theorem tryToken {choice : Choice} {token : TokenRow} {secret : SecretRow}
    (h : Finality w (some (call, .holding grant since) :: others))
    (hsince : ¬ w.ListedSince call grant.app grant.user) (huser : token.userId = grant.user)
    (hissued : w.secrets.issued.lookup token.appSecretId = some secret)
    (happ : secret.appId = grant.app)
    (hsteps : Steps choice w (.store call (.createToken token grant)) w') :
    Finality w' (some (call, .holding grant since) :: others) := by
  have hinner : (Op.store call (.createToken token grant)).Inner := .inr trivial
  have hlog := hinner.logsInner hsteps
  cases hsteps with
  | quiet => exact h
  | @failed _ call' q hquery hfails =>
    exact h.shrink (.failed hquery hfails)
      ⟨w.later_note _, fun _ _ h => h, fun _ _ h => h, rfl⟩ hlog
  | change hquery _ hchange =>
    cases hquery
    cases hchange with
    | same => exact h
    | createToken hsecret hfresh hinsert =>
      have hsame := w.secrets.rows_issued _ _ hsecret
      rw [hissued] at hsame
      cases hsame
      exact h.addToken hsince hinsert (.createToken hsecret hfresh hinsert) huser happ hsecret

/-- A revocation lists, where every key of the app and the user is that of a token row. -/
theorem startRevoking
    (hsettled : ∀ id key, w.apiKeys.rows.lookup id = some key → key.grant.Of appId userId →
      ∃ tokenId token, w.tokens.rows.lookup tokenId = some token ∧ token.apiKeyId = id ∧
        w.ofAppAndUser appId userId token = true)
    {rows : List (Uuid × IssuedToken)}
    (hrows : rows = w.tokens.rows.selectAll fun _ token => w.ofAppAndUser appId userId token)
    (hstep : Finality (w.note (.tokensListed call appId userId (rows.map (·.2.apiKeyId))))
      (some (call, .idle) :: others)) :
    Finality (w.note (.tokensListed call appId userId (rows.map (·.2.apiKeyId))))
      (some (call, .revoking appId userId (rows.map (·.2.apiKeyId))) :: others) := by
  refine hstep.change_stage ⟨⟨_, List.mem_cons_self⟩, fun id key hrow hof => ?_⟩
  obtain ⟨tokenId, token, htoken, rfl, hselected⟩ := hsettled id key hrow hof
  have hmem : (tokenId, token) ∈ rows := by
    rw [hrows]
    exact HashMap.mem_selectAll.mpr ⟨htoken, hselected⟩
  exact List.mem_map.mpr ⟨_, hmem, rfl⟩

/-- The token rows of the app and the user are deleted. -/
theorem sweep {keys : List String}
    (h : Finality w (some (call, .revoking appId userId keys) :: others))
    (hstep : Finality (w.withoutTokens appId userId)
      (some (call, .revoking appId userId keys) :: others)) :
    Finality (w.withoutTokens appId userId)
      (some (call, .sweeping appId userId keys) :: others) := by
  refine hstep.change_stage ⟨hstep.own.2.2, fun id token hrow hof => ?_⟩
  obtain ⟨hrow, hkept⟩ := Register.lookup_retain_iff.mp hrow
  obtain ⟨huser, happ, hsecret⟩ := h.shared.of_grant id token (w.tokens.rows_issued _ _ hrow)
  obtain ⟨secret, hsecretRow⟩ := h.shared.referenced id token hrow
  have hsame := w.secrets.rows_issued _ _ hsecretRow
  rw [hsecret] at hsame
  cases hsame
  have hselected : w.ofAppAndUser appId userId token = true := by
    simp [World.ofAppAndUser, huser, hof.2, hsecretRow, happ, hof.1]
  rw [hselected] at hkept
  cases hkept

/-- One more of the listed keys is gone. -/
theorem dropKey {key : String} {keys : List String}
    (h : Finality w (some (call, .sweeping appId userId (key :: keys)) :: others))
    (hnone : w.apiKeys.rows.lookup key = none) :
    Finality w (some (call, .sweeping appId userId keys) :: others) := by
  obtain ⟨hrevoking, hwithout⟩ : w.Revoking call appId userId (key :: keys) ∧ _ := h.own.2.2
  refine h.change_stage ⟨⟨hrevoking.listed, fun id row hrow hof => ?_⟩, hwithout⟩
  refine (List.mem_cons.mp (hrevoking.keys id row hrow hof)).resolve_left ?_
  rintro rfl
  rw [hnone] at hrow
  cases hrow

theorem begin {choice : Choice} {request : Request} (h : Finality w (none :: others))
    (hnow : w.clock ≤ choice.now) :
    Finality (w.begun request choice.now) (some (w.calls, .idle) :: others) := by
  have hfinal := h.shared
  have hsteps : Steps choice w (.begin request) _ := .begin request hnow
  have hlater := hsteps.later
  have hfinished : ∀ {c reply}, .finished c reply ∈ (w.begun request choice.now).log →
      .finished c reply ∈ w.log :=
    fun hmem => (List.mem_cons.mp hmem).resolve_left fun heq => by cases heq
  -- a call that has been answered is not the one that begins
  have hbegan : ∀ {c request' at_}, .began c request' at_ ∈ (w.begun request choice.now).log →
      (∃ reply, .finished c reply ∈ w.log) → .began c request' at_ ∈ w.log := by
    rintro c request' at_ hmem ⟨reply, hreply⟩
    refine (List.mem_cons.mp hmem).resolve_left fun heq => ?_
    cases heq
    exact Nat.lt_irrefl _ (hfinal.answered.finished_lt _ _ hreply)
  have hrevoked : ∀ {c a u}, (w.begun request choice.now).Revoked c a u → w.Revoked c a u := by
    rintro c a u ⟨at_, count, hb, hf⟩
    exact ⟨at_, count, hbegan hb ⟨_, hfinished hf⟩, hfinished hf⟩
  refine h.step ⟨hfinal.recorded.step hsteps, hfinal.answered.begin hlater, hfinal.referenced,
    ?_, ?_, ?_, hfinal.of_grant, ?_⟩ ⟨Nat.lt_succ_self _, ?_, trivial⟩ ?_
  · intro c reply reply' hf hf'
    exact hfinal.once c reply reply' (hfinished hf) (hfinished hf')
  · intro id key c hrow hrev
    exact (hfinal.keys id key c hrow (hrevoked hrev)).later hlater
  · intro id token c hrow hrev
    exact (hfinal.tokens id token c hrow (hrevoked hrev)).later hlater
  · intro c count a u at_ hhead
    cases hhead
  · rintro ⟨reply, hf⟩
    exact Nat.lt_irrefl _ (hfinal.answered.finished_lt _ _ (hfinished hf))
  · intro u hu hvalid _
    cases u with
    | none => exact ⟨trivial, fun _ _ _ _ _ hu' => by cases hu'⟩
    | some running =>
      obtain ⟨c, st⟩ := running
      obtain ⟨hlt, hnot, hst⟩ := hvalid
      refine ⟨⟨Nat.lt_succ_of_lt hlt, ?_, hst.same_rows hlater rfl rfl fun _ _ _ => hbegan⟩, ?_⟩
      · rintro ⟨reply, hf⟩
        exact hnot ⟨reply, hfinished hf⟩
      · intro c₁ st₁ c₂ st₂ ho₁ ho₂
        cases ho₁
        cases ho₂
        exact Nat.ne_of_gt hlt

/-- The last moment of a call. A revocation that is answered with `Ok` has nothing left to
delete. -/
theorem finish {request : Request} {at_ : OffsetDateTime} {reply : Reply}
    (h : Finality w (some (call, stage) :: others)) (hbegan : .began call request at_ ∈ w.log)
    (hrevoked : ∀ appId userId count, request = .revokeTokens appId userId →
      reply = .revoked count → stage = .sweeping appId userId []) :
    Finality (w.note (.finished call reply)) (none :: others) := by
  have hfinal := h.shared
  obtain ⟨hlt, hnot, hvalid⟩ := h.own
  have hsteps : Steps (choiceOf 0) w (.finish call reply) _ := .finish call reply
  have hlater := hsteps.later
  have hold : ∀ {c request' at_'}, .began c request' at_' ∈ (w.note (.finished call reply)).log →
      .began c request' at_' ∈ w.log :=
    fun hmem => (List.mem_cons.mp hmem).resolve_left fun heq => by cases heq
  -- what the call leaves where it was a revocation
  have hempty : ∀ {appId userId count at_'}, .began call (.revokeTokens appId userId) at_' ∈ w.log →
      reply = .revoked count → w.Revoking call appId userId [] ∧ w.WithoutTokens appId userId := by
    intro appId userId count at_' hb hreply
    obtain ⟨hrequest, -⟩ := hfinal.recorded.began_unique hbegan hb
    rw [hrevoked appId userId count hrequest hreply] at hvalid
    exact hvalid
  have hnokey : ∀ {appId userId}, w.Revoking call appId userId [] → ∀ id key,
      w.apiKeys.rows.lookup id = some key → ¬ key.grant.Of appId userId := by
    intro appId userId hrevoking id key hrow hof
    cases hrevoking.keys id key hrow hof
  have hanswered : revokeContract.Kept (w.note (.finished call reply)) := by
    refine hfinal.answered.finish hfinal.recorded hbegan ?_
    intro appId userId count hrequest hreply
    rw [hrevoked appId userId count hrequest hreply] at hvalid
    exact hvalid.1.listed
  refine h.step ⟨hfinal.recorded.step hsteps, hanswered, hfinal.referenced, ?_, ?_, ?_,
    hfinal.of_grant, ?_⟩ trivial ?_
  · intro c r r' hf hf'
    cases List.mem_cons.mp hf with
    | inl heq =>
      cases heq
      cases List.mem_cons.mp hf' with
      | inl heq' =>
        cases heq'
        rfl
      | inr hf' => exact absurd ⟨_, hf'⟩ hnot
    | inr hf =>
      cases List.mem_cons.mp hf' with
      | inl heq' =>
        cases heq'
        exact absurd ⟨_, hf⟩ hnot
      | inr hf' => exact hfinal.once c r r' hf hf'
  · rintro id key c hrow ⟨at_', count, hb, hf⟩
    cases List.mem_cons.mp hf with
    | inl heq =>
      cases heq
      exact absurd ⟨rfl, rfl⟩ (hnokey (hempty (hold hb) rfl).1 id key hrow)
    | inr hf => exact (hfinal.keys id key c hrow ⟨at_', count, hold hb, hf⟩).later hlater
  · rintro id token c hrow ⟨at_', count, hb, hf⟩
    cases List.mem_cons.mp hf with
    | inl heq =>
      cases heq
      exact absurd ⟨rfl, rfl⟩ ((hempty (hold hb) rfl).2 id token hrow)
    | inr hf => exact (hfinal.tokens id token c hrow ⟨at_', count, hold hb, hf⟩).later hlater
  · intro c count appId userId at_' hhead hb
    cases hhead
    exact hnokey (hempty (hold hb) rfl).1
  · intro u hu hvalid' hapart
    refine ⟨?_, fun _ _ _ _ ho => by cases ho⟩
    cases u with
    | none => trivial
    | some running =>
      obtain ⟨c, st⟩ := running
      obtain ⟨hlt', hnot', hst⟩ := hvalid'
      refine ⟨hlt', ?_, hst.same_rows hlater rfl rfl fun _ _ _ hb _ => hold hb⟩
      rintro ⟨r, hf⟩
      cases List.mem_cons.mp hf with
      | inl heq =>
        cases heq
        exact hapart _ _ _ _ rfl rfl rfl
      | inr hf => exact hnot' ⟨r, hf⟩

end Finality

end

/-! ## The condition -/

/-- What a step must find for revocations to be final. -/
def Undisturbed : Op → World → Choice → Prop
  -- a revocation lists: every key of the app and the user is that of a token row
  | .store _ (.listTokensByAppAndUser appId userId), w, _ =>
    ∀ id key, w.apiKeys.rows.lookup id = some key → key.grant.Of appId userId →
      ∃ tokenId token, w.tokens.rows.lookup tokenId = some token ∧ token.apiKeyId = id ∧
        w.ofAppAndUser appId userId token = true
  -- a code or a token is taken: no revocation is under way, and the code is newer than all before
  | .store _ (.deleteCode id), w, _ =>
    ∀ code, w.codes.rows.lookup id = some code → ¬ w.Open code.appId code.userId ∧
      ∀ call, w.Revoked call code.appId code.userId → call < code.calls
  | .store _ (.deleteToken id), w, _ =>
    ∀ token, w.tokens.rows.lookup id = some token → ¬ w.Open token.grant.app token.grant.user
  -- the pair is made: no revocation has listed since
  | .store call (.createApiKey _ _ grant), w, _ => ¬ w.ListedSince call grant.app grant.user
  | .store call (.createToken _ grant), w, _ => ¬ w.ListedSince call grant.app grant.user
  -- a revocation deletes a key, and the store does not fail
  | .attempt call (.deleteApiKey _), w, choice =>
    (∃ appId userId at_, .began call (.revokeTokens appId userId) at_ ∈ w.log) →
      choice.fails = false
  | _, _, _ => True

def undisturbed : Regime Op World Choice Request Empty where
  call := Undisturbed
  spawn _ _ := True
  outside _ _ := True

/-! ## The calls -/

section

variable [Sha256] [UrlSyntax]

def finalizing : Method growth undisturbed Running where
  inv := Finality
  perm := Ensemble.perm Running.Apart.symm

variable {seen : World} {call : Nat}

theorem finalizing_keeps : finalizing.Keeps Op.Ungranting where
  keeps hop hinv _ hexec := Finality.step_ungranting hinv hop (steps_of_exec hexec)

theorem finalizing_keeps_plain : finalizing.Keeps Op.Plain :=
  finalizing_keeps.mono fun _ => Op.Plain.ungranting

/-- The task is still that of the call. -/
def Runs {α : Type} (call : Nat) (_ : World) (o : Running) (_ : α) : Prop :=
  ∃ stage, o = some (call, stage)

theorem storeTokenPair_finalizes {keySecret refreshToken : String} {key : ApiKeyRow}
    {token : TokenRow} {grant : Grant} {since : List Event} {secret : SecretRow}
    (huser : token.userId = grant.user)
    (hissued : seen.secrets.issued.lookup token.appSecretId = some secret)
    (happ : secret.appId = grant.app) :
    finalizing.Plays (Runs call)
      (storeTokenPair call token.apiKeyId keySecret refreshToken key token grant) seen
      (some (call, .holding grant since)) := by
  refine plays_awaitStore fun s others choice r s₁ hs hinv hallowed hexec => ?_
  have hsteps := steps_of_store hexec
  have hlater := hs.trans hsteps.later
  refine ⟨_, Finality.tryKey hinv hallowed hsteps, fun e _ => ⟨_, rfl⟩,
    fun (created : Bool) _ => ?_⟩
  cases created with
  | false => exact ⟨_, rfl⟩
  | true =>
    intro s₂ others' choice' (r' : Except StorageError Unit) s₃ hs₂ hinv₂ hallowed' hexec'
    have hissued' := (hlater.trans hs₂).secrets.issued _ _ hissued
    refine ⟨_, Finality.tryToken hinv₂ hallowed' huser hissued' happ (steps_of_store hexec'), ?_⟩
    cases r' with
    | error e => exact keeps_call finalizing_keeps_plain trivial fun _ _ _ _ _ _ => ⟨_, rfl⟩
    | ok _ => exact ⟨_, rfl⟩

theorem generateTokenPair_finalizes {secretId : Uuid} {audience : String} {grant : Grant}
    {since : List Event} {secret : SecretRow}
    (hissued : seen.secrets.issued.lookup secretId = some secret)
    (happ : secret.appId = grant.app) :
    finalizing.Plays (Runs call) (generateTokenPair call secretId grant.user audience grant) seen
      (some (call, .holding grant since)) := by
  refine generateTokenPair_plays finalizing_keeps_plain (fun _ _ _ => ⟨_, rfl⟩) ?_
  intro w keySecret refreshToken key token hw hsecret huser
  exact storeTokenPair_finalizes huser (hsecret ▸ hw.secrets.issued _ _ hissued) happ

theorem redeemCode_finalizes {args : ExchangeArgs} {id secretId : Uuid} {code : IssuedCode}
    {secret : SecretRow} (hcode : seen.codes.issued.lookup id = some code)
    (hissued : seen.secrets.issued.lookup secretId = some secret)
    (happ : secret.appId = code.appId) :
    finalizing.Plays (Runs call) (redeemCode call args id code secretId) seen
      (some (call, .idle)) := by
  unfold redeemCode
  split
  · exact ⟨_, rfl⟩
  · refine plays_awaitStore fun s others choice r s' hs hinv hallowed hexec => ?_
    have hop : (Op.store call (.deleteCode id)).Ungranting := Op.Plain.ungranting trivial
    have hstep := Finality.step_ungranting hinv hop (steps_of_store hexec)
    by_cases hr : r = .ok true
    · obtain ⟨⟨code', hrow⟩, rfl⟩ := of_deleteCode (hr ▸ hexec)
      have hsame := s.codes.rows_issued _ _ hrow
      rw [hs.codes.issued _ _ hcode] at hsame
      cases hsame
      obtain ⟨hopen, hafter⟩ := hallowed code hrow
      refine ⟨_, hstep.takeCode hrow hopen hafter, fun e _ => ⟨_, rfl⟩, fun deleted hd => ?_⟩
      rw [hr] at hd
      cases hd
      exact generateTokenPair_finalizes (hs.secrets.issued _ _ hissued) happ
    · refine ⟨_, hstep, fun e _ => ⟨_, rfl⟩, fun (deleted : Bool) hd => ?_⟩
      cases deleted with
      | true => exact absurd hd hr
      | false => exact ⟨_, rfl⟩

theorem exchangeCode_finalizes {args : ExchangeArgs} :
    finalizing.Plays (Runs call) (exchangeCode call args) seen (some (call, .idle)) :=
  exchangeCode_plays finalizing_keeps_plain (fun _ _ _ => ⟨_, rfl⟩)
    fun _ _ _ _ _ _ hcode hissued happ => redeemCode_finalizes hcode hissued happ

theorem rotateToken_finalizes {id : Uuid} {token : IssuedToken}
    (hissued : seen.tokens.issued.lookup id = some token) :
    finalizing.Plays (Runs call) (rotateToken call id token) seen (some (call, .idle)) := by
  refine plays_awaitStore fun s others choice r s₁ hs hinv hallowed hexec => ?_
  have hop : (Op.store call (.deleteToken id)).Ungranting :=
    ⟨.inr trivial, fun _ _ hquery hgrants => by cases hquery; cases hgrants⟩
  have hstep := Finality.step_ungranting hinv hop (steps_of_store hexec)
  by_cases hr : r = .ok true
  · obtain ⟨⟨token', hrow⟩, rfl⟩ := of_deleteToken (hr ▸ hexec)
    have hsame := s.tokens.rows_issued _ _ hrow
    rw [hs.tokens.issued _ _ hissued] at hsame
    cases hsame
    refine ⟨_, Finality.takeToken hrow (hallowed token hrow) hinv hstep, fun e _ => ⟨_, rfl⟩,
      fun deleted hd => ?_⟩
    rw [hr] at hd
    cases hd
    obtain ⟨huser, happ, hsecret⟩ := hinv.shared.of_grant id token (hs.tokens.issued _ _ hissued)
    refine keeps_call finalizing_keeps_plain trivial fun s₂ choice' _ s₃ hs₂ hexec' => ?_
    rw [huser]
    have hlater := hs₂.trans (steps_of_exec hexec').later
    exact generateTokenPair_finalizes (hlater.secrets.issued _ _ hsecret) happ
  · refine ⟨_, hstep, fun e _ => ⟨_, rfl⟩, fun (deleted : Bool) hd => ?_⟩
    cases deleted with
    | true => exact absurd hd hr
    | false => exact ⟨_, rfl⟩

theorem refreshToken_finalizes {args : RefreshArgs} :
    finalizing.Plays (Runs call) (refreshToken call args) seen (some (call, .idle)) :=
  refreshToken_plays finalizing_keeps_plain (fun _ _ _ => ⟨_, rfl⟩)
    fun _ _ _ _ hissued _ => rotateToken_finalizes hissued

/-- The keys go one after the other. -/
theorem discardKeys_finalizes {appId userId : Uuid} {count : Nat} {keys : List String}
    {at_ : OffsetDateTime} (hbegan : .began call (.revokeTokens appId userId) at_ ∈ seen.log) :
    finalizing.Plays (fun _ o (_ : Outcome Nat) => o = some (call, .sweeping appId userId []))
      (discardKeys call (.done (.ok count)) keys) seen
      (some (call, .sweeping appId userId keys)) := by
  induction keys generalizing seen with
  | nil => rfl
  | cons key keys ih =>
    intro s others choice (_ : Unit) s' hs hinv hallowed hexec
    have hexec : exec (.attempt call (.deleteApiKey key)) s choice = some ((), s') := hexec
    have hop : (Op.attempt call (.deleteApiKey key)).Ungranting := Op.Plain.ungranting trivial
    have hstep := Finality.step_ungranting hinv hop (steps_of_exec hexec)
    have hnone := of_discardKey (hallowed ⟨appId, userId, at_, hs.mem_log hbegan⟩) hexec
    exact ⟨_, hstep.dropKey hnone, ih ((hs.trans (steps_of_exec hexec).later).mem_log hbegan)⟩

theorem revokeTokens_finalizes {appId userId : Uuid} {at_ : OffsetDateTime}
    (hbegan : .began call (.revokeTokens appId userId) at_ ∈ seen.log) :
    finalizing.Plays (fun _ o (r : Outcome Nat) => ∃ stage, o = some (call, stage) ∧
      ∀ count, r = .ok count → stage = .sweeping appId userId [])
      (revokeTokens call appId userId) seen (some (call, .idle)) := by
  refine plays_awaitStore fun s others choice r s₁ hs hinv hallowed hexec => ?_
  have hop : (Op.store call (.listTokensByAppAndUser appId userId)).Ungranting :=
    Op.Plain.ungranting trivial
  have hstep := Finality.step_ungranting hinv hop (steps_of_store hexec)
  have hlater := hs.trans (steps_of_store hexec).later
  cases r with
  | error e =>
    refine ⟨_, hstep, fun e' _ => ⟨_, rfl, fun count hcount => ?_⟩, fun a ha => ?_⟩
    · cases hcount
    · cases ha
  | ok rows =>
    obtain ⟨hrows, rfl⟩ := of_listTokens hexec
    refine ⟨_, Finality.startRevoking hallowed hrows hstep, fun e he => ?_, fun a ha => ?_⟩
    · cases he
    · cases ha
      refine plays_awaitStore fun s₂ others' choice' r' s₃ hs₂ hinv₂ _ hexec' => ?_
      have hop' : (Op.store call (.deleteTokensByAppAndUser appId userId)).Ungranting :=
        ⟨.inr trivial, fun _ _ hquery hgrants => by cases hquery; cases hgrants⟩
      have hstep' := Finality.step_ungranting hinv₂ hop' (steps_of_store hexec')
      have hbegan' := (hlater.trans (hs₂.trans (steps_of_store hexec').later)).mem_log hbegan
      cases r' with
      | error e =>
        refine ⟨_, hstep', fun e' _ => ⟨_, rfl, fun count hcount => ?_⟩, fun a ha => ?_⟩
        · cases hcount
        · cases ha
      | ok count =>
        obtain rfl := of_deleteTokens hexec'
        refine ⟨_, Finality.sweep hinv₂ hstep', fun e he => ?_, fun a ha => ?_⟩
        · cases he
        · exact (discardKeys_finalizes hbegan').mono fun _ o _ _ ho => ⟨_, ho, fun _ _ => rfl⟩

theorem handle_finalizes {request : Request} {at_ : OffsetDateTime}
    (hbegan : .began call request at_ ∈ seen.log) :
    finalizing.Plays (fun _ o reply => ∃ stage, o = some (call, stage) ∧
      ∀ appId userId count, request = .revokeTokens appId userId → reply = .revoked count →
        stage = .sweeping appId userId []) (handle call request) seen (some (call, .idle)) := by
  by_cases hexchange : ∃ args, request = .exchangeCode args
  · obtain ⟨args, rfl⟩ := hexchange
    refine plays_replyOk (exchangeCode_finalizes.mono fun w o r _ hruns => ?_)
    obtain ⟨stage, rfl⟩ := hruns
    exact ⟨fun _ _ => ⟨stage, rfl, fun _ _ _ h => by cases h⟩,
      fun _ _ => ⟨stage, rfl, fun _ _ _ h => by cases h⟩⟩
  · by_cases hrefresh : ∃ args, request = .refreshToken args
    · obtain ⟨args, rfl⟩ := hrefresh
      refine plays_replyOk (refreshToken_finalizes.mono fun w o r _ hruns => ?_)
      obtain ⟨stage, rfl⟩ := hruns
      exact ⟨fun _ _ => ⟨stage, rfl, fun _ _ _ h => by cases h⟩,
        fun _ _ => ⟨stage, rfl, fun _ _ _ h => by cases h⟩⟩
    · by_cases hrevoke : ∃ appId userId, request = .revokeTokens appId userId
      · obtain ⟨appId, userId, rfl⟩ := hrevoke
        refine plays_replyOk ((revokeTokens_finalizes hbegan).mono fun w o r _ hstage => ?_)
        obtain ⟨stage, rfl, hdone⟩ := hstage
        refine ⟨fun e _ => ⟨stage, rfl, fun a u count _ hreply => ?_⟩,
          fun n hn => ⟨stage, rfl, fun a u count hrequest _ => ?_⟩⟩
        · cases hreply
        · cases hrequest
          exact hdone n hn
      · refine finalizing_keeps.uses (handle_ungranting (fun args h => hexchange ⟨args, h⟩)
          fun args h => hrefresh ⟨args, h⟩) fun _ reply _ => ⟨_, rfl, fun a u count h => ?_⟩
        exact absurd ⟨a, u, h⟩ hrevoke

theorem finalizing_sound : finalizing.Sound anyEnd where
  spawn s roles request hinv _ := by
    have hjoin : Finality s (none :: roles) := by
      refine Ensemble.join hinv trivial fun u _ c stage c' stage' ho _ => ?_
      cases ho
    refine ⟨none, hjoin, plays_serve fun s₁ others choice hs hinv₁ _ hnow => ?_⟩
    refine ⟨_, Finality.begin hinv₁ hnow, ?_⟩
    refine (handle_finalizes List.mem_cons_self).mono fun seen' o reply hlater hstage => ?_
    obtain ⟨stage, rfl, hdone⟩ := hstage
    intro t others' choice' ht hinv' _
    refine ⟨none, Finality.finish hinv' ((hlater.trans ht).mem_log List.mem_cons_self) ?_, trivial⟩
    exact hdone
  outside _ _ event := event.elim

/-! ## Every run -/

/-- In every run whose steps meet the condition: once a revocation has returned `Ok`, every key of
its app and user comes from a code that was made after the revocation began, and at the moment at
which it returns there is none. -/
theorem revocations_final (apps : AppTable) (moves : List (Move Request Choice Empty))
    (hrun : Along provider.program.step undisturbed.Allows (idle apps) moves) (call : Nat)
    (appId userId : Uuid) (at_ : OffsetDateTime) (count : Nat)
    (hbegan : .began call (.revokeTokens appId userId) at_ ∈ (after apps moves).log)
    (hfinished : .finished call (.revoked count) ∈ (after apps moves).log) :
    (∀ id key, (after apps moves).apiKeys.rows.lookup id = some key →
      key.grant.Of appId userId → (after apps moves).MadeAfter call key.grant.code) ∧
    ((after apps moves).log.head? = some (.finished call (.revoked count)) →
      ∀ id key, (after apps moves).apiKeys.rows.lookup id = some key →
        ¬ key.grant.Of appId userId) := by
  obtain ⟨roles, hinv⟩ := finalizing_sound.invariant (Finality.start apps) hrun
  have hfinal : Final (after apps moves) := hinv.shared
  refine ⟨fun id key hrow hof => ?_, fun hhead => ?_⟩
  · obtain ⟨rfl, rfl⟩ := hof
    exact hfinal.keys id key call hrow ⟨at_, count, hbegan, hfinished⟩
  · exact hfinal.last call count appId userId at_ hhead hbegan

end

/-! ## Runs on fixed inputs -/

def Event.revokes (call : Nat) (appId userId : Uuid) : Event → Bool
  | began call' (.revokeTokens appId' userId') _ =>
    call' = call ∧ appId' = appId ∧ userId' = userId
  | _ => false

def Event.revoked? : Event → Option Nat
  | finished call (.revoked _) => some call
  | _ => none

def Event.isListing : Event → Bool
  | tokensListed _ _ _ _ => true
  | _ => false

section

variable {log : List Event} {call : Nat} {appId userId : Uuid}

theorem Event.exists_revocation (h : log.any (Event.revokes call appId userId) = true) :
    ∃ at_, .began call (.revokeTokens appId userId) at_ ∈ log := by
  obtain ⟨e, he, hrevokes⟩ := List.any_eq_true.mp h
  unfold Event.revokes at hrevokes
  split at hrevokes
  · obtain ⟨rfl, rfl, rfl⟩ := of_decide_eq_true hrevokes
    exact ⟨_, he⟩
  · cases hrevokes

theorem Event.exists_revoked (h : log.any (fun e => e.revoked? = some call) = true) :
    ∃ count, .finished call (.revoked count) ∈ log := by
  obtain ⟨e, he, hrevoked⟩ := List.any_eq_true.mp h
  have hrevoked := of_decide_eq_true hrevoked
  unfold Event.revoked? at hrevoked
  split at hrevoked
  · cases hrevoked
    exact ⟨_, he⟩
  · cases hrevoked

end

/-- No revocation has come so far as to list or to return. -/
def unrevoked (w : World) : Bool := w.log.all fun e => !e.isListing && e.revoked?.isNone

/-- A test that is passed where all codes are exchanged before anything is revoked. -/
def revokesLast : Op → World → Choice → Bool
  | .store _ (.listTokensByAppAndUser appId userId), w, _ =>
    (w.apiKeys.rows.selectFirst fun id key =>
      (key.grant.app = appId ∧ key.grant.user = userId) ∧
        (w.tokens.rows.selectFirst fun _ token =>
          token.apiKeyId = id ∧ w.ofAppAndUser appId userId token = true).isNone = true).isNone
  | .store _ (.deleteCode _), w, _ => unrevoked w
  | .store _ (.deleteToken _), w, _ => unrevoked w
  | .store _ (.createApiKey _ _ _), w, _ => unrevoked w
  | .store _ (.createToken _ _), w, _ => unrevoked w
  | .attempt _ (.deleteApiKey _), _, choice => !choice.fails
  | _, _, _ => true

section

variable {w : World} {call : Nat} {appId userId : Uuid}

theorem not_listed_of_unrevoked (h : unrevoked w = true) {keys : List String} :
    .tokensListed call appId userId keys ∉ w.log := by
  intro hmem
  have hall := List.all_eq_true.mp h _ hmem
  simp [Event.isListing] at hall

theorem not_listedSince_of_unrevoked (h : unrevoked w = true) :
    ¬ w.ListedSince call appId userId := by
  rintro ⟨newer, e, older, hlog, -, call', keys, hlisted⟩
  have hmem : .tokensListed call' appId userId keys ∈ w.log := by
    rw [hlog]
    exact List.mem_append_left _ hlisted
  exact not_listed_of_unrevoked h hmem

theorem not_open_of_unrevoked (h : unrevoked w = true) : ¬ w.Open appId userId := by
  rintro ⟨call', ⟨keys, hlisted⟩, -⟩
  exact not_listed_of_unrevoked h hlisted

theorem not_revoked_of_unrevoked (h : unrevoked w = true) : ¬ w.Revoked call appId userId := by
  rintro ⟨at_, count, -, hfinished⟩
  have hall := List.all_eq_true.mp h _ hfinished
  simp [Event.revoked?] at hall

theorem settled_of_test {appId userId : Uuid}
    (h : (w.apiKeys.rows.selectFirst fun id key =>
      (key.grant.app = appId ∧ key.grant.user = userId) ∧
        (w.tokens.rows.selectFirst fun _ token =>
          token.apiKeyId = id ∧ w.ofAppAndUser appId userId token = true).isNone = true).isNone =
      true) (id : String) (key : IssuedKey) (hrow : w.apiKeys.rows.lookup id = some key)
    (hof : key.grant.Of appId userId) :
    ∃ tokenId token, w.tokens.rows.lookup tokenId = some token ∧ token.apiKeyId = id ∧
      w.ofAppAndUser appId userId token = true := by
  have hnone := not_selected (Option.isNone_iff_eq_none.mp h) hrow
  cases hselect : w.tokens.rows.selectFirst fun _ token =>
      decide (token.apiKeyId = id ∧ w.ofAppAndUser appId userId token = true) with
  | none => exact absurd (decide_eq_true ⟨hof, by rw [hselect]; rfl⟩) hnone
  | some found =>
  obtain ⟨tokenId, token⟩ := found
  obtain ⟨htoken, hselected⟩ := HashMap.selectFirst_spec hselect
  obtain ⟨hid, hselected⟩ := of_decide_eq_true hselected
  exact ⟨tokenId, token, htoken, hid, hselected⟩

theorem undisturbed_of_revokesLast {op : Op} {choice : Choice}
    (h : revokesLast op w choice = true) :
    undisturbed.call op w choice := by
  cases op with
  | store call q =>
    cases q with
    | listTokensByAppAndUser appId userId => exact settled_of_test h
    | deleteCode id =>
      exact fun _ _ => ⟨not_open_of_unrevoked h, fun _ hr => absurd hr (not_revoked_of_unrevoked h)⟩
    | deleteToken id => exact fun _ _ => not_open_of_unrevoked h
    | createApiKey id key grant => exact not_listedSince_of_unrevoked h
    | createToken token grant => exact not_listedSince_of_unrevoked h
    | _ => trivial
  | attempt call q =>
    cases q with
    | deleteApiKey id =>
      intro _
      simpa [revokesLast] using h
    | _ => trivial
  | _ => trivial

end

/-- A revocation after the exchange. -/
def revokingRun : List (Move Request Choice Empty) :=
  exchangingRun ++ .spawn (.revokeTokens (uuidOf 1) (uuidOf 7)) ::
    List.replicate 5 (.run 3 (choiceOf 5))

theorem revokingRun_final :
    Along (@provider utf8Digest anyUrl).program.step undisturbed.Allows (idle (oneApp true))
        (grantingRun ++ revokingRun) ∧
      ∃ at_ count,
        .began 3 (.revokeTokens (uuidOf 1) (uuidOf 7)) at_ ∈ (exchangingWorld revokingRun).log ∧
        (exchangingWorld revokingRun).log.head? = some (.finished 3 (.revoked count)) ∧
        ∀ id key, (exchangingWorld revokingRun).apiKeys.rows.lookup id = some key →
          ¬ key.grant.Of (uuidOf 1) (uuidOf 7) := by
  have hchecks : Regime.checks (@provider utf8Digest anyUrl) revokesLast (idle (oneApp true))
      (grantingRun ++ revokingRun) = true := by decide +kernel
  have hrevokes : (exchangingWorld revokingRun).log.any
      (Event.revokes 3 (uuidOf 1) (uuidOf 7)) = true := by decide +kernel
  have hlast : (exchangingWorld revokingRun).log.head?.toList.any
      (fun e => e.revoked? = some 3) = true := by decide +kernel
  have hrun : Along (@provider utf8Digest anyUrl).program.step undisturbed.Allows
      (idle (oneApp true)) (grantingRun ++ revokingRun) :=
    Regime.along_of_checks (fun _ _ => trivial) (fun _ _ => trivial)
      (fun _ _ _ => undisturbed_of_revokesLast) hchecks
  obtain ⟨at_, hbegan⟩ := Event.exists_revocation hrevokes
  obtain ⟨count, hfinished⟩ := Event.exists_revoked hlast
  have hhead : (exchangingWorld revokingRun).log.head? = some (.finished 3 (.revoked count)) :=
    Option.mem_toList.mp hfinished
  refine ⟨hrun, at_, count, hbegan, hhead, ?_⟩
  unfold exchangingWorld at hbegan hhead ⊢
  exact (@revocations_final utf8Digest anyUrl (oneApp true) (grantingRun ++ revokingRun) hrun 3
    (uuidOf 1) (uuidOf 7) at_ count hbegan (List.mem_of_mem_head? hhead)).2 hhead

/-- The user revokes, and the app exchanges the code that it has got before. -/
def keptCodeRun : List (Move Request Choice Empty) :=
  .spawn (.revokeTokens (uuidOf 1) (uuidOf 7)) :: List.replicate 4 (.run 2 (choiceOf 4)) ++
    .spawn (.exchangeCode (exchangeArgs (drawnText 3))) :: List.replicate 12 (.run 3 (choiceOf 5))

theorem keptCode_works_after_revocation :
    ∃ at_ count id key,
      .began 2 (.revokeTokens (uuidOf 1) (uuidOf 7)) at_ ∈ (exchangingWorld keptCodeRun).log ∧
      .finished 2 (.revoked count) ∈ (exchangingWorld keptCodeRun).log ∧
      (exchangingWorld keptCodeRun).apiKeys.rows.lookup id = some key ∧
      key.grant.Of (uuidOf 1) (uuidOf 7) ∧
      ¬ (exchangingWorld keptCodeRun).MadeAfter 2 key.grant.code := by
  have hrevokes : (exchangingWorld keptCodeRun).log.any
      (Event.revokes 2 (uuidOf 1) (uuidOf 7)) = true := by decide +kernel
  have hrevoked : (exchangingWorld keptCodeRun).log.any (fun e => e.revoked? = some 2) = true := by
    decide +kernel
  have hkey : ((exchangingWorld keptCodeRun).apiKeys.rows.lookup (uuidOf 5).toHyphenated).any
      (fun key => (key.grant.app = uuidOf 1 ∧ key.grant.user = uuidOf 7) ∧
        ((exchangingWorld keptCodeRun).codes.issued.lookup key.grant.code).all
          (fun row => row.calls ≤ 2) = true) = true := by decide +kernel
  obtain ⟨at_, hbegan⟩ := Event.exists_revocation hrevokes
  obtain ⟨count, hfinished⟩ := Event.exists_revoked hrevoked
  obtain ⟨key, hrow, htest⟩ := (Option.any_eq_true _ _).mp hkey
  obtain ⟨hof, hcalls⟩ := of_decide_eq_true htest
  refine ⟨at_, count, _, key, hbegan, hfinished, hrow, hof, ?_⟩
  rintro ⟨row, hissued, hlt⟩
  rw [hissued] at hcalls
  exact absurd (of_decide_eq_true hcalls) (Nat.not_le.mpr hlt)

end Coderd.OAuth2
