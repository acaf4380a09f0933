import Coderd.OAuth2.Footprint

namespace Coderd.OAuth2

open Coderd.Foundation Coderd.Auth
open Coderd.CryptoKeys (OffsetDateTime)

/-! ## Approval -/

/-- The nonce was issued to the user of the row, who asked to authorize the app of the row. -/
def World.IssuedTo (w : World) (nonce : Uuid) (row : PendingConsentRow) : Prop :=
  ∃ call params at_, .consentIssued call nonce ∈ w.log ∧
    .began call (.getAuthorize row.userId params) at_ ∈ w.log ∧
    Uuid.parse params.clientId = some row.appId

/-- The user has sent `approve` to the consent endpoint with a nonce that was issued to them for
the app and had not expired. -/
def World.Approved (w : World) (appId userId : Uuid) : Prop :=
  ∃ call form at_ nonce row taken, .began call (.consent userId form) at_ ∈ w.log ∧
    form.decision = "approve" ∧ Uuid.parse form.nonce = some nonce ∧
    w.pendings.issued.lookup nonce = some row ∧ row.appId = appId ∧ row.userId = userId ∧
    w.IssuedTo nonce row ∧ .consentTaken call nonce taken ∈ w.log ∧ taken < row.expiresAt

/-- The same, and the nonce was used this once. -/
def World.ApprovedOnce (w : World) (appId userId : Uuid) : Prop :=
  ∃ call form at_ nonce row taken, .began call (.consent userId form) at_ ∈ w.log ∧
    form.decision = "approve" ∧ Uuid.parse form.nonce = some nonce ∧
    w.pendings.issued.lookup nonce = some row ∧ row.appId = appId ∧ row.userId = userId ∧
    w.IssuedTo nonce row ∧ .consentTaken call nonce taken ∈ w.log ∧ taken < row.expiresAt ∧
    w.log.countP (fun e => e.spent = some (.consent nonce)) = 1

variable {w w' : World} {appId userId nonce : Uuid} {row : PendingConsentRow}

theorem World.Approved.once (h : w.Approved appId userId) (hrecorded : Recorded w) :
    w.ApprovedOnce appId userId := by
  obtain ⟨call, form, at_, nonce, row, taken, hbegan, happrove, hparse, hrow, happ, huser, hto,
    htaken, hlt⟩ := h
  exact ⟨call, form, at_, nonce, row, taken, hbegan, happrove, hparse, hrow, happ, huser, hto,
    htaken, hlt, hrecorded.spent_count htaken rfl⟩

theorem World.IssuedTo.later (h : w.IssuedTo nonce row) (hlater : w.Later w') :
    w'.IssuedTo nonce row := by
  obtain ⟨call, params, at_, hissued, hbegan, hparse⟩ := h
  exact ⟨call, params, at_, hlater.mem_log hissued, hlater.mem_log hbegan, hparse⟩

theorem World.Approved.later (h : w.Approved appId userId) (hlater : w.Later w') :
    w'.Approved appId userId := by
  obtain ⟨call, form, at_, nonce, row, taken, hbegan, happrove, hparse, hrow, happ, huser, hto,
    htaken, hlt⟩ := h
  exact ⟨call, form, at_, nonce, row, taken, hlater.mem_log hbegan, happrove, hparse,
    hlater.pendings.issued _ _ hrow, happ, huser, hto.later hlater, hlater.mem_log htaken, hlt⟩

/-- What the tables say about approvals is what the log says. -/
structure Consented (w : World) : Prop where
  recorded : Recorded w
  issued : ∀ nonce row, w.pendings.issued.lookup nonce = some row → w.IssuedTo nonce row
  approvals : ∀ appId userId scope, w.approvals.lookup (appId, userId) = some scope →
    w.Approved appId userId
  codes : ∀ id code, w.codes.issued.lookup id = some code → code.firstParty = false →
    w.Approved code.appId code.userId

namespace Consented

theorem start (apps : AppTable) : Consented (World.start apps) where
  recorded := .start apps
  issued nonce row h := by simp [World.start] at h
  approvals appId userId scope h := by simp [World.start] at h
  codes id code h := by simp [World.start] at h

/-- A step that adds nothing to the three tables. -/
theorem keep (h : Consented w) (hlater : w.Later w') (hrecorded : Recorded w')
    (hpendings : w'.pendings.issued = w.pendings.issued)
    (happrovals : ∀ key scope, w'.approvals.lookup key = some scope →
      w.approvals.lookup key = some scope)
    (hcodes : w'.codes.issued = w.codes.issued) : Consented w' where
  recorded := hrecorded
  issued nonce row hrow := (h.issued nonce row (hpendings ▸ hrow)).later hlater
  approvals appId userId scope hscope :=
    (h.approvals appId userId scope (happrovals _ _ hscope)).later hlater
  codes id code hcode hthird := (h.codes id code (hcodes ▸ hcode) hthird).later hlater

/-- A step that is not one of the authorization endpoints. -/
theorem step_plain {choice : Choice} {op : Op} (h : Consented w)
    (hop : ∀ call q, op.query? = some (call, q) → ¬ q.Asks) (hsteps : Steps choice w op w') :
    Consented w' := by
  have hlater := hsteps.later
  have hrecorded := h.recorded.step hsteps
  cases hsteps with
  | quiet => exact h
  | tick => exact h.keep hlater hrecorded rfl (fun _ _ h => h) rfl
  | begin => exact h.keep hlater hrecorded rfl (fun _ _ h => h) rfl
  | finish => exact h.keep hlater hrecorded rfl (fun _ _ h => h) rfl
  | failed => exact h.keep hlater hrecorded rfl (fun _ _ h => h) rfl
  | change hquery _ hchange =>
    have hasks := hop _ _ hquery
    cases hchange with
    | deleteApp id =>
      refine h.keep hlater hrecorded rfl (fun key scope hscope => ?_) rfl
      have hscope : (w.approvals.retain fun key _ => decide (key.1 ≠ id)).lookup key =
          some scope := hscope
      rw [HashMap.lookup_retain, Option.filter_eq_some_iff] at hscope
      exact hscope.1
    | approve => exact absurd trivial hasks
    | insertPending => exact absurd trivial hasks
    | createCode => exact absurd trivial hasks
    | _ => exact h.keep hlater hrecorded rfl (fun _ _ h => h) rfl

theorem step_insertPending {choice : Choice} {call : Nat} {params : OAuth2AuthorizeRequest}
    {at_ : OffsetDateTime} (h : Consented w)
    (hbegan : .began call (.getAuthorize row.userId params) at_ ∈ w.log)
    (hparse : Uuid.parse params.clientId = some row.appId)
    (hsteps : Steps choice w (.store call (.insertPendingConsent row)) w') : Consented w' := by
  have hlater := hsteps.later
  have hrecorded := h.recorded.step hsteps
  cases hsteps with
  | quiet => exact h
  | failed => exact h.keep hlater hrecorded rfl (fun _ _ h => h) rfl
  | change hquery _ hchange =>
    cases hquery
    cases hchange with
    | same => exact h
    | @insertPending _ nonce pendings hinsert =>
      refine ⟨hrecorded, fun nonce' row' hrow => ?_, ?_, ?_⟩
      · obtain ⟨rfl, rfl⟩ | hrow := hinsert.issued_cases hrow
        · exact ⟨call, params, at_, List.mem_cons_self, hlater.mem_log hbegan, hparse⟩
        · exact (h.issued nonce' row' hrow).later hlater
      · exact fun appId userId scope hscope => (h.approvals appId userId scope hscope).later hlater
      · exact fun id code hcode hthird => (h.codes id code hcode hthird).later hlater

theorem step_approve {choice : Choice} {call : Nat} {scope : String} (h : Consented w)
    (happroved : w.Approved appId userId)
    (hsteps : Steps choice w (.store call (.insertUserApproval appId userId scope)) w') :
    Consented w' := by
  have hlater := hsteps.later
  have hrecorded := h.recorded.step hsteps
  cases hsteps with
  | quiet => exact h
  | failed => exact h.keep hlater hrecorded rfl (fun _ _ h => h) rfl
  | change hquery _ hchange =>
    cases hquery
    cases hchange with
    | same => exact h
    | approve =>
      refine ⟨hrecorded, fun nonce row hrow => (h.issued nonce row hrow).later hlater, ?_,
        fun id code hcode hthird => (h.codes id code hcode hthird).later hlater⟩
      intro appId' userId' scope' hscope
      rw [HashMap.lookup_insert_ite] at hscope
      split at hscope
      · rename_i hkey
        cases hkey
        exact happroved.later hlater
      · exact (h.approvals appId' userId' scope' hscope).later hlater

theorem step_createCode {choice : Choice} {call : Nat} {code : CodeRow} (h : Consented w)
    (happroved : ∀ app, w.apps.rows.lookup code.appId = some app → app.firstParty = false →
      w.Approved code.appId code.userId)
    (hsteps : Steps choice w (.store call (.createCode code)) w') : Consented w' := by
  have hlater := hsteps.later
  have hrecorded := h.recorded.step hsteps
  cases hsteps with
  | quiet => exact h
  | failed => exact h.keep hlater hrecorded rfl (fun _ _ h => h) rfl
  | change hquery _ hchange =>
    cases hquery
    cases hchange with
    | same => exact h
    | @createCode _ app id codes happ _ hinsert =>
      refine ⟨hrecorded, fun nonce row hrow => (h.issued nonce row hrow).later hlater,
        fun appId userId scope hscope => (h.approvals appId userId scope hscope).later hlater, ?_⟩
      intro id' code' hcode hthird
      obtain ⟨rfl, rfl⟩ | hcode := hinsert.issued_cases hcode
      · exact (happroved app happ hthird).later hlater
      · exact (h.codes id' code' hcode hthird).later hlater

end Consented

/-! ## The condition -/

/-- `POST /oauth2/authorize` makes a code for a third-party app only where the user's approval of
the app is in the table, which is what its sibling asks for. -/
def approvalRegime : Regime Op World Choice Request Empty where
  call op w _ := ∀ call code, op = .store call (.createCode code) →
    (∃ user params at_, .began call (.postAuthorize user params) at_ ∈ w.log) →
    ∀ app, w.apps.rows.lookup code.appId = some app → app.firstParty = false →
      (w.approvals.lookup (code.appId, code.userId)).isSome = true
  spawn _ _ := True
  outside _ _ := True

section

variable [Sha256] [UrlSyntax]

def consenting : Method growth approvalRegime Unit := .ofState growth approvalRegime Consented

/-- What a call must know before it may make a code for the app and the user. -/
def World.MayAuthorize (w : World) (call : Nat) (appId userId : Uuid) : Prop :=
  w.apps.registered.lookup appId = some true ∨ w.Approved appId userId ∨
    ∃ user params at_, .began call (.postAuthorize user params) at_ ∈ w.log

omit [Sha256] [UrlSyntax] in
theorem World.MayAuthorize.later {call : Nat} (h : w.MayAuthorize call appId userId)
    (hlater : w.Later w') : w'.MayAuthorize call appId userId := by
  obtain hfirst | happroved | ⟨user, params, at_, hbegan⟩ := h
  · exact .inl (hlater.apps appId true hfirst)
  · exact .inr (.inl (happroved.later hlater))
  · exact .inr (.inr ⟨user, params, at_, hlater.mem_log hbegan⟩)

omit [Sha256] [UrlSyntax] in
/-- A code that such a call makes for a third-party app is one that the user has approved. -/
theorem World.MayAuthorize.approved {call : Nat} {choice : Choice} {code : CodeRow} {app : AppRow}
    (h : w.MayAuthorize call code.appId code.userId) (hconsented : Consented w)
    (hallowed : approvalRegime.call (.store call (.createCode code)) w choice)
    (happ : w.apps.rows.lookup code.appId = some app) (hthird : app.firstParty = false) :
    w.Approved code.appId code.userId := by
  obtain hfirst | happroved | hpost := h
  · rw [w.apps.rows_registered _ _ happ, hthird] at hfirst
    cases hfirst
  · exact happroved
  · have hsome := hallowed call code rfl hpost app happ hthird
    obtain ⟨scope, hscope⟩ := Option.isSome_iff_exists.mp hsome
    exact hconsented.approvals _ _ scope hscope

variable {seen : World} {call : Nat}

/-- The steps that are not those of the authorization endpoints. -/
theorem consenting_keeps : consenting.Keeps Op.Issuing where
  keeps hop hinv _ hexec :=
    Consented.step_plain hinv (fun _ _ hquery => hop.not_asks hquery) (steps_of_exec hexec)

theorem createAuthorizationCode_consents {resource codeChallenge codeChallengeMethod : String}
    (hmay : seen.MayAuthorize call appId userId) :
    consenting.Plays anyEnd
      (createAuthorizationCode call appId userId resource codeChallenge codeChallengeMethod)
      seen () := by
  refine plays_awaitOk
    (consenting_keeps.uses ((getApp_plain appId).mono fun _ => Op.Plain.issuing) ?_)
  refine fun seen' r hlater => ⟨fun e _ => trivial, fun app _ => ?_⟩
  have hmay := hmay.later hlater
  dsimp only
  split
  · trivial
  · refine keeps_call consenting_keeps trivial fun s _ (bytes : Vector UInt8 32) s₁ hs hexec => ?_
    refine keeps_call consenting_keeps trivial fun s' _ (now : OffsetDateTime) s₂ hs' hexec' => ?_
    have hmay := (((hmay.later hs).later (steps_of_exec hexec).later).later hs').later
      (steps_of_exec hexec').later
    split
    · trivial
    · refine plays_awaitStore fun s others choice r s₃ hs hinv hallowed hexec => ?_
      refine ⟨(), ?_, fun e _ => trivial, fun _ _ => trivial⟩
      refine Consented.step_createCode hinv (fun app happ hthird => ?_) (steps_of_store hexec)
      exact (hmay.later hs).approved hinv hallowed happ hthird

theorem codeRedirect_consents {app : AppRow} {resource codeChallenge codeChallengeMethod : String}
    {status : Nat} {state : List (String × String)} (hmay : seen.MayAuthorize call appId userId) :
    consenting.Plays anyEnd
      (codeRedirect call app appId userId resource codeChallenge codeChallengeMethod status state)
      seen () := by
  refine plays_replyOk ((createAuthorizationCode_consents hmay).mono ?_)
  exact fun _ _ _ _ _ => ⟨fun _ _ => trivial, fun _ _ => trivial⟩

/-- The app that is found has the flag under which its id was registered. -/
theorem appWithCallback_consents {next : AppRow → Handler Reply}
    (hnext : ∀ seen' app, seen.Later seen' →
      seen'.apps.registered.lookup appId = some app.firstParty →
      consenting.Plays anyEnd (next app) seen' ()) :
    consenting.Plays anyEnd (appWithCallback call appId next) seen () := by
  refine plays_replyOk (plays_awaitStore fun s others choice r s' hs hinv _ hexec => ?_)
  have hsteps := steps_of_store hexec
  refine ⟨(), hinv.step_plain (fun call q hquery => ?_) hsteps, fun e _ => ?_, fun found hr => ?_⟩
  · cases hquery
    exact id
  · exact ⟨fun _ _ => trivial, fun _ h => by cases h⟩
  · cases found with
    | none => exact ⟨fun _ _ => trivial, fun _ h => by cases h⟩
    | some app =>
      refine ⟨fun _ _ => trivial, fun app' happ => ?_⟩
      cases happ
      have hregistered : s'.apps.registered.lookup appId = some app.firstParty := by
        unfold query at hexec
        split at hexec
        · rw [hr] at hexec
          cases hexec
        · simp only [perform, Option.some.injEq, Prod.mk.injEq] at hexec
          obtain ⟨hresult, rfl⟩ := hexec
          rw [hr, Except.ok.injEq] at hresult
          exact s.apps.rows_registered _ _ hresult
      split
      · exact hnext s' app (hs.trans hsteps.later) hregistered
      · trivial

theorem consentPage_consents {app : AppRow} {clientId : Uuid} {params : OAuth2AuthorizeRequest}
    {at_ : OffsetDateTime} (hbegan : .began call (.getAuthorize userId params) at_ ∈ seen.log)
    (hparse : Uuid.parse params.clientId = some clientId) :
    consenting.Plays anyEnd (consentPage call app clientId userId params) seen () := by
  refine keeps_call consenting_keeps trivial fun s _ (now : OffsetDateTime) s₁ hs hexec => ?_
  split
  · trivial
  · refine plays_replyStore fun s₂ others choice r s₃ hs' hinv _ hexec' => ?_
    refine ⟨(), ?_, fun e _ => trivial, fun _ _ => trivial⟩
    have hlater := (hs.trans (steps_of_exec hexec).later).trans hs'
    exact hinv.step_insertPending (hlater.mem_log hbegan) hparse
      (steps_of_store hexec')

theorem getOauth2Authorize_consents {params : OAuth2AuthorizeRequest} {at_ : OffsetDateTime}
    (hbegan : .began call (.getAuthorize userId params) at_ ∈ seen.log) :
    consenting.Plays anyEnd (getOauth2Authorize call userId params) seen () := by
  unfold getOauth2Authorize
  split
  · trivial
  · split
    · trivial
    · rename_i clientId hparse
      refine appWithCallback_consents fun seen' app hseen hregistered => ?_
      dsimp only
      split
      · rename_i hfirst
        exact codeRedirect_consents (.inl (by rw [hregistered, hfirst]))
      · refine plays_replyStore fun s others choice r s' hs hinv _ hexec => ?_
        have hsteps := steps_of_store hexec
        refine ⟨(), hinv.step_plain (fun call q hquery => ?_) hsteps, fun e _ => trivial,
          fun (approved : Bool) hr => ?_⟩
        · cases hquery
          exact id
        · have hlater := hseen.trans (hs.trans hsteps.later)
          cases approved with
          | false => exact consentPage_consents (hlater.mem_log hbegan) hparse
          | true =>
            -- the row that was found is one that the user's answer has left
            have happroved : s'.Approved clientId userId := by
              unfold query at hexec
              split at hexec
              · rw [hr] at hexec
                cases hexec
              · simp only [perform, Option.some.injEq, Prod.mk.injEq] at hexec
                obtain ⟨hresult, rfl⟩ := hexec
                rw [hr, Except.ok.injEq] at hresult
                obtain ⟨scope, hscope⟩ := Option.isSome_iff_exists.mp hresult
                exact hinv.approvals _ _ scope hscope
            exact codeRedirect_consents (.inr (.inl happroved))

theorem answerConsent_consents {form : OAuth2ConsentForm} {pending : PendingConsentRow}
    {at_ taken : OffsetDateTime}
    (hbegan : .began call (.consent userId form) at_ ∈ seen.log)
    (hparse : Uuid.parse form.nonce = some nonce)
    (hrow : seen.pendings.issued.lookup nonce = some pending) (hto : seen.IssuedTo nonce pending)
    (htaken : .consentTaken call nonce taken ∈ seen.log) (hlt : taken < pending.expiresAt) :
    consenting.Plays anyEnd (answerConsent call userId form.decision pending) seen () := by
  unfold answerConsent
  split
  · trivial
  · rename_i huser
    refine appWithCallback_consents fun seen' app hseen _ => ?_
    split
    · trivial
    · rename_i happrove
      have happroved : seen.Approved pending.appId userId :=
        ⟨call, form, at_, nonce, pending, taken, hbegan, not_not.mp happrove, hparse, hrow, rfl,
          not_not.mp huser, hto, htaken, hlt⟩
      refine plays_replyStore fun s others choice r s' hs hinv _ hexec => ?_
      have hsteps := steps_of_store hexec
      have happroved' := (happroved.later hseen).later hs
      refine ⟨(), hinv.step_approve happroved' hsteps, fun e _ => trivial, fun _ _ => ?_⟩
      exact codeRedirect_consents (.inr (.inl (happroved'.later hsteps.later)))

theorem postOauth2AuthorizeConsent_consents {form : OAuth2ConsentForm} {at_ : OffsetDateTime}
    (hbegan : .began call (.consent userId form) at_ ∈ seen.log) :
    consenting.Plays anyEnd (postOauth2AuthorizeConsent call userId form) seen () := by
  unfold postOauth2AuthorizeConsent
  split
  · trivial
  · rename_i nonce hparse
    refine plays_replyStore fun s others choice r s' hs hinv _ hexec => ?_
    have hsteps := steps_of_store hexec
    refine ⟨(), hinv.step_plain (fun call q hquery => ?_) hsteps, fun e _ => trivial,
      fun (found : Option PendingConsentRow) hr => ?_⟩
    · cases hquery
      exact id
    · cases found with
      | none => trivial
      | some pending =>
        have hbegan' := (hs.trans hsteps.later).mem_log hbegan
        unfold query at hexec
        split at hexec
        · rw [hr] at hexec
          cases hexec
        · rw [hr] at hexec
          simp only [perform] at hexec
          split at hexec
          · cases hexec
          · rename_i row hrow
            split at hexec
            · cases hexec
            · simp only [Option.some.injEq, Prod.mk.injEq, Except.ok.injEq] at hexec
              obtain ⟨hresult, rfl⟩ := hexec
              split at hresult
              · rename_i hlt
                cases hresult
                have hissued := s.pendings.rows_issued _ _ hrow
                have hto := (hinv.issued nonce _ hissued).later hsteps.later
                exact answerConsent_consents hbegan' hparse
                  (hsteps.later.pendings.issued _ _ hissued) hto List.mem_cons_self hlt
              · cases hresult

theorem postOauth2Authorize_consents {params : OAuth2AuthorizeRequest} {at_ : OffsetDateTime}
    (hbegan : .began call (.postAuthorize userId params) at_ ∈ seen.log) :
    consenting.Plays anyEnd (postOauth2Authorize call userId params) seen () := by
  unfold postOauth2Authorize
  split
  · trivial
  · split
    · trivial
    · refine appWithCallback_consents fun seen' app hseen _ => ?_
      exact codeRedirect_consents (.inr (.inr ⟨userId, params, at_, hseen.mem_log hbegan⟩))

theorem handle_consents {request : Request} {at_ : OffsetDateTime}
    (hbegan : .began call request at_ ∈ seen.log) :
    consenting.Plays anyEnd (handle call request) seen () := by
  cases request with
  | getAuthorize user params => exact getOauth2Authorize_consents hbegan
  | consent user form => exact postOauth2AuthorizeConsent_consents hbegan
  | postAuthorize user params => exact postOauth2Authorize_consents hbegan
  | exchangeCode args =>
    exact consenting_keeps.uses (replyOk_uses (exchangeCode_issuing args) fun _ => trivial)
      fun _ _ _ => trivial
  | refreshToken args =>
    exact consenting_keeps.uses (replyOk_uses (refreshToken_issuing args) fun _ => trivial)
      fun _ _ _ => trivial
  | revokeTokens appId user =>
    exact consenting_keeps.uses (replyOk_uses (revokeTokens_issuing appId user) fun _ => trivial)
      fun _ _ _ => trivial
  | _ =>
    refine consenting_keeps.uses (Calls.Uses.mono (handle_plain ?_) fun _ => Op.Plain.issuing)
      fun _ _ _ => trivial
    trivial

/-- Every request keeps the tables in line with the log. -/
theorem consenting_sound : consenting.Sound anyEnd where
  spawn s roles request hinv _ := by
    refine ⟨(), hinv, plays_serve fun s₁ others choice hs hinv₁ _ hnow => ?_⟩
    have hsteps : Steps choice s₁ (.begin request) _ := .begin request hnow
    refine ⟨(), hinv₁.step_plain (fun call q hquery => by cases hquery) hsteps, ?_⟩
    refine (handle_consents List.mem_cons_self).mono fun seen' o reply _ _ => ?_
    intro t others' choice' ht hinv' _
    have hfinish : Steps choice' t (.finish s₁.calls reply) _ := .finish s₁.calls reply
    exact ⟨(), hinv'.step_plain (fun call q hquery => by cases hquery) hfinish, trivial⟩
  outside _ _ event := event.elim

/-- In every run in which `POST /oauth2/authorize` keeps to the condition, and so at the moment at
which a code for a third-party app is made, its user has approved the app. -/
theorem thirdParty_codes_approved (apps : AppTable) (moves : List (Move Request Choice Empty))
    (hrun : Along provider.program.step approvalRegime.Allows (idle apps) moves) (id : Uuid)
    (code : IssuedCode)
    (hcode : (provider.program.run (idle apps) moves).shared.codes.issued.lookup id = some code)
    (hthird : code.firstParty = false) :
    (provider.program.run (idle apps) moves).shared.ApprovedOnce code.appId code.userId := by
  obtain ⟨_, hinv⟩ := consenting_sound.invariant (Consented.start apps) hrun
  have hconsented : Consented (provider.program.run (idle apps) moves).shared := hinv
  exact (hconsented.codes id code hcode hthird).once hconsented.recorded

end

/-! ## A third-party app -/

def strangerApp : AppTable := oneApp false

/-- The user asks for the page and approves. -/
def approvingRun : List (Move Request Choice Empty) :=
  .spawn (.getAuthorize (uuidOf 7) authorizeParams) ::
    List.replicate 6 (.run 0 (choiceOf 2)) ++
    .spawn (.consent (uuidOf 7) ⟨"00000000000000000000000000000002", "approve"⟩) ::
    List.replicate 9 (.run 1 (choiceOf 3))

def approvingWorld : World :=
  ((@provider utf8Digest anyUrl).program.run (idle strangerApp) approvingRun).shared

/-- No code is made by a `POST`. -/
def withoutPost (op : Op) (w : World) (_ : Choice) : Bool :=
  match op with
  | .store _ (.createCode _) =>
    w.log.all fun
      | .began _ (.postAuthorize _ _) _ => false
      | _ => true
  | _ => true

theorem approvalRegime_of_withoutPost {op : Op} {w : World} {choice : Choice}
    (h : withoutPost op w choice = true) : approvalRegime.call op w choice := by
  rintro call code rfl ⟨user, params, at_, hbegan⟩
  have hall := List.all_eq_true.mp h _ hbegan
  cases hall

theorem approvedCode_approved :
    Along (@provider utf8Digest anyUrl).program.step approvalRegime.Allows (idle strangerApp)
        approvingRun ∧
      ∃ code, approvingWorld.codes.issued.lookup (uuidOf 3) = some code ∧
        code.firstParty = false ∧ approvingWorld.ApprovedOnce code.appId code.userId := by
  have hchecks : Regime.checks (@provider utf8Digest anyUrl) withoutPost (idle strangerApp)
      approvingRun = true := by decide +kernel
  have hrun : Along (@provider utf8Digest anyUrl).program.step approvalRegime.Allows
      (idle strangerApp) approvingRun :=
    Regime.along_of_checks (fun _ _ => trivial) (fun _ _ => trivial)
      (fun _ _ _ => approvalRegime_of_withoutPost) hchecks
  have hcode : (approvingWorld.codes.issued.lookup (uuidOf 3)).any
      (fun code => code.firstParty = false) = true := by decide +kernel
  obtain ⟨code, hcode, hthird⟩ := (Option.any_eq_true _ _).mp hcode
  have hthird : code.firstParty = false := by simpa using hthird
  exact ⟨hrun, code, hcode, hthird,
    @thirdParty_codes_approved utf8Digest anyUrl strangerApp approvingRun hrun (uuidOf 3) code hcode
      hthird⟩

/-! ## The endpoint that does not ask -/

/-- One `POST /oauth2/authorize` of the user for the app, with nothing before it. -/
def postedRun : List (Move Request Choice Empty) :=
  .spawn (.postAuthorize (uuidOf 7) authorizeParams) :: List.replicate 8 (.run 0 (choiceOf 2))

def postedWorld : World :=
  ((@provider utf8Digest anyUrl).program.run (idle strangerApp) postedRun).shared

theorem postedCode_not_approved :
    ∃ code, postedWorld.codes.issued.lookup (uuidOf 2) = some code ∧ code.firstParty = false ∧
      ¬ postedWorld.ApprovedOnce code.appId code.userId := by
  have hcode : (postedWorld.codes.issued.lookup (uuidOf 2)).any
      (fun code => code.firstParty = false) = true := by decide +kernel
  have hlog : postedWorld.log.all (fun e => e.spent = none) = true := by decide +kernel
  obtain ⟨code, hcode, hthird⟩ := (Option.any_eq_true _ _).mp hcode
  refine ⟨code, hcode, by simpa using hthird, ?_⟩
  rintro ⟨call, form, at_, nonce, row, taken, -, -, -, -, -, -, -, htaken, -, -⟩
  have hnone := List.all_eq_true.mp hlog _ htaken
  simp [Event.spent] at hnone

end Coderd.OAuth2
