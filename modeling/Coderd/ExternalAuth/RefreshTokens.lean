import Coderd.ExternalAuth.Refreshes
import Coderd.ExternalAuth.TokenSets

namespace Coderd.TokenSets

open Coderd.Foundation
open Coderd.CryptoKeys (OffsetDateTime)
open Coderd.ExternalAuth (Key Op Request Handler StorageError ProviderError ExternalAuthLink
  ExternalAuthLinkProvider ExternalAuthTokenSet ExternalAuthValidation isBlank expiresWithin
  needsRefresh needsProactiveRefresh refreshToken validateAndStore reconcileLink reconcileLinks
  refreshIfExpiring refreshStored list get handle)

/-! ## What is promised -/

/-- There is a refresh token to send. -/
def Refreshable (link : ExternalAuthLink) : Prop := isBlank link.refreshToken = false

/-- A run in which the path refreshes the link, the provider's response is successful, and the
store takes the result. -/
structure Refreshes (path : Path) (provider : ExternalAuthLinkProvider) (key : Key)
    (link : ExternalAuthLink) (response : Json) (links : Links)
    (e : Ending Op Links (Except StorageError ExternalAuthLink)) : Prop where
  endpoint : isBlank provider.tokenUrl = false
  successful : Successful response
  stored : ∃ link', e.result = .ok link'
  run : ∃ choices, path.due provider link (choices 0).now = true ∧
    (choices 1).response = .ok response ∧
    (path.program provider key link).alone exec links choices = some e

/-- The link that is stored has the refresh token of the response, or the previous one where the
response has none, and can be refreshed again. -/
def KeepsRefreshToken (key : Key) (link : ExternalAuthLink) (response : Json)
    (e : Ending Op Links (Except StorageError ExternalAuthLink)) : Prop :=
  ∃ link', e.state.lookup key = some link' ∧
    link'.refreshToken = (stringField response "refresh_token").getD link.refreshToken ∧
    Refreshable link'

/-- The response has a refresh token that is not blank. -/
def GivesRefreshToken (response : Json) : Prop :=
  ∃ token, stringField response "refresh_token" = some token ∧ isBlank token = false

/-- Every successful response to a refresh has such a token. -/
def GivesTokens : Op → Links → Choice → Prop
  | .postRefresh _ _, _, choice =>
    ∀ response, choice.response = .ok response → Successful response → GivesRefreshToken response
  | _, _, _ => True

def givesTokens : Regime Op Links Choice Request Empty where
  call := GivesTokens
  spawn _ _ := True
  outside _ _ := True

/-! ## One refresh -/

section

variable {provider : ExternalAuthLinkProvider} {key : Key} {link : ExternalAuthLink}
  {now : OffsetDateTime} {links : Links}

/-- A refresh that is due gets to the provider's endpoint. -/
theorem refreshToken_eq {secs : ℤ} (hdue : expiresWithin secs provider link now = true)
    (hendpoint : isBlank provider.tokenUrl = false) :
    refreshToken provider key link = .call (.postRefresh key link.refreshToken) .done := by
  unfold expiresWithin at hdue
  simp only [Bool.and_eq_true, Bool.not_eq_true', Bool.or_eq_false_iff] at hdue
  obtain ⟨⟨⟨hno, hallow⟩, htoken⟩, -⟩ := hdue
  simp [refreshToken, hno, hallow, hendpoint, htoken]

/-- The store has the link that is returned, with that refresh token. -/
def StoresToken (key : Key) (token : String) (r : Except StorageError ExternalAuthLink)
    (links : Links) : Prop :=
  ∀ link, r = .ok link → links.lookup key = some link ∧ link.refreshToken = token

theorem upsert_ensures (link : ExternalAuthLink) :
    (.call (.upsertExternalAuthLink key link) .done :
      Handler (Except StorageError ExternalAuthLink)).Ensures exec
        (StoresToken key link.refreshToken) links := by
  intro choice r links' hexec link' hr
  subst hr
  simp only [exec] at hexec
  split at hexec
  · cases hexec
  · cases hexec
    exact ⟨AList.lookup_insert _, rfl⟩

theorem refreshToken_validated (link : ExternalAuthLink) (now : OffsetDateTime)
    (answer : Except ProviderError ExternalAuthValidation) :
    (link.validated now answer).refreshToken = link.refreshToken := by
  match answer with
  | .ok _ => rfl
  | .error (.badRequest _) => rfl
  | .error (.internal _) => rfl

/-- What is left of `reconcile_link` after the refresh does not change the refresh token. -/
theorem validateAndStore_ensures (link : ExternalAuthLink) {detail : Bool} :
    (validateAndStore provider key link now detail true).Ensures exec
      (StoresToken key link.refreshToken) links := by
  unfold validateAndStore
  split
  · intro choice answer links' _
    rw [← refreshToken_validated link now answer]
    exact upsert_ensures (link.validated now answer)
  · exact upsert_ensures link

/-- What follows of the refresh that the provider has accepted. -/
def Path.rest (provider : ExternalAuthLinkProvider) (key : Key) (link : ExternalAuthLink)
    (now : OffsetDateTime) (tokens : ExternalAuthTokenSet) :
    Path → Handler (Except StorageError ExternalAuthLink)
  | .reconcile detail =>
    validateAndStore provider key (link.refreshed now (.ok tokens)) now detail true
  | .proactive =>
    .call .nowUtc fun (now : OffsetDateTime) =>
      .call (.upsertExternalAuthLink key (link.refreshed now (.ok tokens))) .done

theorem rest_ensures {tokens : ExternalAuthTokenSet} (path : Path) :
    (path.rest provider key link now tokens).Ensures exec (StoresToken key tokens.refreshToken)
      links := by
  cases path with
  | reconcile detail => exact validateAndStore_ensures (link.refreshed now (.ok tokens))
  | proactive => exact fun choice now links' _ => upsert_ensures (link.refreshed now (.ok tokens))

theorem program_eq {path : Path} {tokens : ExternalAuthTokenSet} {choices : ℕ → Choice}
    (hdue : path.due provider link (choices 0).now = true)
    (hendpoint : isBlank provider.tokenUrl = false)
    (hanswer : (choices 1).response.bind (parseTokenSet (choices 1).now (choices 1).later) =
      .ok tokens) :
    (path.program provider key link).alone exec links choices =
      ((path.rest provider key link (choices 0).now tokens).alone exec links
        fun n => choices (n + 2)).map fun e =>
          e.after [.nowUtc, .postRefresh key link.refreshToken] := by
  have hpost : exec (.postRefresh key link.refreshToken) links (choices 1) =
      some (.ok tokens, links) := congrArg (fun answer => some (answer, links)) hanswer
  cases path with
  | reconcile detail =>
    have hdue' : needsRefresh provider link (choices 0).now = true := hdue
    rw [Path.program, reconcileLink, Calls.alone_call rfl]
    simp only [hdue', if_true, refreshToken_eq hdue' hendpoint, Calls.bind]
    rw [Calls.alone_call hpost, Option.map_map]
    rfl
  | proactive =>
    have hdue' : needsProactiveRefresh provider link (choices 0).now = true := hdue
    rw [Path.program, refreshIfExpiring, Calls.alone_call rfl]
    simp only [hdue', if_true, refreshToken_eq hdue' hendpoint, Calls.bind]
    rw [Calls.alone_call hpost, Option.map_map]
    rfl

/-- A refresh keeps the refresh token exactly if the response has one. -/
theorem keeps_iff {path : Path} {response : Json}
    {e : Ending Op Links (Except StorageError ExternalAuthLink)}
    (h : Refreshes path provider key link response links e) :
    KeepsRefreshToken key link response e ↔ GivesRefreshToken response := by
  obtain ⟨hendpoint, hsuccessful, ⟨link', hresult⟩, choices, hdue, hresponse, hrun⟩ := h
  obtain ⟨tokens, hparse⟩ := successful_iff.mp hsuccessful
  have hanswer : (choices 1).response.bind (parseTokenSet (choices 1).now (choices 1).later) =
      .ok tokens := by
    rw [hresponse]
    exact hparse
  rw [program_eq hdue hendpoint hanswer] at hrun
  obtain ⟨e', hrest, rfl⟩ := Option.map_eq_some_iff.mp hrun
  obtain ⟨hlookup, htoken⟩ := (rest_ensures path).alone hrest link' hresult
  rw [refreshToken_of_parse hparse] at htoken
  constructor
  · rintro ⟨stored, hstored, hpromised, hrefreshable⟩
    have hlookup' : e'.state.lookup key = some stored := hstored
    rw [hlookup] at hlookup'
    cases hlookup'
    rw [Refreshable, htoken] at hrefreshable
    cases hfield : stringField response "refresh_token" with
    | none =>
      rw [hfield] at hrefreshable
      cases hrefreshable
    | some token =>
      rw [hfield] at hrefreshable
      exact ⟨token, hfield, hrefreshable⟩
  · rintro ⟨token, hfield, hblank⟩
    rw [hfield] at htoken
    refine ⟨link', hlookup, ?_, ?_⟩
    · rw [hfield]
      exact htoken
    · rw [Refreshable, htoken]
      exact hblank

end

/-! ## Every run -/

section

variable {providers : List ExternalAuthLinkProvider} {initial : Links}

/-- The links that could be refreshed at first still can be. -/
def Kept (initial links : Links) : Prop :=
  ∀ key link, initial.lookup key = some link → Refreshable link →
    ∃ link', links.lookup key = some link' ∧ Refreshable link'

/-- A link that a call holds can be refreshed if the one of its key could be at first. -/
def Holds (initial : Links) (key : Key) (link : ExternalAuthLink) : Prop :=
  ∀ link₀, initial.lookup key = some link₀ → Refreshable link₀ → Refreshable link

theorem Kept.holds {links : Links} (h : Kept initial links) {key : Key} {link : ExternalAuthLink}
    (hlink : links.lookup key = some link) : Holds initial key link := by
  intro link₀ hfirst hrefreshable
  obtain ⟨link', hlink', hrefreshable'⟩ := h key link₀ hfirst hrefreshable
  rw [hlink] at hlink'
  cases hlink'
  exact hrefreshable'

theorem Kept.insert {links : Links} (h : Kept initial links) {key : Key} {link : ExternalAuthLink}
    (hlink : Holds initial key link) : Kept initial (links.insert key link) := by
  intro key' link₀ hfirst hrefreshable
  rw [HashMap.lookup_insert_ite]
  split
  · rename_i hkey
    subst hkey
    exact ⟨link, rfl, hlink link₀ hfirst hrefreshable⟩
  · exact h key' link₀ hfirst hrefreshable

variable (providers) in
def growth : Growth (externalAuth providers) where
  Later _ _ := True
  refl _ := trivial
  trans _ _ := trivial
  exec _ := trivial
  outside _ _ := trivial

variable (providers initial) in
def keeping : Method (growth providers) givesTokens Unit :=
  .ofState (growth providers) givesTokens (Kept initial)

def Op.Upserts : Op → Prop
  | .upsertExternalAuthLink _ _ => True
  | _ => False

theorem unchanged_of_exec {op : Op} {links links' : Links} {choice : Choice} {r : op.Response}
    (hop : ¬ Op.Upserts op) (h : exec op links choice = some (r, links')) : links' = links := by
  cases op with
  | upsertExternalAuthLink key link => exact absurd trivial hop
  | listExternalAuthLinks userId =>
    simp only [exec] at h
    split at h <;> cases h <;> rfl
  | findExternalAuthLink userId providerId =>
    simp only [exec] at h
    split at h <;> cases h <;> rfl
  | _ =>
    cases h
    rfl

/-- Whatever it returns. -/
def Returns {α : Type} (_ : Links) (_ : Unit) (_ : α) : Prop := True

variable {provider : ExternalAuthLinkProvider} {key : Key} {link : ExternalAuthLink}
  {now : OffsetDateTime} {seen : Links}

/-- A call that is not an upsert leaves the links as they are. -/
theorem plays_read {α : Type} {Q : Links → Unit → α → Prop} {op : Op}
    {next : op.Response → Handler α} (hop : ¬ Op.Upserts op) (hnext : ∀ s choice r, Kept initial s → GivesTokens op s choice →
      exec op s choice = some (r, s) → (keeping providers initial).Plays Q (next r) s ()) :
    (keeping providers initial).Plays Q (.call op next) seen () := by
  intro s others choice r s' _ hinv hallowed hexec
  obtain rfl := unchanged_of_exec hop hexec
  exact ⟨(), hinv, hnext s' choice r hinv hallowed hexec⟩

theorem upsert_plays (hlink : Holds initial key link) :
    (keeping providers initial).Plays Returns (.call (.upsertExternalAuthLink key link) .done) seen
      () := by
  intro s others choice r s' _ hinv _ hexec
  have hexec : exec (.upsertExternalAuthLink key link) s choice = some (r, s') := hexec
  simp only [exec] at hexec
  split at hexec
  · cases hexec
    exact ⟨(), hinv, trivial⟩
  · cases hexec
    exact ⟨(), hinv.insert hlink, trivial⟩

/-- What the provider hands out can be sent back. -/
theorem refreshToken_plays :
    (keeping providers initial).Plays
      (fun _ _ answer => ∀ tokens, answer = .ok tokens → isBlank tokens.refreshToken = false)
      (refreshToken provider key link) seen () := by
  unfold refreshToken
  split
  · exact fun tokens h => nomatch h
  · split
    · exact fun tokens h => nomatch h
    · split
      · exact fun tokens h => nomatch h
      · refine plays_read (fun h => h) fun s choice answer _ hallowed hexec tokens hanswer => ?_
        have hbind : choice.response.bind (parseTokenSet choice.now choice.later) = .ok tokens := by
          rw [← hanswer]
          exact congrArg Prod.fst (Option.some.inj hexec)
        cases hresponse : choice.response with
        | error error =>
          rw [hresponse] at hbind
          cases hbind
        | ok response =>
          rw [hresponse] at hbind
          obtain ⟨token, hfield, hblank⟩ :=
            hallowed response hresponse (successful_iff.mpr ⟨tokens, hbind⟩)
          rw [refreshToken_of_parse hbind, hfield]
          exact hblank

/-- A refresh that fails leaves the refresh token, one that succeeds has a new one. -/
theorem Holds.refreshed (h : Holds initial key link)
    {answer : Except ProviderError ExternalAuthTokenSet}
    (hanswer : ∀ tokens, answer = .ok tokens → isBlank tokens.refreshToken = false) :
    Holds initial key (link.refreshed now answer) := by
  intro link₀ hfirst hrefreshable
  match answer with
  | .ok tokens => exact hanswer tokens rfl
  | .error (.badRequest detail) => exact h link₀ hfirst hrefreshable
  | .error (.internal detail) => exact h link₀ hfirst hrefreshable

theorem Holds.validated (h : Holds initial key link)
    (answer : Except ProviderError ExternalAuthValidation) :
    Holds initial key (link.validated now answer) := by
  intro link₀ hfirst hrefreshable
  rw [Refreshable, refreshToken_validated]
  exact h link₀ hfirst hrefreshable

theorem validateAndStore_plays {detail changed : Bool} (hlink : Holds initial key link) :
    (keeping providers initial).Plays Returns
      (validateAndStore provider key link now detail changed) seen () := by
  unfold validateAndStore
  split
  · exact plays_read (fun h => h) fun s choice answer _ _ _ => upsert_plays (hlink.validated answer)
  · split
    · exact upsert_plays hlink
    · trivial

theorem reconcileLink_plays {detail : Bool} (hlink : Holds initial key link) :
    (keeping providers initial).Plays Returns (reconcileLink provider key link detail) seen () := by
  refine plays_read (fun h => h) fun s choice (now : OffsetDateTime) _ _ _ => ?_
  split
  · exact Method.Plays.bind (refreshToken_plays.mono fun w _ answer _ hanswer =>
      validateAndStore_plays (hlink.refreshed hanswer))
  · exact validateAndStore_plays hlink

theorem refreshIfExpiring_plays (hlink : Holds initial key link) :
    (keeping providers initial).Plays Returns (refreshIfExpiring provider key link) seen () := by
  refine plays_read (fun h => h) fun s choice (now : OffsetDateTime) _ _ _ => ?_
  split
  · refine Method.Plays.bind (refreshToken_plays.mono fun w _ answer _ hanswer => ?_)
    cases answer with
    | error e => trivial
    | ok tokens =>
      exact plays_read (fun h => h) fun s' choice' now' _ _ _ =>
        upsert_plays (hlink.refreshed hanswer)
  · trivial

theorem reconcileLinks_plays {links : List (Key × ExternalAuthLink)}
    (hlinks : ∀ e ∈ links, Holds initial e.1 e.2) :
    (keeping providers initial).Plays Returns (reconcileLinks providers links) seen () := by
  induction links generalizing seen with
  | nil => trivial
  | cons e rest ih =>
    obtain ⟨key, link⟩ := e
    obtain ⟨hlink, hrest⟩ := List.forall_mem_cons.mp hlinks
    have hgoes : ∀ (link' : ExternalAuthLink) w, (keeping providers initial).Plays Returns
        ((reconcileLinks providers rest).bindOk fun links => .done (.ok ((key, link') :: links))) w
        () :=
      fun _ _ => Method.Plays.bindOk ((ih hrest).mono fun _ _ _ _ _ =>
        ⟨fun _ _ => trivial, fun _ _ => trivial⟩)
    unfold reconcileLinks
    split
    · exact Method.Plays.bindOk ((reconcileLink_plays hlink).mono fun w _ _ _ _ =>
        ⟨fun _ _ => trivial, fun link' _ => hgoes link' w⟩)
    · exact hgoes link seen

/-- One link, as it is found. -/
theorem found_plays {userId : Uuid} {providerId : String}
    {method : ExternalAuthLink → Handler (Except StorageError ExternalAuthLink)}
    (hmethod : ∀ w link, Holds initial (userId, providerId) link →
      (keeping providers initial).Plays Returns (method link) w ()) :
    (keeping providers initial).Plays Returns (.call (.findExternalAuthLink userId providerId) fun
      | .error e => .done (.error e)
      | .ok none => .done (.ok none)
      | .ok (some link) => (method link).bindOk fun link' => .done (.ok (some link'))) seen () := by
  refine plays_read (fun h => h)
    fun s choice (r : Except StorageError (Option ExternalAuthLink)) hinv _ hexec => ?_
  have hexec : exec (.findExternalAuthLink userId providerId) s choice = some (r, s) := hexec
  match r with
  | .error e => trivial
  | .ok none => trivial
  | .ok (some link) =>
    simp only [exec] at hexec
    split at hexec
    · cases hexec
    · simp only [Option.some.injEq, Prod.mk.injEq, Except.ok.injEq, and_true] at hexec
      exact Method.Plays.bindOk ((hmethod s link (hinv.holds hexec)).mono
        fun _ _ _ _ _ => ⟨fun _ _ => trivial, fun _ _ => trivial⟩)

theorem handle_plays (request : Request) :
    (keeping providers initial).Plays Returns (handle providers request) seen () := by
  have hanswer : ∀ {α : Type} {p : Handler α}, (keeping providers initial).Plays Returns p seen () →
      (keeping providers initial).Plays Returns (p.bind fun _ => .done ()) seen () :=
    fun hp => Method.Plays.bind (hp.mono fun _ _ _ _ _ => trivial)
  cases request with
  | list userId =>
    refine hanswer (plays_read (fun h => h)
      fun s choice (r : Except StorageError (List (Key × ExternalAuthLink))) hinv _ hexec => ?_)
    have hexec : exec (.listExternalAuthLinks userId) s choice = some (r, s) := hexec
    cases r with
    | error e => trivial
    | ok links =>
      simp only [exec] at hexec
      split at hexec
      · cases hexec
      · simp only [Option.some.injEq, Prod.mk.injEq, Except.ok.injEq, and_true] at hexec
        subst hexec
        exact reconcileLinks_plays fun e he => hinv.holds (HashMap.mem_selectAll.mp he).1
  | get userId providerId =>
    refine hanswer ?_
    unfold ExternalAuth.get
    split
    · trivial
    · exact found_plays fun _ _ hlink => reconcileLink_plays hlink
  | refreshIfExpiring userId providerId =>
    refine hanswer ?_
    unfold refreshStored
    split
    · trivial
    · exact found_plays fun _ _ hlink => refreshIfExpiring_plays hlink

theorem keeping_sound : (keeping providers initial).Sound Returns where
  spawn _ _ request hinv _ := ⟨(), hinv, handle_plays request⟩
  outside _ _ event := event.elim

/-- In every run in which the providers give refresh tokens, the links stay refreshable. -/
theorem kept_along (moves : List (Move Request Choice Empty))
    (hrun : Along (externalAuth providers).program.step givesTokens.Allows
      { shared := initial, tasks := [] } moves) :
    Kept initial (linksAfter providers initial moves) := by
  have hstart : Kept initial initial := fun _ link hlink hrefreshable => ⟨link, hlink, hrefreshable⟩
  have hsound : (keeping providers initial).Sound Returns := keeping_sound
  obtain ⟨roles, hkept⟩ := hsound.invariant hstart hrun
  exact hkept

/-- A refresh by either path keeps the refresh token exactly if the response has one that is not
blank; and in every run in which all responses have one, the links stay refreshable. -/
theorem refresh_tokens_kept_iff (providers : List ExternalAuthLinkProvider) (initial : Links) :
    (∀ (path : Path) provider key link response links e,
      Refreshes path provider key link response links e →
        (KeepsRefreshToken key link response e ↔ GivesRefreshToken response)) ∧
    ∀ moves : List (Move Request Choice Empty),
      Along (externalAuth providers).program.step givesTokens.Allows
        { shared := initial, tasks := [] } moves →
      Kept initial (linksAfter providers initial moves) :=
  ⟨fun _ _ _ _ _ _ _ h => keeps_iff h, fun moves hrun => kept_along moves hrun⟩

end

/-! ## A response without a refresh token -/

/-- Tokens that are valid for an hour, as a provider responds that does not rotate refresh
tokens. -/
def accessOnly : Json :=
  .object [("access_token", .string "access1"), ("expires_in", .integer 3600)]

def responding (response : Json) : Choice where
  fails := false
  now := .unixEpoch
  later := .unixEpoch
  response := .ok response
  validation := .ok ⟨true, "", none, [], false⟩

def githubKey : Key := (ExternalAuth.userId, "github")

def expiredLink : ExternalAuthLink := ExternalAuth.linkOf 0 .unixEpoch

/-- The link had a refresh token, and has none after the refresh. -/
theorem accessOnly_loses_token :
    Refreshable expiredLink ∧
      ∃ e, Refreshes (.reconcile true) ExternalAuth.github githubKey expiredLink accessOnly
          ExternalAuth.oneLink e ∧
        (e.state.lookup githubKey).map (·.refreshToken) = some "" ∧
        ¬ KeepsRefreshToken githubKey expiredLink accessOnly e := by
  have hrefreshes : ∃ e, Refreshes (.reconcile true) ExternalAuth.github githubKey expiredLink
      accessOnly ExternalAuth.oneLink e ∧
        (e.state.lookup githubKey).map (·.refreshToken) = some "" :=
    ⟨_, ⟨by decide +kernel, by decide +kernel, ⟨_, rfl⟩, fun _ => responding accessOnly,
      by decide +kernel, rfl, rfl⟩, by decide +kernel⟩
  obtain ⟨e, hrefreshes, hlost⟩ := hrefreshes
  refine ⟨by unfold Refreshable; decide +kernel, e, hrefreshes, hlost, fun hkeeps => ?_⟩
  obtain ⟨token, hfield, -⟩ := (keeps_iff hrefreshes).mp hkeeps
  have hnone : stringField accessOnly "refresh_token" = none := by decide +kernel
  rw [hnone] at hfield
  cases hfield

end Coderd.TokenSets
