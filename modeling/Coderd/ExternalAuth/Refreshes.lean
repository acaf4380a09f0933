import Coderd.ExternalAuth.Links

namespace Coderd.ExternalAuth

open Coderd.Foundation
open Coderd.CryptoKeys (OffsetDateTime)

/-! ## Tokens that are still to be stored -/

/-- The provider has issued the tokens last, so that it accepts the refresh token. -/
def World.Current (w : World) (key : Key) (tokens : TokenPair) : Prop :=
  (w.issued key).head? = some tokens

/-- The tokens that a call has got for a link and has not stored. -/
abbrev Debt := Option (Key × TokenPair)

/-- The tokens of each link are the current ones, or a call has them to store. -/
def Kept (w : World) (debts : List Debt) : Prop :=
  ∀ key link, w.links.lookup key = some link → w.Current key link.tokens ∨
    ∃ tokens, w.Current key tokens ∧ some (key, tokens) ∈ debts

/-- If the call has tokens to store, it is these. -/
def Debt.Pays (debt : Debt) (key : Key) (tokens : TokenPair) : Prop :=
  debt = none ∨ debt = some (key, tokens)

namespace Kept

variable {w : World} {debts debts' others : List Debt} {debt : Debt} {key : Key}

theorem start (links : HashMap Key ExternalAuthLink) : Kept (World.start links) [] := by
  intro key link hlink
  have hlink : links.lookup key = some link := hlink
  exact .inl (by simp [World.Current, World.start, hlink])

theorem perm (hperm : debts.Perm debts') (h : Kept w debts) : Kept w debts' := by
  intro key link hlink
  refine (h key link hlink).imp_right ?_
  rintro ⟨tokens, hcurrent, hmem⟩
  exact ⟨tokens, hcurrent, hperm.mem_iff.mp hmem⟩

theorem join (h : Kept w debts) : Kept w (none :: debts) := by
  intro key link hlink
  refine (h key link hlink).imp_right ?_
  rintro ⟨tokens, hcurrent, hmem⟩
  exact ⟨tokens, hcurrent, List.mem_cons_of_mem _ hmem⟩

/-- The provider issues new tokens, which the call has to store from then on. -/
theorem issue (h : Kept w (none :: others)) (tokens : TokenPair) :
    Kept { w with issued := Function.update w.issued key (tokens :: w.issued key) }
      (some (key, tokens) :: others) := by
  intro key' link hlink
  by_cases hkey : key' = key
  · subst hkey
    exact .inr ⟨tokens, by simp [World.Current], List.mem_cons_self⟩
  · obtain hcurrent | ⟨tokens', hcurrent, hmem⟩ := h key' link hlink
    · exact .inl (by simpa [World.Current, Function.update_of_ne hkey] using hcurrent)
    · have hother := (List.mem_cons.mp hmem).resolve_left fun heq => by cases heq
      exact .inr ⟨tokens', by simpa [World.Current, Function.update_of_ne hkey] using hcurrent,
        List.mem_cons_of_mem _ hother⟩

/-- The call stores its link. Where the tokens are not the current ones, those that it replaces
must not be either. -/
theorem store {link stored : ExternalAuthLink} (h : Kept w (debt :: others))
    (hdebt : debt.Pays key link.tokens) (hstored : w.links.lookup key = some stored)
    (hkeeps : w.Current key stored.tokens → w.Current key link.tokens) :
    Kept { w with links := w.links.insert key link } (none :: others) := by
  intro key' link' hlink
  change (w.links.insert key link).lookup key' = some link' at hlink
  rw [HashMap.lookup_insert_ite] at hlink
  by_cases hcurrent : w.Current key link.tokens
  · split at hlink
    · rename_i hkey
      cases hlink
      exact .inl (hkey ▸ hcurrent)
    · rename_i hkey
      refine (h key' link' hlink).imp_right ?_
      rintro ⟨tokens, hcurrent', hmem⟩
      refine ⟨tokens, hcurrent', ?_⟩
      cases List.mem_cons.mp hmem with
      | inr hmem => exact List.mem_cons_of_mem _ hmem
      | inl heq =>
        obtain rfl | rfl := hdebt
        · cases heq
        · cases heq
          exact absurd rfl hkey
  · -- the debt of the call is of no use any more; the current tokens are another call's
    have hothers : ∀ key' tokens, w.Current key' tokens → some (key', tokens) ∈ debt :: others →
        some (key', tokens) ∈ none :: others := by
      intro key' tokens hcurrent' hmem
      cases List.mem_cons.mp hmem with
      | inr hmem => exact List.mem_cons_of_mem _ hmem
      | inl heq =>
        obtain rfl | rfl := hdebt
        · cases heq
        · cases heq
          exact absurd hcurrent' hcurrent
    split at hlink
    · rename_i hkey
      subst hkey
      obtain ⟨tokens, hcurrent', hmem⟩ :=
        (h key' stored hstored).resolve_left fun hold => hcurrent (hkeeps hold)
      exact .inr ⟨tokens, hcurrent', hothers _ _ hcurrent' hmem⟩
    · refine (h key' link' hlink).imp_right ?_
      rintro ⟨tokens, hcurrent', hmem⟩
      exact ⟨tokens, hcurrent', hothers _ _ hcurrent' hmem⟩

/-- The call gives up what it had to store. -/
theorem drop {tokens : TokenPair} (h : Kept w (debt :: others)) (hdebt : debt.Pays key tokens)
    (hstored : w.Current key tokens →
      ∀ stored, w.links.lookup key = some stored → w.Current key stored.tokens) :
    Kept w (none :: others) := by
  intro key' link hlink
  obtain hcurrent | ⟨tokens', hcurrent, hmem⟩ := h key' link hlink
  · exact .inl hcurrent
  · cases List.mem_cons.mp hmem with
    | inr hmem => exact .inr ⟨tokens', hcurrent, List.mem_cons_of_mem _ hmem⟩
    | inl heq =>
      obtain rfl | rfl := hdebt
      · cases heq
      · cases heq
        exact .inl (hstored hcurrent link hlink)

end Kept

/-! ## The condition -/

/-- A link that is stored does not replace the current tokens by others, and the store does not
fail to take the current ones where it has others. -/
def KeepsTokens : Op → World → Choice → Prop
  | .upsertExternalAuthLink key link, w, choice =>
    ∀ stored, w.links.lookup key = some stored →
      (choice.fails = false → w.Current key stored.tokens → w.Current key link.tokens) ∧
      (choice.fails = true → w.Current key link.tokens → w.Current key stored.tokens)
  | _, _, _ => True

def keepsTokens : Regime Op World Choice Request Empty where
  call := KeepsTokens
  spawn _ _ := True
  outside _ _ := True

/-! ## The calls -/

section

variable {providers : List ExternalAuthLinkProvider}

/-- There is a link. -/
def World.Has (w : World) (key : Key) : Prop := ∃ link, w.links.lookup key = some link

theorem has_of_exec {op : Op} {w w' : World} {choice : Choice} {r : op.Response} {key : Key}
    (h : exec op w choice = some (r, w')) (hhas : w.Has key) : w'.Has key := by
  cases op with
  | upsertExternalAuthLink key' link =>
    simp only [exec] at h
    split at h
    · cases h
      exact hhas
    · cases h
      obtain ⟨stored, hstored⟩ := hhas
      unfold World.Has
      simp only [HashMap.lookup_insert_ite]
      split
      · exact ⟨link, rfl⟩
      · exact ⟨stored, hstored⟩
  | postRefresh key' refreshToken =>
    simp only [exec, refresh] at h
    split at h
    · cases h
      exact hhas
    · split at h
      · split at h
        · cases h
        · cases h
          exact hhas
      · cases h
        exact hhas
  | nowUtc => cases h; exact hhas
  | listExternalAuthLinks userId =>
    simp only [exec] at h
    split at h <;> cases h <;> exact hhas
  | findExternalAuthLink userId providerId =>
    simp only [exec] at h
    split at h <;> cases h <;> exact hhas
  | validate accessToken => cases h; exact hhas

variable (providers) in
/-- No link is taken away. -/
def growth : Growth (externalAuth providers) where
  Later w w' := ∀ key, w.Has key → w'.Has key
  refl _ _ h := h
  trans h h' key hhas := h' key (h key hhas)
  exec h _ := has_of_exec h
  outside _ _ _ h := h

variable (providers) in
def keeping : Method (growth providers) keepsTokens Debt where
  inv := Kept
  perm := Kept.perm

/-- The calls that neither write nor refresh. -/
def Op.Reads : Op → Prop
  | upsertExternalAuthLink _ _ | postRefresh _ _ => False
  | _ => True

theorem unchanged_of_reads {op : Op} {w w' : World} {choice : Choice} {r : op.Response}
    (hop : op.Reads) (h : exec op w choice = some (r, w')) : w' = w := by
  cases op with
  | upsertExternalAuthLink key link => cases hop
  | postRefresh key refreshToken => cases hop
  | nowUtc => cases h; rfl
  | listExternalAuthLinks userId =>
    simp only [exec] at h
    split at h <;> cases h <;> rfl
  | findExternalAuthLink userId providerId =>
    simp only [exec] at h
    split at h <;> cases h <;> rfl
  | validate accessToken => cases h; rfl

theorem keeping_keeps : (keeping providers).Keeps Op.Reads where
  keeps hop hinv _ hexec := by
    obtain rfl := unchanged_of_reads hop hexec
    exact hinv

/-- The call has nothing to store any more. -/
def Paid {α : Type} (_ : World) (debt : Debt) (_ : α) : Prop := debt = none

variable {seen : World} {debt : Debt} {key : Key} {provider : ExternalAuthLinkProvider}

theorem upsert_keeps {link : ExternalAuthLink} (hdebt : debt.Pays key link.tokens)
    (hhas : seen.Has key) :
    (keeping providers).Plays Paid (.call (.upsertExternalAuthLink key link) .done) seen debt := by
  intro s others choice r s' hs hinv hallowed hexec
  have hexec : exec (.upsertExternalAuthLink key link) s choice = some (r, s') := hexec
  obtain ⟨stored, hstored⟩ := hs key hhas
  obtain ⟨hkeeps, hfails⟩ := hallowed stored hstored
  simp only [exec] at hexec
  split at hexec
  · rename_i hfailed
    cases hexec
    refine ⟨none, hinv.drop hdebt fun hcurrent stored' hstored' => ?_, rfl⟩
    rw [hstored] at hstored'
    cases hstored'
    exact hfails hfailed hcurrent
  · rename_i hfailed
    cases hexec
    exact ⟨none, hinv.store hdebt hstored (hkeeps (by simpa using hfailed)), rfl⟩

/-- What a call has to store after the provider's answer to a refresh. -/
def Refreshed (key : Key) (_ : World) (debt : Debt)
    (answer : Except ProviderError ExternalAuthTokenSet) : Prop :=
  (∀ e, answer = .error e → debt = none) ∧
    ∀ tokens, answer = .ok tokens → debt = some (key, tokens.pair)

theorem refreshToken_keeps {link : ExternalAuthLink} :
    (keeping providers).Plays (Refreshed key) (refreshToken provider key link) seen none := by
  have herror : ∀ w e, Refreshed key w none (.error e) :=
    fun _ _ => ⟨fun _ _ => rfl, fun _ h => by cases h⟩
  have hok : ∀ w (tokens : ExternalAuthTokenSet),
      Refreshed key w (some (key, tokens.pair)) (.ok tokens) := by
    intro w tokens
    refine ⟨fun e h => ?_, fun tokens' h => ?_⟩
    · cases h
    · cases h
      rfl
  unfold refreshToken
  split
  · exact herror _ _
  · split
    · exact herror _ _
    · split
      · exact herror _ _
      · intro s others choice r s' _ hinv _ hexec
        have hexec : refresh s choice key link.refreshToken = some (r, s') := hexec
        unfold refresh at hexec
        split at hexec
        · cases hexec
          exact ⟨none, hinv, herror _ _⟩
        · split at hexec
          · split at hexec
            · cases hexec
            · cases hexec
              exact ⟨_, hinv.issue choice.tokens.pair, hok _ choice.tokens⟩
          · cases hexec
            exact ⟨none, hinv, herror _ _⟩

/-- A refresh that the provider accepts leaves the link with the tokens that are to be stored. -/
theorem Refreshed.pays {w : World} {answer : Except ProviderError ExternalAuthTokenSet}
    (h : Refreshed key w debt answer) (link : ExternalAuthLink) (now : OffsetDateTime) :
    debt.Pays key (link.refreshed now answer).tokens := by
  cases answer with
  | error e => exact .inl (h.1 e rfl)
  | ok tokens => exact .inr (h.2 tokens rfl)

@[simp] theorem tokens_validated (link : ExternalAuthLink) (now : OffsetDateTime)
    (answer : Except ProviderError ExternalAuthValidation) :
    (link.validated now answer).tokens = link.tokens := by
  match answer with
  | .ok _ => rfl
  | .error (.badRequest _) => rfl
  | .error (.internal _) => rfl

theorem validateAndStore_keeps {link : ExternalAuthLink} {now : OffsetDateTime}
    {detail changed : Bool} (hdebt : debt.Pays key link.tokens)
    (hunchanged : changed = false → debt = none) (hhas : seen.Has key) :
    (keeping providers).Plays Paid (validateAndStore provider key link now detail changed) seen
      debt := by
  unfold validateAndStore
  split
  · refine keeping_keeps.call trivial fun s _ answer s' hs hexec => ?_
    have hlater := (growth providers).trans hs ((growth providers).exec hexec)
    exact upsert_keeps (by simpa using hdebt) (hlater key hhas)
  · split
    · exact upsert_keeps hdebt hhas
    · rename_i hchanged
      exact hunchanged (by simpa using hchanged)

theorem reconcileLink_keeps {link : ExternalAuthLink} {detail : Bool} (hhas : seen.Has key) :
    (keeping providers).Plays Paid (reconcileLink provider key link detail) seen none := by
  refine keeping_keeps.call trivial fun s _ (now : OffsetDateTime) s' hs hexec => ?_
  have hhas' := (growth providers).trans hs ((growth providers).exec hexec) key hhas
  split
  · refine Method.Plays.bind (refreshToken_keeps.mono fun w debt answer hw hanswer => ?_)
    exact validateAndStore_keeps (hanswer.pays link now) (fun h => by cases h) (hw key hhas')
  · exact validateAndStore_keeps (.inl rfl) (fun _ => rfl) hhas'

theorem reconcileLinks_keeps {links : List (Key × ExternalAuthLink)}
    (hhas : ∀ e ∈ links, seen.Has e.1) :
    (keeping providers).Plays Paid (reconcileLinks providers links) seen none := by
  induction links generalizing seen with
  | nil => exact rfl
  | cons e rest ih =>
    obtain ⟨key, link⟩ := e
    have hrest : ∀ w, (growth providers).Later seen w → ∀ link' : ExternalAuthLink,
        (keeping providers).Plays Paid ((reconcileLinks providers rest).bindOk fun links =>
          .done (.ok ((key, link') :: links))) w none := by
      intro w hw link'
      refine Method.Plays.bindOk ((ih fun e he => ?_).mono fun w' debt r _ hr =>
        ⟨fun _ _ => hr, fun _ _ => hr⟩)
      exact hw e.1 (hhas e (List.mem_cons_of_mem _ he))
    unfold reconcileLinks
    split
    · refine Method.Plays.bindOk ((reconcileLink_keeps (hhas _ List.mem_cons_self)).mono
        fun w debt r hw hr => ⟨fun _ _ => hr, fun link' _ => ?_⟩)
      obtain rfl : debt = none := hr
      exact hrest w hw link'
    · exact hrest seen ((growth providers).refl seen) link

theorem refreshIfExpiring_keeps {token : ExternalAuthLink} (hhas : seen.Has key) :
    (keeping providers).Plays Paid (refreshIfExpiring provider key token) seen none := by
  refine keeping_keeps.call trivial fun s _ (now : OffsetDateTime) s' hs hexec => ?_
  have hhas' := (growth providers).trans hs ((growth providers).exec hexec) key hhas
  split
  · refine Method.Plays.bind (refreshToken_keeps.mono fun w debt answer hw hanswer => ?_)
    cases answer with
    | error e => exact hanswer.1 e rfl
    | ok tokens =>
      refine keeping_keeps.call trivial fun s₁ _ (now : OffsetDateTime) s₂ hs₁ hexec' => ?_
      have hlater := (growth providers).trans hs₁ ((growth providers).exec hexec')
      exact upsert_keeps (hanswer.pays token now) (hlater key (hw key hhas'))
  · exact rfl

/-- One link, as it is found, under a method that leaves nothing to store. -/
theorem found_keeps {userId : Uuid} {providerId : String}
    {method : ExternalAuthLink → Handler (Except StorageError ExternalAuthLink)}
    (hmethod : ∀ w link, w.Has (userId, providerId) →
      (keeping providers).Plays Paid (method link) w none) :
    (keeping providers).Plays Paid (.call (.findExternalAuthLink userId providerId) fun
      | .error e => .done (.error e)
      | .ok none => .done (.ok none)
      | .ok (some link) => (method link).bindOk fun link' => .done (.ok (some link'))) seen
      none := by
  refine keeping_keeps.call trivial
    fun s choice (r : Except StorageError (Option ExternalAuthLink)) s' _ hexec => ?_
  have hexec : exec (.findExternalAuthLink userId providerId) s choice = some (r, s') := hexec
  match r with
  | .error e => exact rfl
  | .ok none => exact rfl
  | .ok (some link) =>
    simp only [exec] at hexec
    split at hexec
    · cases hexec
    · simp only [Option.some.injEq, Prod.mk.injEq, Except.ok.injEq] at hexec
      obtain ⟨hlink, rfl⟩ := hexec
      exact Method.Plays.bindOk ((hmethod s link ⟨link, hlink⟩).mono
        fun w debt r _ hr => ⟨fun _ _ => hr, fun _ _ => hr⟩)

theorem handle_keeps (request : Request) :
    (keeping providers).Plays Paid (handle providers request) seen none := by
  have hanswer : ∀ {α : Type} {p : Handler α}, (keeping providers).Plays Paid p seen none →
      (keeping providers).Plays Paid (p.bind fun _ => .done ()) seen none :=
    fun hp => Method.Plays.bind (hp.mono fun _ _ _ _ hr => hr)
  cases request with
  | list userId =>
    refine hanswer (keeping_keeps.call trivial
      fun s choice (r : Except StorageError (List (Key × ExternalAuthLink))) s' _ hexec => ?_)
    have hexec : exec (.listExternalAuthLinks userId) s choice = some (r, s') := hexec
    cases r with
    | error e => exact rfl
    | ok links =>
      simp only [exec] at hexec
      split at hexec
      · cases hexec
      · simp only [Option.some.injEq, Prod.mk.injEq, Except.ok.injEq] at hexec
        obtain ⟨rfl, rfl⟩ := hexec
        refine reconcileLinks_keeps fun e he => ?_
        exact ⟨e.2, (HashMap.mem_selectAll.mp he).1⟩
  | get userId providerId =>
    refine hanswer ?_
    unfold get
    split
    · exact rfl
    · exact found_keeps fun _ _ hhas => reconcileLink_keeps hhas
  | refreshIfExpiring userId providerId =>
    refine hanswer ?_
    unfold refreshStored
    split
    · exact rfl
    · exact found_keeps fun _ _ hhas => refreshIfExpiring_keeps hhas

theorem keeping_sound : (keeping providers).Sound Paid where
  spawn _ _ request hinv _ := ⟨none, Kept.join hinv, handle_keeps request⟩
  outside _ _ event := event.elim

/-! ## Every run -/

/-- In every run whose steps meet the condition: once no call is in progress, each link has the
tokens that the provider has issued last. -/
theorem links_stay_current (links : HashMap Key ExternalAuthLink)
    (moves : List (Move Request Choice Empty))
    (hrun : Along (externalAuth providers).program.step keepsTokens.Allows
      { shared := .start links, tasks := [] } moves)
    (hdone : ∀ t ∈ (poolAfter providers links moves).tasks, ∃ a, t = .done a) (key : Key)
    (link : ExternalAuthLink)
    (hlink : (poolAfter providers links moves).shared.links.lookup key = some link) :
    (poolAfter providers links moves).shared.Current key link.tokens := by
  obtain ⟨debts, hcast⟩ := (Method.Cast.start (Kept.start links)).along keeping_sound hrun
  have hkept : Kept (poolAfter providers links moves).shared (debts.map (·.2)) := hcast.inv
  refine (hkept key link hlink).resolve_right ?_
  rintro ⟨tokens, -, hmem⟩
  obtain ⟨role, hrole, heq⟩ := List.mem_map.mp hmem
  obtain ⟨a, hpaid⟩ := hcast.ended hdone role hrole
  have hpaid : role.2 = none := hpaid
  rw [hpaid] at heq
  cases heq

end

/-! ## Runs on fixed inputs -/

def userId : Uuid := ⟨BitVec.ofNat 128 7⟩

def github : ExternalAuthLinkProvider where
  id := "github"
  allowRefresh := true
  noRefresh := false
  allowValidate := true
  tokenUrl := "https://provider.example/token"

def pairOf (n : Nat) : TokenPair := ⟨"access" ++ toString n, "refresh" ++ toString n⟩

def linkOf (n : Nat) (expires : OffsetDateTime) : ExternalAuthLink where
  accessToken := (pairOf n).accessToken
  refreshToken := (pairOf n).refreshToken
  tokenType := "bearer"
  scopes := []
  expires := expires
  authenticated := true
  validateError := ""
  refreshError := ""
  lastValidatedAt := none
  lastRefreshedAt := none
  user := none
  installations := []
  appInstallable := false

/-- One link, which has expired. -/
def oneLink : HashMap Key ExternalAuthLink :=
  (∅ : HashMap Key ExternalAuthLink).insert (userId, "github")
    (linkOf 0 OffsetDateTime.unixEpoch)

/-- A choice with which the provider issues the tokens of that number, valid for an hour. -/
def choiceOf (n : Nat) : Choice where
  fails := false
  now := OffsetDateTime.unixEpoch
  refuses := none
  tokens := {
    accessToken := (pairOf n).accessToken
    refreshToken := (pairOf n).refreshToken
    tokenType := "bearer"
    scopes := []
    expiresAt := OffsetDateTime.within OffsetDateTime.unixEpoch 3600 }
  validation := .ok ⟨true, "", none, [], false⟩

/-- A test that is passed where the tokens that are stored are the current ones. -/
def storesCurrent : Op → World → Choice → Bool
  | .upsertExternalAuthLink key link, w, choice =>
    !choice.fails && decide ((w.issued key).head? = some link.tokens)
  | _, _, _ => true

theorem keepsTokens_of_storesCurrent {op : Op} {w : World} {choice : Choice}
    (h : storesCurrent op w choice = true) : keepsTokens.call op w choice := by
  cases op with
  | upsertExternalAuthLink key link =>
    simp only [storesCurrent, Bool.and_eq_true, Bool.not_eq_true', decide_eq_true_eq] at h
    intro stored _
    exact ⟨fun _ _ => h.2, fun hfails => absurd h.1 (by simp [hfails])⟩
  | _ => trivial

/-- The link is looked at once, and then again. -/
def oneByOneRun : List (Move Request Choice Empty) :=
  .spawn (.get userId "github") :: List.replicate 5 (.run 0 (choiceOf 1)) ++
    .spawn (.list userId) :: List.replicate 4 (.run 1 (choiceOf 2))

theorem oneByOneRun_current :
    Along (externalAuth [github]).program.step keepsTokens.Allows
        { shared := .start oneLink, tasks := [] } oneByOneRun ∧
      (∀ t ∈ (poolAfter [github] oneLink oneByOneRun).tasks, ∃ a, t = .done a) ∧
      ∃ link, (poolAfter [github] oneLink oneByOneRun).shared.links.lookup (userId, "github") =
          some link ∧
        (poolAfter [github] oneLink oneByOneRun).shared.Current (userId, "github") link.tokens := by
  have hchecks : Regime.checks (externalAuth [github]) storesCurrent
      { shared := .start oneLink, tasks := [] } oneByOneRun = true := by decide +kernel
  have hended : (poolAfter [github] oneLink oneByOneRun).tasks.all Calls.isDone = true := by
    decide +kernel
  have hlink : ((poolAfter [github] oneLink oneByOneRun).shared.links.lookup
      (userId, "github")).isSome = true := by decide +kernel
  have hrun : Along (externalAuth [github]).program.step keepsTokens.Allows
      { shared := .start oneLink, tasks := [] } oneByOneRun :=
    Regime.along_of_checks (fun _ _ => trivial) (fun _ _ => trivial)
      (fun _ _ _ => keepsTokens_of_storesCurrent) hchecks
  have hdone : ∀ t ∈ (poolAfter [github] oneLink oneByOneRun).tasks, ∃ a, t = .done a :=
    fun t ht => Calls.isDone_iff.mp (List.all_eq_true.mp hended t ht)
  obtain ⟨link, hlink⟩ := Option.isSome_iff_exists.mp hlink
  exact ⟨hrun, hdone, link, hlink, links_stay_current oneLink oneByOneRun hrun hdone _ link hlink⟩

/-- Two calls find the link; one refreshes it and stores the new tokens, the other is refused and
stores the old ones. -/
def staleRun : List (Move Request Choice Empty) :=
  .spawn (.get userId "github") :: .spawn (.get userId "github") :: .run 1 (choiceOf 2) ::
    List.replicate 5 (.run 0 (choiceOf 1)) ++ List.replicate 4 (.run 1 (choiceOf 2))

theorem staleRun_loses_tokens :
    (∀ t ∈ (poolAfter [github] oneLink staleRun).tasks, ∃ a, t = .done a) ∧
      ∃ link, (poolAfter [github] oneLink staleRun).shared.links.lookup (userId, "github") =
          some link ∧ link.tokens = pairOf 0 ∧
        (poolAfter [github] oneLink staleRun).shared.Current (userId, "github") (pairOf 1) := by
  have hended : (poolAfter [github] oneLink staleRun).tasks.all Calls.isDone = true := by
    decide +kernel
  have hlink : ((poolAfter [github] oneLink staleRun).shared.links.lookup
      (userId, "github")).any (·.tokens = pairOf 0) = true := by decide +kernel
  have hcurrent : ((poolAfter [github] oneLink staleRun).shared.issued (userId, "github")).head? =
      some (pairOf 1) := by decide +kernel
  obtain ⟨link, hlink, htokens⟩ := (Option.any_eq_true _ _).mp hlink
  exact ⟨fun t ht => Calls.isDone_iff.mp (List.all_eq_true.mp hended t ht), link, hlink,
    of_decide_eq_true htokens, hcurrent⟩

end Coderd.ExternalAuth
