import Coderd.SingleSignOn.Callbacks

namespace Coderd.SingleSignOn

open Coderd.Foundation Coderd.Auth

variable {lower : String → String}

/-! ## What a session rests on -/

/-- No user has the identity's link, or one has it who may not sign in. -/
def Db.Unclaimed (db : Db lower) (who : Identity) : Prop :=
  (∀ userId, db.links.lookup (userId, who.loginType) ≠ some who.linkedId) ∨
    ∃ userId row, db.links.lookup (userId, who.loginType) = some who.linkedId ∧
      db.users.lookup userId = some row ∧ row.usable = false

/-- How the call has come to the user: by the link of the identity, by the e-mail address where
the link has not led to a user who may sign in, or by creating the user. -/
inductive Found (log : List (Entry lower)) (call : Nat) (who : Identity) (userId : Uuid) :
    Prop where
  | byLinkedId {db : Db lower} {row : UserRow}
      (hentry : ⟨.foundByLinkedId call (some userId), db⟩ ∈ log)
      (hrow : db.users.lookup userId = some row) (husable : row.usable = true)
      (hlink : db.links.lookup (userId, who.loginType) = some who.linkedId)
  | byEmail {db₀ db : Db lower} {found : Option Uuid} {row : UserRow}
      (hfound : ⟨.foundByLinkedId call found, db₀⟩ ∈ log) (hunclaimed : db₀.Unclaimed who)
      (hentry : ⟨.foundByEmail call (some userId), db⟩ ∈ log)
      (hrow : db.users.lookup userId = some row) (husable : row.usable = true)
      (hlogin : row.loginType = who.loginType) (hemail : lower row.email = lower who.email)
  | created {db : Db lower} {row : UserRow} (hentry : ⟨.created call userId, db⟩ ∈ log)
      (hrow : db.users.lookup userId = some row) (husable : row.usable = true)
      (hlogin : row.loginType = who.loginType) (hemail : row.email = who.email)
      (hlink : ∀ loginType, db.links.lookup (userId, loginType) = none)

/-- Another callback has created a user with the e-mail address or the name meanwhile. -/
def LostCreation (log : List (Entry lower)) (call : Nat) : Prop :=
  ∃ db, ⟨.createRefused call, db⟩ ∈ log

/-- What has happened before a session is inserted, with which the tables are `db`. -/
structure Accounted (older : List (Entry lower)) (db : Db lower) (call : Nat) (who : Identity)
    (userId : Uuid) : Prop where
  found : Found older call who userId
  linked : ¬ LostCreation older call → ∃ newer db' oldest,
    older = newer ++ ⟨.linked call userId who.loginType who.linkedId, db'⟩ :: oldest ∧
    (db.links.lookup (userId, who.loginType) = some who.linkedId ∨
      ∃ call' linkedId db'', ⟨.linked call' userId who.loginType linkedId, db''⟩ ∈ newer)

/-- The identity behind a callback. -/
def Callback.identity : Callback → Option Identity
  | github user emails => (githubPrimaryEmail emails).map fun primary =>
    ⟨.github, githubLinkedId user.id, primary.email⟩
  | oidc claims => claims.email.map fun email => ⟨.oidc, oidcLinkedId claims.sub, email⟩

/-- All that a session needs, of each session in the log. -/
def AllAccounted : List (Entry lower) → Prop
  | [] => True
  | entry :: older => AllAccounted older ∧ ∀ call userId, entry.event = .issued call userId →
    ∃ callback db who, ⟨.began call callback, db⟩ ∈ older ∧ callback.identity = some who ∧
      Accounted older entry.db call who userId

theorem AllAccounted.of_append {newer older : List (Entry lower)}
    (h : AllAccounted (newer ++ older)) : AllAccounted older := by
  induction newer with
  | nil => exact h
  | cons entry newer ih => exact ih h.1

theorem Found.mono {log log' : List (Entry lower)} {call : Nat} {who : Identity} {userId : Uuid}
    (h : Found log call who userId) (hsub : ∀ entry ∈ log, entry ∈ log') :
    Found log' call who userId := by
  cases h with
  | byLinkedId hentry hrow husable hlink => exact .byLinkedId (hsub _ hentry) hrow husable hlink
  | byEmail hfound hunclaimed hentry hrow husable hlogin hemail =>
    exact .byEmail (hsub _ hfound) hunclaimed (hsub _ hentry) hrow husable hlogin hemail
  | created hentry hrow husable hlogin hemail hlink =>
    exact .created (hsub _ hentry) hrow husable hlogin hemail hlink

/-! ## What a step can do -/

/-- The events of the steps that neither link a user nor insert a session. -/
def Event.Plain : Event → Prop
  | began _ _ | linked _ _ _ _ | issued _ _ => False
  | _ => True

/-- All that a step can do to the world. -/
inductive Steps (w : World lower) : Op → World lower → Prop where
  | same (op : Op) : Steps w op w
  | begin (callback : Callback) :
      Steps w (.begin callback)
        ({ w with calls := w.calls + 1 }.note (.began w.calls callback))
  | plain {call : Nat} {q : StoreCall} {event : Event} {db : Db lower} (hevent : event.Plain)
      (hlinks : db.links = w.db.links) : Steps w (.store call q) ({ w with db := db }.note event)
  | linked {call : Nat} {userId : Uuid} {loginType : LoginType} {linkedId : String} {db : Db lower}
      (hlinks : db.links = w.db.links.insert (userId, loginType) linkedId) :
      Steps w (.store call (.upsertUserLink userId loginType linkedId))
        ({ w with db := db }.note (.linked call userId loginType linkedId))
  | issued {call : Nat} {tokenHash : List UInt8} {userId : Uuid} {db : Db lower}
      (hlinks : db.links = w.db.links) :
      Steps w (.store call (.insertAuthSession tokenHash userId))
        ({ w with db := db }.note (.issued call userId))

section

variable {w w' : World lower} {call : Nat} {choice : Choice}

theorem Db.links_upsertUserLink {db db' : Db lower} {userId : Uuid} {loginType : LoginType}
    {linkedId : String} (h : db.upsertUserLink? userId loginType linkedId = some db') :
    db'.links = db.links.insert (userId, loginType) linkedId := by
  unfold Db.upsertUserLink? at h
  split at h
  · cases h
    rfl
  · cases h

theorem steps_of_perform {q : StoreCall} {r : Except AppError q.Response}
    (h : perform call choice w q = some (r, w')) : Steps w (.store call q) w' := by
  cases q with
  | findUserByLinkedId loginType linkedId => cases h; exact .plain trivial rfl
  | findActiveUserByEmailAndLoginType email loginType => cases h; exact .plain trivial rfl
  | listOrganizations => cases h; exact .same _
  | createUser input =>
    simp only [perform] at h
    split at h
    · cases h
    · split at h
      · cases h; exact .plain trivial rfl
      · split at h
        · split at h <;> cases h <;> exact .plain trivial rfl
        · cases h; exact .same _
  | upsertUserLink userId loginType linkedId =>
    simp only [perform] at h
    split at h
    · cases h; exact .same _
    · rename_i db hdb
      cases h
      exact .linked (Db.links_upsertUserLink hdb)
  | insertAuthSession tokenHash userId =>
    simp only [perform] at h
    split at h
    · cases h; exact .same _
    · cases h; exact .issued rfl

theorem steps_of_exec {op : Op} {r : op.Response} (h : exec op w choice = some (r, w')) :
    Steps w op w' := by
  cases op with
  | begin callback => cases h; exact .begin callback
  | randomBytes => cases h; exact .same _
  | store call query =>
    simp only [exec] at h
    split at h
    · cases h; exact .same _
    · exact steps_of_perform h

theorem Steps.log {op : Op} (h : Steps w op w') : w.log <:+ w'.log := by
  cases h with
  | same => exact List.suffix_rfl
  | _ => exact List.suffix_cons _ _

end

/-! ## What a response says -/

theorem Db.findUserByLinkedId_spec {db : Db lower} {preferred userId : Uuid}
    {loginType : LoginType} {linkedId : String} {row : UserRow}
    (h : db.findUserByLinkedId preferred loginType linkedId = some (userId, row)) :
    db.links.lookup (userId, loginType) = some linkedId ∧ db.users.lookup userId = some row := by
  obtain ⟨⟨⟨id, type⟩, link⟩, hselect, hmap⟩ := Option.bind_eq_some_iff.mp h
  obtain ⟨row', hrow, heq⟩ := Option.map_eq_some_iff.mp hmap
  obtain ⟨hlookup, htest⟩ := HashMap.selectAny_spec hselect
  cases heq
  simp only [Bool.and_eq_true, decide_eq_true_eq] at htest
  obtain ⟨rfl, rfl⟩ := htest
  exact ⟨hlookup, hrow⟩

theorem Db.findUserByLinkedId_none {db : Db lower} {preferred : Uuid} {loginType : LoginType}
    {linkedId : String} (h : db.findUserByLinkedId preferred loginType linkedId = none)
    (userId : Uuid) : db.links.lookup (userId, loginType) ≠ some linkedId := by
  intro hlink
  cases hselect : db.links.selectAny (preferred, loginType) fun key id =>
      key.2 = loginType && id = linkedId with
  | none =>
    have hnone := HashMap.selectFirst_of_selectAny hselect
    have htest := HashMap.selectFirst_eq_none_iff.mp hnone _ _ hlink
    simp at htest
  | some link =>
    obtain ⟨hlookup, -⟩ := HashMap.selectAny_spec hselect
    obtain ⟨row, hrow⟩ := db.userOfLink link.1 link.2 hlookup
    simp [Db.findUserByLinkedId, hselect, hrow] at h

theorem Db.findActiveUserByEmail_spec {db : Db lower} {preferred userId : Uuid} {email : String}
    {loginType : LoginType} {row : UserRow}
    (h : db.findActiveUserByEmail preferred email loginType = some (userId, row)) :
    db.users.lookup userId = some row ∧ row.usable = true ∧ row.loginType = loginType ∧
      lower row.email = lower email := by
  obtain ⟨hrow, htest⟩ := HashMap.selectAny_spec h
  simp only [Bool.and_eq_true, decide_eq_true_eq, Bool.not_eq_true'] at htest
  obtain ⟨⟨⟨⟨hemail, hlogin⟩, hdeleted⟩, hsystem⟩, hstatus⟩ := htest
  exact ⟨hrow, by simp [UserRow.usable, hdeleted, hsystem, hstatus], hlogin, hemail⟩

section

variable {w w' : World lower} {call : Nat} {choice : Choice}

theorem perform_of_ok {q : StoreCall} {a : q.Response}
    (h : exec (.store call q) w choice = some (.ok a, w')) :
    perform call choice w q = some (.ok a, w') := by
  simp only [exec] at h
  split at h
  · cases h
  · exact h

theorem of_findUserByLinkedId {loginType : LoginType} {linkedId : String}
    {found : Option (Uuid × UserRow)}
    (h : exec (.store call (.findUserByLinkedId loginType linkedId)) w choice =
      some (.ok found, w')) :
    found = w.db.findUserByLinkedId choice.uuid loginType linkedId ∧
      w' = w.note (.foundByLinkedId call (found.map (·.1))) := by
  have h := perform_of_ok h
  cases h
  exact ⟨rfl, rfl⟩

theorem of_findActiveUserByEmail {loginType : LoginType} {email : String}
    {found : Option (Uuid × UserRow)}
    (h : exec (.store call (.findActiveUserByEmailAndLoginType email loginType)) w choice =
      some (.ok found, w')) :
    found = w.db.findActiveUserByEmail choice.uuid email loginType ∧
      w' = w.note (.foundByEmail call (found.map (·.1))) := by
  have h := perform_of_ok h
  cases h
  exact ⟨rfl, rfl⟩

/-- The user is new, so that no identity is linked to it. -/
theorem of_createUser {input : CreateUserInput} {user : Uuid × UserRow}
    (h : exec (.store call (.createUser input)) w choice = some (.ok (some user), w')) :
    ∃ db, ⟨.created call user.1, db⟩ ∈ w'.log ∧ db.users.lookup user.1 = some user.2 ∧
      (user.2.usable = true ↔ input.status = .active) ∧ user.2.loginType = input.loginType ∧
      user.2.email = input.email ∧ ∀ loginType, db.links.lookup (user.1, loginType) = none := by
  have h := perform_of_ok h
  simp only [perform] at h
  split at h
  · cases h
  · rename_i hfresh
    split at h
    · cases h
    · split at h
      · split at h
        · cases h
          refine ⟨_, List.mem_cons_self, ?_, ?_, rfl, rfl, fun loginType => ?_⟩
          · simp [Db.putUser]
          · simp [UserRow.usable]
          · refine Option.eq_none_iff_forall_ne_some.mpr fun linkedId hlink => ?_
            obtain ⟨row, hrow⟩ := w.db.userOfLink (choice.uuid, loginType) linkedId hlink
            simp [hrow] at hfresh
        · cases h
      · cases h

theorem of_createUser_refused {input : CreateUserInput}
    (h : exec (.store call (.createUser input)) w choice = some (.ok none, w')) :
    LostCreation w'.log call := by
  have h := perform_of_ok h
  simp only [perform] at h
  split at h
  · cases h
  · split at h
    · cases h
      exact ⟨_, List.mem_cons_self⟩
    · split at h
      · split at h <;> cases h
      · cases h

theorem of_upsertUserLink {userId : Uuid} {loginType : LoginType} {linkedId : String}
    (h : exec (.store call (.upsertUserLink userId loginType linkedId)) w choice =
      some (.ok (), w')) :
    ∃ db, ⟨.linked call userId loginType linkedId, db⟩ ∈ w'.log := by
  have h := perform_of_ok h
  simp only [perform] at h
  split at h
  · cases h
  · cases h
    exact ⟨_, List.mem_cons_self⟩

end

/-! ## What holds at every moment -/

structure Recorded (w : World lower) : Prop where
  began_lt : ∀ {call : Nat} {callback : Callback} {db : Db lower},
    ⟨.began call callback, db⟩ ∈ w.log → call < w.calls
  began_unique : ∀ {call : Nat} {callback callback' : Callback} {db db' : Db lower},
    ⟨.began call callback, db⟩ ∈ w.log → ⟨.began call callback', db'⟩ ∈ w.log →
      callback = callback'
  current : ∀ {newer older : List (Entry lower)} {db : Db lower} {call : Nat} {userId : Uuid}
    {loginType : LoginType} {linkedId : String},
    w.log = newer ++ ⟨.linked call userId loginType linkedId, db⟩ :: older →
      w.db.links.lookup (userId, loginType) = some linkedId ∨
        ∃ call' linkedId' db', ⟨.linked call' userId loginType linkedId', db'⟩ ∈ newer
  accounted : AllAccounted w.log

namespace Recorded

variable {w w' : World lower}

theorem start (db : Db lower) : Recorded (World.start db) where
  began_lt h := by cases h
  began_unique h := by cases h
  current h := by simp [World.start] at h
  accounted := trivial

theorem outside (h : Recorded w) {db : Db lower} (hlinks : db.links = w.db.links) :
    Recorded { w with db := db } where
  began_lt := h.began_lt
  began_unique := h.began_unique
  current hlog := by
    rw [hlinks]
    exact h.current hlog
  accounted := h.accounted

theorem begin (h : Recorded w) (callback : Callback) :
    Recorded ({ w with calls := w.calls + 1 }.note (.began w.calls callback)) where
  began_lt hmem := by
    cases List.mem_cons.mp hmem with
    | inl heq =>
      cases heq
      exact Nat.lt_succ_self _
    | inr hmem => exact Nat.lt_succ_of_lt (h.began_lt hmem)
  began_unique hmem hmem' := by
    cases List.mem_cons.mp hmem with
    | inl heq =>
      cases heq
      cases List.mem_cons.mp hmem' with
      | inl heq' =>
        cases heq'
        rfl
      | inr hmem' => exact absurd (h.began_lt hmem') (Nat.lt_irrefl _)
    | inr hmem =>
      cases List.mem_cons.mp hmem' with
      | inl heq' =>
        cases heq'
        exact absurd (h.began_lt hmem) (Nat.lt_irrefl _)
      | inr hmem' => exact h.began_unique hmem hmem'
  current {newer _ _ _ _ _ _} hlog := by
    cases newer with
    | nil => cases hlog
    | cons entry newer =>
      obtain ⟨-, hold⟩ := List.cons.inj hlog
      refine (h.current hold).imp id ?_
      rintro ⟨call', linkedId', db', hmem⟩
      exact ⟨call', linkedId', db', List.mem_cons_of_mem _ hmem⟩
  accounted := ⟨h.accounted, fun call userId hevent => by cases hevent⟩

/-- A step of a call. The link of a user is changed by the event that says so alone. -/
theorem push (h : Recorded w) {event : Event} {db : Db lower}
    (hbegan : ∀ call callback, event ≠ .began call callback)
    (hlinked : ∀ call userId loginType linkedId, event = .linked call userId loginType linkedId →
      db.links.lookup (userId, loginType) = some linkedId)
    (hlinks : ∀ userId loginType,
      db.links.lookup (userId, loginType) = w.db.links.lookup (userId, loginType) ∨
        ∃ call linkedId, event = .linked call userId loginType linkedId)
    (haccounted : ∀ call userId, event = .issued call userId →
      ∃ callback db' who, ⟨.began call callback, db'⟩ ∈ w.log ∧ callback.identity = some who ∧
        Accounted w.log db call who userId) :
    Recorded ({ w with db := db }.note event) where
  began_lt hmem :=
    h.began_lt
      ((List.mem_cons.mp hmem).resolve_left fun heq => hbegan _ _ (congrArg Entry.event heq).symm)
  began_unique hmem hmem' :=
    h.began_unique
      ((List.mem_cons.mp hmem).resolve_left fun heq => hbegan _ _ (congrArg Entry.event heq).symm)
      ((List.mem_cons.mp hmem').resolve_left fun heq => hbegan _ _ (congrArg Entry.event heq).symm)
  current {newer _ _ call userId loginType linkedId} hlog := by
    cases newer with
    | nil =>
      obtain ⟨heq, -⟩ := List.cons.inj hlog
      exact .inl (hlinked _ _ _ _ (congrArg Entry.event heq))
    | cons entry newer =>
      obtain ⟨rfl, hold⟩ := List.cons.inj hlog
      obtain hcurrent | ⟨call', linkedId', db', hmem⟩ := h.current hold
      · obtain hsame | ⟨call', linkedId', rfl⟩ := hlinks userId loginType
        · exact .inl (hsame.trans hcurrent)
        · exact .inr ⟨call', linkedId', db, List.mem_cons_self⟩
      · exact .inr ⟨call', linkedId', db', List.mem_cons_of_mem _ hmem⟩
  accounted := ⟨h.accounted, haccounted⟩

theorem plain (h : Recorded w) {event : Event} {db : Db lower} (hevent : event.Plain)
    (hlinks : db.links = w.db.links) : Recorded ({ w with db := db }.note event) := by
  refine h.push ?_ ?_ (fun userId loginType => .inl (by rw [hlinks])) ?_
  · rintro call callback rfl
    exact hevent
  · rintro call userId loginType linkedId rfl
    exact hevent.elim
  · rintro call userId rfl
    exact hevent.elim

theorem step {op : Op} (h : Recorded w) (hsteps : Steps w op w')
    (hop : ∀ call tokenHash userId, op ≠ .store call (.insertAuthSession tokenHash userId)) :
    Recorded w' := by
  cases hsteps with
  | same => exact h
  | begin callback => exact h.begin callback
  | plain hevent hlinks => exact h.plain hevent hlinks
  | @linked call userId loginType linkedId db hlinks =>
    refine h.push (fun _ _ heq => by cases heq) ?_ ?_ fun _ _ heq => by cases heq
    · intro call' userId' loginType' linkedId' heq
      cases heq
      rw [hlinks]
      exact AList.lookup_insert _
    · intro userId' loginType'
      by_cases hkey : (userId', loginType') = (userId, loginType)
      · cases hkey
        exact .inr ⟨_, _, rfl⟩
      · rw [hlinks, HashMap.lookup_insert_ite, if_neg hkey]
        exact .inl rfl
  | issued => exact absurd rfl (hop _ _ _)

end Recorded

/-! ## The calls -/

section

variable [Sha256] {config : Config}

variable (lower config) in
def growth : Growth (callbacks lower config) where
  Later w w' := w.log <:+ w'.log
  refl _ := List.suffix_rfl
  trans h h' := h.trans h'
  exec h := (steps_of_exec h).log
  outside w change := by
    unfold callbacks
    dsimp only
    split <;> exact List.suffix_rfl

variable (lower config) in
def recording : Method (growth lower config) .any Unit := .ofState _ .any Recorded

/-- Every step but the insert of a session. -/
def Op.Quiet (op : Op) : Prop :=
  ∀ call tokenHash userId, op ≠ .store call (.insertAuthSession tokenHash userId)

variable {seen : World lower} {call : Nat} {who : Identity}

theorem recording_keeps : (recording lower config).Keeps Op.Quiet where
  keeps hop hinv _ hexec := Recorded.step hinv (steps_of_exec hexec) hop

theorem await_records {q : StoreCall} {Q : World lower → Unit → Except AppError q.Response → Prop}
    (hq : (Op.store call q).Quiet)
    (h : ∀ s choice r s', seen.log <:+ s.log → exec (.store call q) s choice = some (r, s') →
      Q s' () r) :
    (recording lower config).Plays Q (await call q) seen () :=
  recording_keeps.call hq h

/-- What the lookup finds is an account that the identity may have. -/
theorem findUser_records
    {Q : World lower → Unit → Except AppError (Option (Uuid × UserRow)) → Prop}
    (hends : ∀ w r, seen.log <:+ w.log →
      (∀ user, r = .ok (some user) → Found w.log call who user.1) → Q w () r) :
    (recording lower config).Plays Q
      (findUserByLinkedIdOrEmail call who.loginType who.linkedId who.email) seen () := by
  have hquiet : (Op.store call (.findUserByLinkedId who.loginType who.linkedId)).Quiet :=
    fun _ _ _ h => by cases h
  have hquiet' :
      (Op.store call (.findActiveUserByEmailAndLoginType who.email who.loginType)).Quiet :=
    fun _ _ _ h => by cases h
  refine Method.Plays.bindOk (await_records hquiet fun s choice r s₁ hs hexec =>
    ⟨fun e he => ?_, fun (found : Option (Uuid × UserRow)) hr => ?_⟩)
  · exact hends s₁ _ (hs.trans (steps_of_exec hexec).log) fun user h => by cases h
  · subst hr
    obtain ⟨hfound, rfl⟩ := of_findUserByLinkedId hexec
    have hlater := hs.trans (steps_of_exec hexec).log
    cases hfilter : found.filter (·.2.usable) with
    | some user =>
      obtain ⟨rfl, husable⟩ := Option.filter_eq_some_iff.mp hfilter
      obtain ⟨hlink, hrow⟩ := Db.findUserByLinkedId_spec hfound.symm
      exact hends _ _ hlater fun user' h => by
        cases h
        exact .byLinkedId List.mem_cons_self hrow husable hlink
    | none =>
      have hunclaimed : s.db.Unclaimed who := by
        cases found with
        | none => exact .inl (Db.findUserByLinkedId_none hfound.symm)
        | some user =>
          obtain ⟨hlink, hrow⟩ := Db.findUserByLinkedId_spec hfound.symm
          exact .inr ⟨user.1, user.2, hlink, hrow, by simpa using hfilter⟩
      refine await_records hquiet' fun s₂ choice' r s₃ hs₂ hexec' => ?_
      refine hends s₃ r ((hlater.trans hs₂).trans (steps_of_exec hexec').log) fun user hr => ?_
      subst hr
      obtain ⟨hfound', rfl⟩ := of_findActiveUserByEmail hexec'
      obtain ⟨hrow, husable, hlogin, hemail⟩ := Db.findActiveUserByEmail_spec hfound'.symm
      exact .byEmail (List.mem_cons_of_mem _ (hs₂.mem List.mem_cons_self)) hunclaimed
        List.mem_cons_self hrow husable hlogin hemail

/-- What the session of a user rests on. -/
structure Ready (w : World lower) (call : Nat) (who : Identity) (userId : Uuid) : Prop where
  found : Found w.log call who userId
  linked : LostCreation w.log call ∨
    ∃ db, ⟨.linked call userId who.loginType who.linkedId, db⟩ ∈ w.log

omit [Sha256] in
theorem Ready.mono {w w' : World lower} {userId : Uuid} (h : Ready w call who userId)
    (hlog : w.log <:+ w'.log) : Ready w' call who userId where
  found := h.found.mono fun _ hmem => hlog.mem hmem
  linked := by
    obtain ⟨db, hlost⟩ | ⟨db, hlinked⟩ := h.linked
    · exact .inl ⟨db, hlog.mem hlost⟩
    · exact .inr ⟨db, hlog.mem hlinked⟩

/-- The link of the user whom the call has found. -/
theorem upsertUserLink_records {α : Type} {user : Uuid × UserRow}
    {Q : World lower → Unit → Except AppError α → Prop}
    {next : Unit → Handler α} (hfound : Found seen.log call who user.1)
    (herror : ∀ w e, seen.log <:+ w.log → Q w () (.error e))
    (hnext : ∀ w, seen.log <:+ w.log → Ready w call who user.1 →
      (recording lower config).Plays Q (next ()) w ()) :
    (recording lower config).Plays Q
      ((await call (.upsertUserLink user.1 who.loginType who.linkedId)).bindOk next) seen () := by
  refine Method.Plays.bindOk (await_records (fun _ _ _ h => by cases h)
    fun s choice r s' hs hexec => ⟨fun e he => ?_, fun _ hr => ?_⟩)
  · exact herror s' e (hs.trans (steps_of_exec hexec).log)
  · subst hr
    have hlater := hs.trans (steps_of_exec hexec).log
    exact hnext s' hlater
      ⟨hfound.mono fun _ hmem => hlater.mem hmem, .inr (of_upsertUserLink hexec)⟩

theorem createOauthUserAndLink_records {username name : String}
    {Q : World lower → Unit → Except AppError (Uuid × UserRow) → Prop}
    (hends : ∀ w r, seen.log <:+ w.log → (∀ user, r = .ok user → Ready w call who user.1) →
      Q w () r) :
    (recording lower config).Plays Q (createOauthUserAndLink call who username name)
      seen () := by
  have hfails : ∀ w e, seen.log <:+ w.log → Q w () (.error e) :=
    fun w e hw => hends w _ hw fun user h => by cases h
  refine Method.Plays.bindOk (await_records (fun _ _ _ h => by cases h)
    fun s _ r s₁ hs hexec => ⟨fun e _ => ?_, fun organizations hr => ?_⟩)
  · exact hfails s₁ e (hs.trans (steps_of_exec hexec).log)
  have hlater := hs.trans (steps_of_exec hexec).log
  refine Method.Plays.bindOk (await_records (fun _ _ _ h => by cases h)
    fun s₂ _ r s₃ hs₂ hexec' => ⟨fun e _ => ?_, fun (created : Option (Uuid × UserRow)) hr' => ?_⟩)
  · exact hfails s₃ e ((hlater.trans hs₂).trans (steps_of_exec hexec').log)
  subst hr'
  have hlater' := (hlater.trans hs₂).trans (steps_of_exec hexec').log
  cases created with
  | some user =>
    obtain ⟨db, hentry, hrow, husable, hlogin, hemail, hlink⟩ := of_createUser hexec'
    refine upsertUserLink_records (.created hentry hrow (husable.mpr rfl) hlogin hemail hlink)
      (fun w e hw => hfails w e (hlater'.trans hw)) fun w hw hready => ?_
    exact hends w _ (hlater'.trans hw) fun user' h => by
      cases h
      exact hready
  | none =>
    -- the user has been created by another callback; this one links nobody
    obtain ⟨db, hlost⟩ := of_createUser_refused hexec'
    refine Method.Plays.bindOk (findUser_records fun w r hw hfound => ⟨fun e _ => ?_, ?_⟩)
    · exact hfails w e (hlater'.trans hw)
    · intro found hr'
      cases found with
      | none => exact hfails w _ (hlater'.trans hw)
      | some user =>
        exact hends w _ (hlater'.trans hw) fun user' h => by
          cases h
          exact ⟨hfound user hr', .inl ⟨db, hw.mem hlost⟩⟩

/-- The insert of the session, for a user whom the call has found and linked. -/
theorem insertAuthSession_records {userId : Uuid} {callback : Callback} {db : Db lower}
    {tokenHash : List UInt8} (hbegan : ⟨.began call callback, db⟩ ∈ seen.log)
    (hidentity : callback.identity = some who) (hready : Ready seen call who userId) :
    (recording lower config).Plays (fun _ _ _ => True)
      (await call (.insertAuthSession tokenHash userId)) seen () := by
  intro s others choice r s' hs hinv _ hexec
  have hs : seen.log <:+ s.log := hs
  have hinv : Recorded s := hinv
  refine ⟨(), ?_, trivial⟩
  have hsteps : Steps s (.store call (.insertAuthSession tokenHash userId)) s' :=
    steps_of_exec hexec
  show Recorded s'
  cases hsteps with
  | same => exact hinv
  | plain hevent hlinks => exact hinv.plain hevent hlinks
  | issued hlinks =>
    refine hinv.push (fun _ _ h => by cases h) (fun _ _ _ _ h => by cases h)
      (fun userId loginType => .inl (by rw [hlinks])) fun call' userId' hevent => ?_
    cases hevent
    have hready' := hready.mono hs
    refine ⟨callback, db, who, hs.mem hbegan, hidentity, hready'.found, fun hlost => ?_⟩
    obtain ⟨db', hlinked⟩ := hready'.linked.resolve_left hlost
    obtain ⟨newer, oldest, hlog⟩ := List.append_of_mem hlinked
    exact ⟨newer, db', oldest, hlog, by rw [hlinks]; exact hinv.current hlog⟩

theorem createOauthSession_records {user : Uuid × UserRow} {callback : Callback}
    {db : Db lower} (hbegan : ⟨.began call callback, db⟩ ∈ seen.log)
    (hidentity : callback.identity = some who) (hready : Ready seen call who user.1) :
    (recording lower config).Plays (fun _ _ _ => True) (createOauthSession call user)
      seen () := by
  refine recording_keeps.call (fun _ _ _ h => by cases h)
    fun s _ (bytes : Vector UInt8 32) s₁ hs hexec => ?_
  have hlater : seen.log <:+ s₁.log :=
    (growth lower config).trans hs ((growth lower config).exec hexec)
  refine Method.Plays.bindOk ((insertAuthSession_records (hlater.mem hbegan) hidentity
    (hready.mono hlater)).mono fun _ _ _ _ _ => ⟨fun _ _ => trivial, fun _ _ => trivial⟩)

theorem signIn_records {username name refusal : String} {allowSignups : Bool}
    {callback : Callback} {db : Db lower} (hbegan : ⟨.began call callback, db⟩ ∈ seen.log)
    (hidentity : callback.identity = some who) :
    (recording lower config).Plays (fun _ _ _ => True)
      (signIn call who username name allowSignups refusal) seen () := by
  have hissue : ∀ w user, seen.log <:+ w.log → Ready w call who user.1 →
      (recording lower config).Plays (fun _ _ _ => True)
        ((createOauthSession call user).bindOk fun token => .done (.ok (Reply.session token)))
        w () := by
    intro w user hw hready
    exact Method.Plays.bindOk ((createOauthSession_records (hw.mem hbegan) hidentity hready).mono
      fun _ _ _ _ _ => ⟨fun _ _ => trivial, fun _ _ => trivial⟩)
  refine Method.Plays.bindOk (findUser_records fun w r hw hfound =>
    ⟨fun _ _ => trivial, fun found hr => ?_⟩)
  cases found with
  | some user =>
    exact upsertUserLink_records (hfound user hr) (fun _ _ _ => trivial)
      fun w' hw' hready => hissue w' user (hw.trans hw') hready
  | none =>
    dsimp only
    split
    · refine Method.Plays.bindOk (createOauthUserAndLink_records fun w' r' hw' hready =>
        ⟨fun _ _ => trivial, fun user hr' => ?_⟩)
      exact hissue w' user (hw.trans hw') (hready user hr')
    · trivial

theorem handle_records {callback : Callback} {db : Db lower}
    (hbegan : ⟨.began call callback, db⟩ ∈ seen.log) :
    (recording lower config).Plays (fun _ _ _ => True) (handle config call callback)
      seen () := by
  cases callback with
  | github user emails =>
    unfold handle getGithubOauthCallback
    dsimp only
    split
    · trivial
    · rename_i primary hprimary
      exact signIn_records hbegan (by simp [Callback.identity, hprimary])
  | oidc claims =>
    unfold handle getOidcCallback
    dsimp only
    split
    · trivial
    · rename_i email hemail
      split
      · trivial
      · split
        · exact signIn_records hbegan (by simp [Callback.identity, hemail])
        · trivial

theorem recording_sound :
    (recording lower config).Sound fun _ _ _ => True where
  spawn s roles callback hinv _ := by
    refine ⟨(), hinv, fun s₁ others choice (call : Nat) s' _ hinv₁ _ hexec => ?_⟩
    cases hexec
    exact ⟨(), Recorded.begin hinv₁ callback, handle_records List.mem_cons_self⟩
  outside s roles change hinv _ := by
    unfold callbacks
    dsimp only
    split
    · exact hinv
    · exact Recorded.outside hinv rfl

/-! ## Every run -/

/-- In every run: a session is inserted for a user whom its callback has found by the link of the
identity or by the e-mail address, or has created, who could sign in at that moment; unless the
call has lost the creation of the user to another one, it has linked the user to the identity, and
the link is still that one if no call has linked the user since. -/
theorem sessions_accounted (db : Db lower) (moves : List (Move Callback Choice UserChange))
    (newer older : List (Entry lower)) (call : Nat) (userId : Uuid) (at_ : Db lower)
    (hlog : (after config db moves).log = newer ++ ⟨.issued call userId, at_⟩ :: older)
    (callback : Callback) (began : Db lower)
    (hbegan : ⟨.began call callback, began⟩ ∈ (after config db moves).log) :
    ∃ who, callback.identity = some who ∧ Accounted older at_ call who userId := by
  obtain ⟨roles, hinv⟩ := recording_sound.invariant (Recorded.start db)
    (Regime.any_along (callbacks lower config) { shared := .start db, tasks := [] } moves)
  have hrecorded : Recorded (after config db moves) := hinv
  have hall := hrecorded.accounted
  rw [hlog] at hall
  obtain ⟨callback', db', who, hmem, hidentity, haccounted⟩ :=
    hall.of_append.2 call userId rfl
  have hmem' : ⟨.began call callback', db'⟩ ∈ (after config db moves).log := by
    rw [hlog]
    exact List.mem_append_right _ (List.mem_cons_of_mem _ hmem)
  obtain rfl := hrecorded.began_unique hbegan hmem'
  exact ⟨who, hidentity, haccounted⟩

end

/-! ## Runs on fixed inputs -/

@[reducible] def utf8Digest : Sha256 where
  digest text := text.toUTF8.data.toList

def uuidOf (n : Nat) : Uuid := ⟨BitVec.ofNat 128 n⟩

def choiceOf (n : Nat) : Choice where
  fails := false
  reloads := true
  uuid := uuidOf n
  bytes := Vector.replicate 32 (UInt8.ofNat n)

def openConfig : Config where
  github := { allowSignups := true }
  oidc := {
    allowSignups := true
    ignoreEmailVerified := false
    emailDomain := [] }

/-- One organization and no users. -/
def noUsers : Db fun text => text where
  users := ∅
  links := ∅
  organizations := (∅ : HashMap Uuid OrganizationRow).insert (uuidOf 9) ⟨"coder", true, false⟩
  members := []
  authSessions := ∅
  userOfLink := by simp

/-- A GitHub account with the address that all of them have. -/
def callbackOf (id : Int64) : Callback :=
  .github ⟨id, "dev", none⟩ [⟨"dev@example.com", true, true⟩]

def identityOf (linkedId : String) : Identity := ⟨.github, linkedId, "dev@example.com"⟩

abbrev Moves := List (Move Callback Choice UserChange)

def world (moves : Moves) : World fun text => text := @after _ utf8Digest openConfig noUsers moves

/-- The first account signs up. -/
def signUpRun : Moves := .spawn (callbackOf 1) :: List.replicate 8 (.run 0 (choiceOf 1))

/-- The row of its user. -/
def devRow (status : UserStatus) (deleted : Bool) : UserRow where
  email := "dev@example.com"
  username := "dev"
  name := ""
  loginType := .github
  status := status
  deleted := deleted
  isSystem := false

/-- A second account signs in with the same address. -/
def handoverRun : Moves :=
  signUpRun ++ .spawn (callbackOf 2) :: List.replicate 6 (.run 1 (choiceOf 2))

/-- The user is deleted, and the first account signs in again. -/
def deletedRun : Moves :=
  signUpRun ++ .outside ⟨uuidOf 1, devRow .active true⟩ :: .spawn (callbackOf 1) ::
    List.replicate 8 (.run 1 (choiceOf 2))

/-- The user is suspended between the lookup and the insert of the session. -/
def suspendedRun : Moves :=
  signUpRun ++ .spawn (callbackOf 1) :: List.replicate 3 (.run 1 (choiceOf 2)) ++
    .outside ⟨uuidOf 1, devRow .suspended false⟩ :: List.replicate 2 (.run 1 (choiceOf 2))

/-- The second account links the user between the link and the session of the first one. -/
def overtakenRun : Moves :=
  signUpRun ++ .spawn (callbackOf 1) :: .spawn (callbackOf 2) ::
    List.replicate 3 (.run 1 (choiceOf 2)) ++ List.replicate 6 (.run 2 (choiceOf 3)) ++
    List.replicate 2 (.run 1 (choiceOf 2))

section

variable {lower : String → String} {log : List (Entry lower)} {call : Nat}

def Entry.begins (call : Nat) (who : Identity) (test : Db lower → Bool) (entry : Entry lower) :
    Bool :=
  match entry.event with
  | .began call' callback => call' = call && callback.identity = some who && test entry.db
  | _ => false

def Entry.issues (call : Nat) (userId : Uuid) (test : Db lower → Bool) (entry : Entry lower) :
    Bool :=
  match entry.event with
  | .issued call' userId' => call' = call && userId' = userId && test entry.db
  | _ => false

theorem exists_began {who : Identity} {test : Db lower → Bool}
    (h : log.any (Entry.begins call who test) = true) :
    ∃ callback db, ⟨.began call callback, db⟩ ∈ log ∧ callback.identity = some who ∧
      test db = true := by
  obtain ⟨⟨event, db⟩, hmem, htest⟩ := List.any_eq_true.mp h
  unfold Entry.begins at htest
  split at htest
  · rename_i call' callback heq
    simp only [Bool.and_eq_true, decide_eq_true_eq] at htest
    obtain ⟨⟨rfl, hidentity⟩, hdb⟩ := htest
    obtain rfl : event = .began call' callback := heq
    exact ⟨callback, db, hmem, hidentity, hdb⟩
  · cases htest

theorem exists_issued {userId : Uuid} {test : Db lower → Bool}
    (h : log.any (Entry.issues call userId test) = true) :
    ∃ db, ⟨.issued call userId, db⟩ ∈ log ∧ test db = true := by
  obtain ⟨⟨event, db⟩, hmem, htest⟩ := List.any_eq_true.mp h
  unfold Entry.issues at htest
  split at htest
  · rename_i call' userId' heq
    simp only [Bool.and_eq_true, decide_eq_true_eq] at htest
    obtain ⟨⟨rfl, rfl⟩, hdb⟩ := htest
    obtain rfl : event = .issued call' userId' := heq
    exact ⟨db, hmem, hdb⟩
  · cases htest

end

/-- A session of the call, for an identity and a user of whom `P` holds with the tables that the
call has begun with and those right after the insert. -/
def Signs (moves : Moves) (P : Identity → Uuid → Db (fun text => text) →
    Db (fun text => text) → Prop) : Prop :=
  ∃ call callback began who userId at_, ⟨.began call callback, began⟩ ∈ (world moves).log ∧
    callback.identity = some who ∧ ⟨.issued call userId, at_⟩ ∈ (world moves).log ∧
    P who userId began at_

theorem accounts_change_hands :
    -- a user with another linked id
    Signs handoverRun (fun who userId began _ => ∃ linkedId,
      began.links.lookup (userId, who.loginType) = some linkedId ∧ linkedId ≠ who.linkedId) ∧
    -- an identity whose linked account is deleted
    Signs deletedRun (fun who _ began _ => ∃ userId row,
      began.links.lookup (userId, who.loginType) = some who.linkedId ∧
        began.users.lookup userId = some row ∧ row.deleted = true) ∧
    -- a user who is not active
    Signs suspendedRun (fun _ userId _ at_ => ∃ row,
      at_.users.lookup userId = some row ∧ row.status = .suspended) ∧
    -- a user whose link is another one afterwards
    Signs overtakenRun (fun who userId _ at_ => ∃ linkedId,
      at_.links.lookup (userId, who.loginType) = some linkedId ∧ linkedId ≠ who.linkedId) := by
  refine ⟨?_, ?_, ?_, ?_⟩
  · have hbegins : (world handoverRun).log.any (Entry.begins 1 (identityOf "gh:2")
        fun db => db.links.lookup (uuidOf 1, .github) = some "gh:1") = true := by decide +kernel
    have hissues : (world handoverRun).log.any
        (Entry.issues 1 (uuidOf 1) fun _ => true) = true := by decide +kernel
    obtain ⟨callback, began, hbegan, hidentity, hlink⟩ := exists_began hbegins
    obtain ⟨at_, hissued, -⟩ := exists_issued hissues
    exact ⟨1, callback, began, _, _, at_, hbegan, hidentity, hissued, "gh:1",
      of_decide_eq_true hlink, by decide⟩
  · have hbegins : (world deletedRun).log.any (Entry.begins 1 (identityOf "gh:1")
        fun db => db.links.lookup (uuidOf 1, .github) = some "gh:1" &&
          (db.users.lookup (uuidOf 1)).any (·.deleted)) = true := by decide +kernel
    have hissues : (world deletedRun).log.any (Entry.issues 1 (uuidOf 2) fun _ => true) = true := by
      decide +kernel
    obtain ⟨callback, began, hbegan, hidentity, htest⟩ := exists_began hbegins
    obtain ⟨at_, hissued, -⟩ := exists_issued hissues
    obtain ⟨hlink, hrow⟩ := (Bool.and_eq_true _ _).mp htest
    obtain ⟨row, hrow, hdeleted⟩ := (Option.any_eq_true _ _).mp hrow
    exact ⟨1, callback, began, _, _, at_, hbegan, hidentity, hissued, uuidOf 1, row,
      of_decide_eq_true hlink, hrow, hdeleted⟩
  · have hbegins : (world suspendedRun).log.any (Entry.begins 1 (identityOf "gh:1")
        fun _ => true) = true := by decide +kernel
    have hissues : (world suspendedRun).log.any (Entry.issues 1 (uuidOf 1)
        fun db => (db.users.lookup (uuidOf 1)).any (·.status = .suspended)) = true := by
      decide +kernel
    obtain ⟨callback, began, hbegan, hidentity, -⟩ := exists_began hbegins
    obtain ⟨at_, hissued, htest⟩ := exists_issued hissues
    obtain ⟨row, hrow, hstatus⟩ := (Option.any_eq_true _ _).mp htest
    exact ⟨1, callback, began, _, _, at_, hbegan, hidentity, hissued, row, hrow,
      of_decide_eq_true hstatus⟩
  · have hbegins : (world overtakenRun).log.any (Entry.begins 1 (identityOf "gh:1")
        fun _ => true) = true := by decide +kernel
    have hissues : (world overtakenRun).log.any (Entry.issues 1 (uuidOf 1)
        fun db => db.links.lookup (uuidOf 1, .github) = some "gh:2") = true := by decide +kernel
    obtain ⟨callback, began, hbegan, hidentity, -⟩ := exists_began hbegins
    obtain ⟨at_, hissued, hlink⟩ := exists_issued hissues
    exact ⟨1, callback, began, _, _, at_, hbegan, hidentity, hissued, "gh:2",
      of_decide_eq_true hlink, by decide⟩

theorem handoverRun_accounted :
    ∃ newer older at_, (world handoverRun).log = newer ++ ⟨.issued 1 (uuidOf 1), at_⟩ :: older ∧
      Accounted older at_ 1 (identityOf "gh:2") (uuidOf 1) := by
  have hbegins : (world handoverRun).log.any (Entry.begins 1 (identityOf "gh:2")
      fun _ => true) = true := by decide +kernel
  have hissues : (world handoverRun).log.any (Entry.issues 1 (uuidOf 1) fun _ => true) = true := by
    decide +kernel
  obtain ⟨callback, began, hbegan, hidentity, -⟩ := exists_began hbegins
  obtain ⟨at_, hissued, -⟩ := exists_issued hissues
  obtain ⟨newer, older, hlog⟩ := List.append_of_mem hissued
  obtain ⟨who, hwho, haccounted⟩ := @sessions_accounted _ utf8Digest openConfig noUsers handoverRun
    newer older 1 (uuidOf 1) at_ hlog callback began hbegan
  rw [hidentity] at hwho
  cases hwho
  exact ⟨newer, older, at_, hlog, haccounted⟩

end Coderd.SingleSignOn
