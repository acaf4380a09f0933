import Coderd.License.Changes
import Coderd.License.Merging

namespace Coderd.License

open Coderd.Foundation
open CryptoKeys (OffsetDateTime)
open DbAuthz (StorageError)

abbrev Task := Calls LicenseCall CallReply Result

/-- No request is in progress. -/
def Idle (w : Pool World Task) : Prop := ∀ t ∈ w.tasks, t.isDone = true

section

variable {DecodingKey Algorithm : Type} (validator : LicenseValidator DecodingKey Algorithm)
  (now : OffsetDateTime)

/-! ## What is claimed -/

/-- The features that the stored licenses come to. -/
def World.computed (s : World) (key : String) : Option Feature :=
  (refreshEntitlements validator now (selectLicenses s.licenses)).features.lookup key

/-- The features are those that the stored licenses come to. -/
def World.Current (s : World) (entitlements : Entitlements) : Prop :=
  ∀ key, entitlements.features.lookup key = s.computed validator now key

/-- What the snapshot entitles is granted by a license that is stored. -/
def World.NothingLeft (s : World) : Prop :=
  ∀ (name : FeatureName) f, s.entitlements.features.lookup name.asStr = some f →
    f.entitlement ≠ .notEntitled →
    ∃ license ∈ selectLicenses s.licenses, ∃ claims, validator.validate license.jwt = .ok claims ∧
      claims.isExpired now = false ∧ Grants claims now name f

theorem World.Current.nothingLeft {s : World} (h : s.Current validator now s.entitlements) :
    s.NothingLeft validator now := by
  intro name f hf hentitlement
  obtain ⟨best, hbest, hoffered, -⟩ := refreshEntitlements_greatest validator now
    (selectLicenses s.licenses) name
  rw [h, World.computed, hbest] at hf
  obtain rfl := Option.some.inj hf
  exact hoffered.resolve_left fun heq => hentitlement (by rw [heq]; rfl)

/-! ## Where the code keeps up -/

/-- The task is about to list the licenses, or about to put in place what they come to. -/
inductive Settles (s : World) : Task → Prop where
  | lists (next : CallReply .listLicenses → Task) : Settles s (.call .listLicenses next)
  | updates {entitlements : Entitlements}
      (next : CallReply (.updateEntitlements entitlements) → Task)
      (hcurrent : s.Current validator now entitlements) :
    Settles s (.call (.updateEntitlements entitlements) next)

/-- Another task than the `i`th one is about to list the licenses. -/
def ListsLater (w : Pool World Task) (i : Nat) : Prop :=
  ∃ j next, j ≠ i ∧ w.tasks[j]? = some (.call .listLicenses next)

def SettledLater (w : Pool World Task) (i : Nat) : Prop :=
  ∃ j t, j ≠ i ∧ w.tasks[j]? = some t ∧ Settles validator now w.shared t

/-- The change of the table does not change the features. -/
def Unnoticed (s : World) (op : LicenseCall) (drawn : Drawn) : Prop :=
  ∀ r s', s.exec op drawn = some (r, s') → ∀ key, s'.computed validator now key =
    s.computed validator now key

def LicenseCall.byHandler : LicenseCall → Bool
  | .insertLicense .app _ _ => true
  | .deleteLicense .app _ => true
  | _ => false

/-- A snapshot that is put in place is what the stored licenses come to, and a handler changes a
license that makes no difference, unless another task is still to make up for it. -/
structure Permitted (w : Pool World Task) (i : Nat) (drawn : Drawn) (op : LicenseCall) : Prop where
  update : ∀ entitlements, op = .updateEntitlements entitlements →
    w.shared.Current validator now entitlements ∨ SettledLater validator now w i
  handler : op.byHandler = true → Unnoticed validator now w.shared op drawn ∨ ListsLater w i

def Mindful (w : Pool World Task) : Move Request Drawn Empty → Prop
  | .spawn _ => True
  | .run i drawn => ∀ op next, w.tasks[i]? = some (.call op next) →
    Permitted validator now w i drawn op
  | .outside _ => True

/-! ## The programs -/

/-- What comes after a call: a change of the service is followed by a listing, and a listing by an
update. -/
def Follows : (op : LicenseCall) → (CallReply op → Task) → Prop
  | .listLicenses, next => ∀ licenses, ∃ next', next licenses =
    .call (.updateEntitlements (refreshEntitlements validator now licenses)) next'
  | .insertLicense .service _ _, next => ∀ record, ∃ next',
    next (.ok record) = .call .listLicenses next'
  | .deleteLicense .service _, next => ∃ next', next true = .call .listLicenses next'
  | _, _ => True

def Refreshing : Task → Prop
  | .done _ => True
  | .call op next => Follows validator now op next ∧ ∀ r, Refreshing (next r)

variable {validator now}

theorem refreshing_refreshEntitlements (k : Except LicenseServiceError Unit → Result) :
    Refreshing validator now
      ((LicenseService.refreshEntitlements validator now).bind fun r => .done (k r)) :=
  ⟨fun _ => ⟨_, rfl⟩, fun _ => ⟨trivial, fun _ => trivial⟩⟩

theorem refreshing_refreshed {α : Type} (a : α) (k : Except LicenseServiceError α → Result) :
    Refreshing validator now
      (((LicenseService.refreshEntitlements validator now).bindOk fun _ => .done (.ok a)).bind
        fun r => .done (k r)) :=
  ⟨fun _ => ⟨_, rfl⟩, fun _ => ⟨trivial, fun _ => trivial⟩⟩

theorem refreshing_enter (validator : LicenseValidator DecodingKey Algorithm)
    (fromSlice : PayloadFromSlice) (now : OffsetDateTime) (request : Request) :
    Refreshing validator now ((deployment validator fromSlice now).enter request) := by
  cases request with
  | addLicense rawJwt =>
    change Refreshing validator now
      ((LicenseService.addLicense validator now rawJwt).bind fun r => .done (.added r))
    unfold LicenseService.addLicense
    cases validator.validate rawJwt with
    | error e => trivial
    | ok claims =>
      refine ⟨fun record => ⟨_, rfl⟩, fun r => ?_⟩
      cases r with
      | error e => trivial
      | ok record => exact refreshing_refreshed record _
  | deleteLicense id =>
    refine ⟨⟨_, rfl⟩, fun r => ?_⟩
    cases r with
    | false => trivial
    | true => exact refreshing_refreshed true _
  | refreshEntitlements => exact refreshing_refreshEntitlements _
  | postLicense authenticated body =>
    change Refreshing validator now
      ((postLicense fromSlice authenticated body).bind fun r => .done (.responded r))
    unfold postLicense
    split
    · split
      · trivial
      · split
        · trivial
        · split
          · split
            · trivial
            · refine ⟨trivial, fun r => ?_⟩
              cases r with
              | error e => trivial
              | ok record => trivial
          · trivial
    · trivial
  | deleteLicenseHandler authenticated licenseId =>
    change Refreshing validator now
      ((deleteLicenseHandler authenticated licenseId).bind fun r => .done (.responded r))
    unfold deleteLicenseHandler
    split
    · refine ⟨trivial, fun r => ?_⟩
      cases r with
      | false => trivial
      | true => trivial
    · trivial

/-! ## The invariant -/

variable {s s' : World} {w : Pool World Task} {i : Nat} {drawn : Drawn}

theorem Settles.congr (h : ∀ key, s'.computed validator now key = s.computed validator now key)
    {t : Task} (hsettles : Settles validator now s t) : Settles validator now s' t := by
  cases hsettles with
  | lists next => exact .lists next
  | updates next hcurrent => exact .updates next fun key => (hcurrent key).trans (h key).symm

variable (validator now) in
/-- The snapshot is current, or a task is to make it so. -/
structure Tended (w : Pool World Task) : Prop where
  tasks : ∀ t ∈ w.tasks, Refreshing validator now t
  current : w.shared.Current validator now w.shared.entitlements ∨
    ∃ t ∈ w.tasks, Settles validator now w.shared t

theorem tended_start (hs : s.Current validator now s.entitlements) :
    Tended validator now { shared := s, tasks := [] } :=
  ⟨fun _ ht => absurd ht List.not_mem_nil, .inl hs⟩

/-- With no request in progress no task is to do anything. -/
theorem Tended.of_idle (h : Tended validator now w) (hidle : Idle w) :
    w.shared.Current validator now w.shared.entitlements := by
  obtain hcurrent | ⟨t, ht, hsettles⟩ := h.current
  · exact hcurrent
  · have hdone := hidle t ht
    cases hsettles with
    | lists next => cases hdone
    | updates next hcurrent => cases hdone

theorem settles_set {j : Nat} {t t' : Task} (hne : j ≠ i) (ht : w.tasks[j]? = some t)
    (hsettles : Settles validator now s' t) :
    ∃ t ∈ w.tasks.set i t', Settles validator now s' t := by
  refine ⟨t, List.mem_of_getElem? (i := j) ?_, hsettles⟩
  rw [List.getElem?_set_ne hne.symm]
  exact ht

/-- A step that leaves the features as they are, of a task that does not settle anything. -/
theorem Tended.kept (h : Tended validator now w) {op : LicenseCall} {next : CallReply op → Task}
    {t' : Task} (htask : w.tasks[i]? = some (.call op next))
    (hop : ¬ Settles validator now w.shared (.call op next))
    (hentitlements : s'.entitlements = w.shared.entitlements)
    (hsame : ∀ key, s'.computed validator now key = w.shared.computed validator now key) :
    s'.Current validator now s'.entitlements ∨
      ∃ t ∈ w.tasks.set i t', Settles validator now s' t := by
  obtain hcurrent | ⟨t, ht, hsettles⟩ := h.current
  · refine .inl fun key => ?_
    rw [hentitlements, hsame]
    exact hcurrent key
  · obtain ⟨j, hj⟩ := List.mem_iff_getElem?.mp ht
    refine .inr (settles_set ?_ hj (hsettles.congr hsame))
    rintro rfl
    rw [htask] at hj
    cases hj
    exact hop hsettles

theorem settles_own {t' : Task} {t : Task} (htask : w.tasks[i]? = some t)
    (hsettles : Settles validator now s' t') :
    ∃ t ∈ w.tasks.set i t', Settles validator now s' t :=
  ⟨t', List.mem_set (List.getElem?_eq_some_iff.mp htask).1 _, hsettles⟩

/-- The change of a handler. -/
theorem Tended.handled (h : Tended validator now w) {op : LicenseCall}
    {next : CallReply op → Task} {t' : Task} {r : CallReply op}
    (htask : w.tasks[i]? = some (.call op next))
    (hop : ¬ Settles validator now w.shared (.call op next))
    (hpermitted : Unnoticed validator now w.shared op drawn ∨ ListsLater w i)
    (hexec : w.shared.exec op drawn = some (r, s'))
    (hentitlements : s'.entitlements = w.shared.entitlements) :
    s'.Current validator now s'.entitlements ∨
      ∃ t ∈ w.tasks.set i t', Settles validator now s' t := by
  obtain hunnoticed | ⟨j, next', hne, hj⟩ := hpermitted
  · exact h.kept htask hop hentitlements (hunnoticed r s' hexec)
  · exact .inr (settles_set hne hj (.lists next'))

theorem not_settles_insert {handle : Handle} {jwt : String} {claims : ClaimsValue}
    {next : CallReply (.insertLicense handle jwt claims) → Task} :
    ¬ Settles validator now s (.call (.insertLicense handle jwt claims) next) := nofun

theorem not_settles_delete {handle : Handle} {id : Int32}
    {next : CallReply (.deleteLicense handle id) → Task} :
    ¬ Settles validator now s (.call (.deleteLicense handle id) next) := nofun

/-- An insert leaves the snapshot alone, and a failed one the table as well. -/
theorem exec_insert {handle : Handle} {jwt : String} {claims : ClaimsValue}
    {r : Except StorageError LicenseRecord}
    (hexec : s.exec (.insertLicense handle jwt claims) drawn = some (r, s')) :
    s'.entitlements = s.entitlements ∧ (s' = s ∨ ∃ record, r = .ok record) := by
  simp only [World.exec] at hexec
  split at hexec
  · cases hexec
    exact ⟨rfl, .inl rfl⟩
  · split at hexec
    · cases hexec
    · cases hexec
      exact ⟨rfl, .inr ⟨_, rfl⟩⟩

/-- Nothing is deleted where there is no row. -/
theorem erase_of_isNone {licenses : HashMap Int32 LicenseRow} {id : Int32}
    (h : (licenses.lookup id).isSome = false) : licenses.erase id = licenses := by
  have hnone := Option.not_isSome_iff_eq_none.mp (Bool.eq_false_iff.mp h)
  refine AList.ext ?_
  exact List.kerase_of_notMem_keys (AList.lookup_eq_none.mp hnone)

theorem Tended.call (h : Tended validator now w) {op : LicenseCall} {next : CallReply op → Task}
    {r : CallReply op} (htask : w.tasks[i]? = some (.call op next))
    (hpermitted : Permitted validator now w i drawn op)
    (hexec : w.shared.exec op drawn = some (r, s')) :
    s'.Current validator now s'.entitlements ∨
      ∃ t ∈ w.tasks.set i (next r), Settles validator now s' t := by
  have hfollows := (h.tasks _ (List.mem_of_getElem? htask)).1
  match op, next, r with
  | .listLicenses, next, r =>
    cases hexec
    obtain ⟨next', hnext⟩ := hfollows (selectLicenses w.shared.licenses)
    rw [hnext]
    exact .inr (settles_own htask (.updates next' fun key => rfl))
  | .insertLicense .service jwt claims, next, r =>
    obtain ⟨hentitlements, rfl | ⟨record, rfl⟩⟩ := exec_insert hexec
    · exact h.kept htask not_settles_insert rfl fun _ => rfl
    · obtain ⟨next', hnext⟩ := hfollows record
      rw [hnext]
      exact .inr (settles_own htask (.lists next'))
  | .insertLicense .app jwt claims, next, r =>
    exact h.handled htask not_settles_insert (hpermitted.handler rfl) hexec (exec_insert hexec).1
  | .deleteLicense .service id, next, r =>
    cases hexec
    cases hdeleted : (w.shared.licenses.lookup id).isSome with
    | true =>
      obtain ⟨next', hnext⟩ := hfollows
      rw [hnext]
      exact .inr (settles_own htask (.lists next'))
    | false =>
      refine h.kept htask not_settles_delete rfl fun key => ?_
      rw [World.computed, World.computed, erase_of_isNone hdeleted]
  | .deleteLicense .app id, next, r =>
    refine h.handled htask not_settles_delete (hpermitted.handler rfl) hexec ?_
    cases hexec
    rfl
  | .updateEntitlements entitlements, next, r =>
    cases hexec
    obtain hcurrent | ⟨j, t, hne, hj, hsettles⟩ := hpermitted.update entitlements rfl
    · exact .inl hcurrent
    · have hsame : ∀ key, World.computed validator now ⟨w.shared.licenses, entitlements⟩ key =
          w.shared.computed validator now key := fun _ => rfl
      exact .inr (settles_set hne hj (hsettles.congr hsame))

theorem Tended.step {fromSlice : PayloadFromSlice} (h : Tended validator now w)
    {move : Move Request Drawn Empty} (hmindful : Mindful validator now w move) :
    Tended validator now ((deployment validator fromSlice now).program.step w move) := by
  cases move with
  | spawn request =>
    refine ⟨fun t ht => ?_, h.current.imp_right ?_⟩
    · obtain hold | hnew := List.mem_append.mp ht
      · exact h.tasks t hold
      · rw [List.mem_singleton.mp hnew]
        exact refreshing_enter validator fromSlice now request
    · rintro ⟨t, ht, hsettles⟩
      exact ⟨t, List.mem_append_left _ ht, hsettles⟩
  | outside event => cases event
  | run i drawn =>
    obtain ⟨op, next, htask⟩ | hidle := Service.call_or_idle w.tasks i
    · cases hexec : w.shared.exec op drawn with
      | none =>
        rw [Service.step_waits htask hexec]
        exact h
      | some result =>
        rw [Service.step_run htask hexec]
        refine ⟨fun t ht => ?_, h.call htask (hmindful op next htask) hexec⟩
        obtain hold | rfl := List.mem_or_eq_of_mem_set ht
        · exact h.tasks t hold
        · exact (h.tasks _ (List.mem_of_getElem? htask)).2 result.1
    · rw [Service.step_idle _ hidle]
      exact h

end

/-! ## Runs -/

/-- No license is stored, and none is counted. -/
def unlicensed : World where
  licenses := ∅
  entitlements := .newUnlicensed

def oneFiftySeconds : OffsetDateTime := ⟨150 * 10 ^ 9, by decide, by decide⟩

/-- The payloads of the two sample tokens. -/
def samplePayloads : PayloadFromSlice := fun bytes =>
  if some bytes = Base64.decodeUrlSafe ((nineUsersJwt.splitOn ".").getD 1 "") then
    .ok (usersClaims "a" 100 9).toValue
  else if some bytes = Base64.decodeUrlSafe ((fiveUsersJwt.splitOn ".").getD 1 "") then
    .ok (usersClaims "b" 200 5).toValue
  else .error "expected value at line 1 column 1"

def sampleDeployment : Service LicenseCall CallReply Result World Drawn Request Empty :=
  deployment developmentValidator samplePayloads oneFiftySeconds

/-- A license that the service adds. -/
def addNine : List (Move Request Drawn Empty) :=
  [.spawn (.addLicense nineUsersJwt), .run 0 ⟨1, ⟨7⟩⟩, .run 0 ⟨1, ⟨7⟩⟩, .run 0 ⟨1, ⟨7⟩⟩]

def deleteByHandler : List (Move Request Drawn Empty) :=
  [.spawn (.deleteLicenseHandler true 1), .run 1 ⟨1, ⟨7⟩⟩]

/-- Before its snapshot is in place the service deletes the license again. -/
def overtaken : List (Move Request Drawn Empty) :=
  [.spawn (.addLicense nineUsersJwt), .run 0 ⟨1, ⟨7⟩⟩, .run 0 ⟨1, ⟨7⟩⟩,
    .spawn (.deleteLicense 1), .run 1 ⟨1, ⟨7⟩⟩, .run 1 ⟨1, ⟨7⟩⟩, .run 1 ⟨1, ⟨7⟩⟩,
    .run 0 ⟨1, ⟨7⟩⟩]

def afterMoves (moves : List (Move Request Drawn Empty)) : Pool World Task :=
  sampleDeployment.program.run { shared := unlicensed, tasks := [] } moves

/-- No call is in progress and no license is stored, and the snapshot counts one. -/
def CountsDeleted (w : Pool World Task) : Prop :=
  Idle w ∧ w.shared.licenses.keys = [] ∧
    ¬ w.shared.Current developmentValidator oneFiftySeconds w.shared.entitlements

theorem countsDeleted_of_differs {w : Pool World Task}
    (h : (∀ t ∈ w.tasks, t.isDone = true) ∧ w.shared.licenses.keys = [] ∧
      ¬ w.shared.entitlements.features.lookup "user_limit" =
        w.shared.computed developmentValidator oneFiftySeconds "user_limit") :
    CountsDeleted w :=
  ⟨h.1, h.2.1, fun hcurrent => h.2.2 (hcurrent "user_limit")⟩

/-- The service deletes the only license there is. -/
def nineStored : World where
  licenses := AList.insert 1 ⟨⟨7⟩, nineUsersJwt⟩ ∅
  entitlements := refreshEntitlements developmentValidator oneFiftySeconds
    [⟨1, ⟨7⟩, nineUsersJwt⟩]

def deleteByService : List (Move Request Drawn Empty) :=
  [.spawn (.deleteLicense 1), .run 0 ⟨1, ⟨7⟩⟩, .run 0 ⟨1, ⟨7⟩⟩, .run 0 ⟨1, ⟨7⟩⟩]

theorem permitted_of_quiet {w : Pool World Task} {i : Nat} {drawn : Drawn} {op : LicenseCall}
    (hupdate : ∀ entitlements, op ≠ .updateEntitlements entitlements)
    (hhandler : op.byHandler = false) :
    Permitted developmentValidator oneFiftySeconds w i drawn op :=
  ⟨fun entitlements h => absurd h (hupdate entitlements), fun h => by rw [hhandler] at h; cases h⟩

theorem deleteByService_mindful : Along sampleDeployment.program.step
    (Mindful developmentValidator oneFiftySeconds) { shared := nineStored, tasks := [] }
    deleteByService := by
  refine ⟨trivial, ?_, ?_, ?_, trivial⟩
  · intro op next htask
    cases htask
    exact permitted_of_quiet (fun _ h => by cases h) rfl
  · intro op next htask
    cases htask
    exact permitted_of_quiet (fun _ h => by cases h) rfl
  · intro op next htask
    cases htask
    refine ⟨fun entitlements h => ?_, fun h => by cases h⟩
    cases h
    exact .inl fun _ => rfl

end Coderd.License
