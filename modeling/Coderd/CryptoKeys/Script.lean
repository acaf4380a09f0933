import Coderd.CryptoKeys.Sweep

namespace Coderd.CryptoKeys

open Coderd.Foundation

/-! Sweeps worked out call by call, for a store whose answers are known. -/

theorem KeyTable.hasKey_of_mem {table : KeyTable} {r : CryptoKeyRow} (hr : r ∈ table.rows) :
    table.hasKey r.key = true :=
  List.any_eq_true.mpr ⟨r, hr, beq_self_eq_true _⟩

theorem KeyTable.hasKey_of_forall_ne {table : KeyTable} {key : CryptoKeyFeature × Int32}
    (h : ∀ r ∈ table.rows, r.key ≠ key) : table.hasKey key = false :=
  List.any_eq_false.mpr fun r hr => by simpa using h r hr

variable {script : Stream' CallOutcome} {k : Nat} {table : KeyTable} {α : Type}
  {now : OffsetDateTime} {options : RotatorOptions}

theorem storeCall_ok {w : World} {op : KeyTable → Except StorageError (α × KeyTable)} {a : α}
    {keys : KeyTable} (hw : w.outcomes.head = .succeeds) (hop : op w.keys = .ok (a, keys)) :
    storeCall op w = (.ok a, ⟨keys, w.outcomes.tail, w.entropy⟩) := by
  simp only [storeCall, hw, hop]

theorem insertNewKey_ok {w : World} {feature : CryptoKeyFeature} {next : CryptoKeyRow}
    (hnext : next = w.keys.nextKey feature (w.entropy.take (secretByteLength feature)) now)
    (hquery : w.outcomes.head = .succeeds) (hinsert : w.outcomes.tail.head = .succeeds)
    (hfresh : w.keys.hasKey next.key = false) :
    insertNewKey feature now w = (.ok (), ⟨w.keys.push next, w.outcomes.tail.tail,
      w.entropy.drop (secretByteLength feature)⟩) := by
  subst hnext
  refine (Effect.bind_ok (storeCall_ok hquery rfl)).trans ?_
  refine (Effect.bind_ok rfl).trans ?_
  exact (Effect.bind_ok (storeCall_ok hinsert (if_neg (Bool.eq_false_iff.mp hfresh)))).trans rfl

theorem rotateKey_ok {w : World} {old next : CryptoKeyRow} {startsAt deletesAt : OffsetDateTime}
    (hstarts : minStartsAt old now options.keyDuration options.interval = some startsAt)
    (hdeletes : (do
      let graced ← startsAt.add oneHour
      graced.add (durationToTimeDuration (tokenDuration old.feature))) = some deletesAt)
    (hnext : next = w.keys.nextKey old.feature
      (w.entropy.take (secretByteLength old.feature)) startsAt)
    (hquery : w.outcomes.head = .succeeds) (hrotate : w.outcomes.tail.head = .succeeds)
    (hold : w.keys.hasKey old.key = true)
    (hfresh : (w.keys.stampDeletesAt old.key deletesAt).hasKey next.key = false) :
    rotateKey old now options w = (.ok (), ⟨(w.keys.stampDeletesAt old.key deletesAt).push next,
      w.outcomes.tail.tail, w.entropy.drop (secretByteLength old.feature)⟩) := by
  have hstored : rotateTransactional old.feature old.sequence deletesAt next
      ⟨w.keys, w.outcomes.tail, w.entropy.drop (secretByteLength old.feature)⟩ =
        (.ok next, ⟨(w.keys.stampDeletesAt old.key deletesAt).push next,
          w.outcomes.tail.tail, w.entropy.drop (secretByteLength old.feature)⟩) := by
    refine storeCall_ok hrotate ((if_neg ?_).trans (if_neg (Bool.eq_false_iff.mp hfresh)))
    rw [Bool.not_eq_true, Bool.not_eq_false']
    exact hold
  subst hnext
  rw [rotateKey, hstarts]
  refine (Effect.bind_ok rfl).trans ?_
  rw [hdeletes]
  refine (Effect.bind_ok rfl).trans ?_
  refine (Effect.bind_ok (storeCall_ok hquery rfl)).trans ?_
  refine (Effect.bind_ok rfl).trans ?_
  exact (Effect.bind_ok hstored).trans rfl

/-- The world after `k` of the calls of `script`, with a generator that has only zeros. -/
def World.after (script : Stream' CallOutcome) (k : Nat) (keys : KeyTable) : World :=
  ⟨keys, script.drop k, Stream'.const 0⟩

theorem storeCall_succeeds {op : KeyTable → Except StorageError (α × KeyTable)} {a : α}
    {keys : KeyTable} (hk : script.get k = .succeeds) (hop : op table = .ok (a, keys)) :
    storeCall op (.after script k table) = (.ok a, .after script (k + 1) keys) := by
  simp only [storeCall, World.after, Stream'.head_drop, hk, hop, Stream'.tail_drop']

theorem storeCall_fails {op : KeyTable → Except StorageError (α × KeyTable)} {e : StorageError}
    (hk : script.get k = .fails e) :
    storeCall op (.after script k table) =
      (.error (.storage e), .after script (k + 1) table) := by
  simp only [storeCall, World.after, Stream'.head_drop, hk, Stream'.tail_drop']

theorem result_ok {m : Rotator α} {w w' : World} {a : α} (h : m w = (.ok a, w')) :
    result m w = (.ok (.ok a), w') := by
  simp only [result, Effect.attempt, h]

theorem result_error {m : Rotator α} {w w' : World} {e : StorageError}
    (h : m w = (.error (.storage e), w')) : result m w = (.ok (.error e), w') := by
  simp only [result, Effect.attempt, h]

/-- Rows that are on their way out are passed over until their time has come. -/
theorem sweepKeys_retired {retired rest : List CryptoKeyRow} {validKeys : Nat}
    (h : ∀ r ∈ retired, ∃ d, r.deletesAt = some d ∧ now < d) :
    sweepKeys options now (retired ++ rest) validKeys =
      sweepKeys options now rest validKeys := by
  induction retired with
  | nil => rfl
  | cons r retired ih =>
    obtain ⟨d, hd, hlt⟩ := h r List.mem_cons_self
    have hdelete : shouldDeleteKey r now = false := by
      simp [shouldDeleteKey, hd, hlt]
    have hrotate : shouldRotateKey r options.keyDuration now = some false := by
      simp [shouldRotateKey, hd]
    rw [List.cons_append, sweepKeys, hdelete, hrotate]
    simp only [Bool.false_eq_true, if_false, hd, Option.isNone_some]
    exact ih fun r' hr' => h r' (List.mem_cons_of_mem _ hr')

/-- Rows that are due stay where they are when the deletions fail. -/
theorem sweepKeys_due {due rest : List CryptoKeyRow} {validKeys : Nat}
    (hdue : ∀ r ∈ due, shouldDeleteKey r now = true)
    (hfails : ∀ j < due.length, ∃ e, script.get (k + j) = .fails e) :
    sweepKeys options now (due ++ rest) validKeys (.after script k table) =
      sweepKeys options now rest validKeys (.after script (k + due.length) table) := by
  induction due generalizing k with
  | nil => rfl
  | cons r due ih =>
    obtain ⟨e, he⟩ := hfails 0 (Nat.zero_lt_succ _)
    have hkept : delete r.feature r.sequence (.after script k table) =
        (.error (.storage e), .after script (k + 1) table) := storeCall_fails he
    have hrest : ∀ j < due.length, ∃ e, script.get (k + 1 + j) = .fails e := by
      intro j hj
      have := hfails (j + 1) (Nat.succ_lt_succ hj)
      rwa [← Nat.add_assoc, Nat.add_right_comm] at this
    rw [List.cons_append, sweepKeys, hdue r List.mem_cons_self, if_pos rfl]
    refine (Effect.bind_ok (result_error hkept)).trans ?_
    rw [ih (fun r' hr' => hdue r' (List.mem_cons_of_mem _ hr')) hrest]
    rw [List.length_cons, Nat.add_right_comm, Nat.add_assoc]

/-- The turn of a row that is to be rotated, which counts as valid if that goes well. -/
theorem sweepKeys_rotate {key : CryptoKeyRow} {rest : List CryptoKeyRow} {validKeys : Nat}
    {w w' : World} {outcome : Except StorageError Unit} (hopen : key.deletesAt = none)
    (hrotate : shouldRotateKey key options.keyDuration now = some true)
    (h : result (rotateKey key now options) w = (.ok outcome, w')) :
    sweepKeys options now (key :: rest) validKeys w =
      sweepKeys options now rest (if outcome.isOk then validKeys + 1 else validKeys) w' := by
  have hdelete : shouldDeleteKey key now = false := by rw [shouldDeleteKey, hopen]
  rw [sweepKeys, hdelete, hrotate]
  refine (Effect.bind_ok h).trans ?_
  cases outcome <;> rfl

/-- Features without rows are left without when every call fails. -/
theorem sweepFeatures_fails (options : RotatorOptions) (now : OffsetDateTime) (table : KeyTable)
    {features : List CryptoKeyFeature} {byFeature : ByFeature}
    (hgroups : ∀ feature ∈ features, (byFeature.lookup feature).getD [] = [])
    (hnodup : features.Nodup) (hfails : ∀ j, k ≤ j → ∃ e, script.get j = .fails e) :
    ∃ k', k ≤ k' ∧ sweepFeatures options now features byFeature (.after script k table) =
      (.ok (), .after script k' table) := by
  induction features generalizing k byFeature with
  | nil => exact ⟨k, le_rfl, rfl⟩
  | cons feature features ih =>
    obtain ⟨hnew, hnodup⟩ := List.nodup_cons.mp hnodup
    obtain ⟨e, he⟩ := hfails k le_rfl
    have hrest := lookup_erase_group hnew hgroups
    have hlater : ∀ j, k + 1 ≤ j → ∃ e, script.get j = .fails e :=
      fun j hj => hfails j (Nat.le_of_succ_le hj)
    obtain ⟨k', hk', heq⟩ := ih hrest hnodup hlater
    refine ⟨k', by omega, ?_⟩
    rw [sweepFeatures, hgroups feature List.mem_cons_self]
    have hinsert : insertNewKey feature now (.after script k table) =
        (.error (.storage e), .after script (k + 1) table) :=
      Effect.bind_error (storeCall_fails he)
    exact (Effect.bind_ok (result_error hinsert)).trans heq

theorem insertNewKey_succeeds {feature : CryptoKeyFeature} {next : CryptoKeyRow}
    (hnext : next = table.nextKey feature ((Stream'.const 0).take (secretByteLength feature)) now)
    (hquery : script.get k = .succeeds) (hinsert : script.get (k + 1) = .succeeds)
    (hfresh : table.hasKey next.key = false) :
    insertNewKey feature now (.after script k table) =
      (.ok (), .after script (k + 2) (table.push next)) := by
  rw [insertNewKey_ok hnext (by rwa [World.after, Stream'.head_drop])
    (by rwa [World.after, Stream'.tail_drop', Stream'.head_drop]) hfresh]
  simp only [World.after, Stream'.tail_drop', Stream'.drop_const]

section RotateKey

variable {old next : CryptoKeyRow} {startsAt deletesAt : OffsetDateTime}
  (hstarts : minStartsAt old now options.keyDuration options.interval = some startsAt)
  (hdeletes : (do
    let graced ← startsAt.add oneHour
    graced.add (durationToTimeDuration (tokenDuration old.feature))) = some deletesAt)

include hstarts hdeletes

theorem rotateKey_succeeds
    (hnext : next = table.nextKey old.feature
      ((Stream'.const 0).take (secretByteLength old.feature)) startsAt)
    (hquery : script.get k = .succeeds) (hrotate : script.get (k + 1) = .succeeds)
    (hold : table.hasKey old.key = true)
    (hfresh : (table.stampDeletesAt old.key deletesAt).hasKey next.key = false) :
    rotateKey old now options (.after script k table) =
      (.ok (), .after script (k + 2) ((table.stampDeletesAt old.key deletesAt).push next)) := by
  rw [rotateKey_ok hstarts hdeletes hnext (by rwa [World.after, Stream'.head_drop])
    (by rwa [World.after, Stream'.tail_drop', Stream'.head_drop]) hold hfresh]
  simp only [World.after, Stream'.tail_drop', Stream'.drop_const]

theorem rotateKey_fails {e : StorageError} (hquery : script.get k = .fails e) :
    rotateKey old now options (.after script k table) =
      (.error (.storage e), .after script (k + 1) table) := by
  rw [rotateKey, hstarts]
  refine (Effect.bind_ok rfl).trans ?_
  rw [hdeletes]
  refine (Effect.bind_ok rfl).trans ?_
  exact Effect.bind_error (storeCall_fails hquery)

end RotateKey

/-- A sweep that gets as far as the first feature, which has all the rows. -/
theorem rotateOnce_first {table' table'' : KeyTable} {validKeys k' k'' : Nat}
    (hrows : ∀ r ∈ table.rows, r.feature = .workspaceAppsApiKey)
    (hlock : script.get 0 = .succeeds) (hlist : script.get 1 = .succeeds)
    (hkeys : sweepKeys options now table.listAll 0 (.after script 2 table) =
      (.ok validKeys, .after script k' table'))
    (hinsert : if validKeys = 0 then
        insertNewKey .workspaceAppsApiKey now (.after script k' table') =
          (.ok (), .after script k'' table'')
      else table'' = table' ∧ k'' = k')
    (hfails : ∀ j, k'' ≤ j → ∃ e, script.get j = .fails e) :
    (rotateOnce options now false (.after script 0 table)).2.keys = table'' := by
  have hlistAll : ∀ r ∈ table.listAll, r.feature = .workspaceAppsApiKey := fun r hr =>
    hrows r (table.listAll_perm.mem_iff.mp hr)
  have hgroup : ((groupByFeature table.listAll).lookup .workspaceAppsApiKey).getD [] =
      table.listAll := by
    rw [lookup_groupByFeature, List.filter_eq_self]
    exact fun r hr => decide_eq_true (hlistAll r hr)
  have hothers : ∀ feature ∈ [CryptoKeyFeature.workspaceAppsToken, .oidcConvert, .tailnetResume],
      (((groupByFeature table.listAll).erase .workspaceAppsApiKey).lookup feature).getD [] =
        [] := by
    intro feature hfeature
    have hne : feature ≠ .workspaceAppsApiKey := by
      rintro rfl
      revert hfeature
      decide
    rw [HashMap.lookup_erase_ite, if_neg hne, lookup_groupByFeature, List.filter_eq_nil_iff]
    intro r hr
    rw [hlistAll r hr]
    simpa using hne.symm
  obtain ⟨j, hj, hrest⟩ := sweepFeatures_fails options now table'' hothers (by decide) hfails
  have hlocked : rotateOnceLocked options now (.after script 1 table) =
      (.ok (), .after script j table'') := by
    refine (Effect.bind_ok (storeCall_succeeds hlist rfl)).trans ?_
    rw [managedFeatures, sweepFeatures, hgroup]
    refine (Effect.bind_ok hkeys).trans ?_
    split at hinsert
    case isTrue hzero =>
      rw [if_pos hzero]
      exact (Effect.bind_ok (result_ok hinsert)).trans hrest
    case isFalse hzero =>
      rw [if_neg hzero]
      rw [hinsert.1, hinsert.2] at hrest
      rw [hinsert.1]
      exact hrest
  obtain ⟨e, he⟩ := hfails j hj
  have hrelease : releaseRotationLock (.after script j table'') =
      (.error (.storage e), .after script (j + 1) table'') := storeCall_fails he
  have honce : rotateOnce options now false (.after script 0 table) =
      (.error (.storage e), .after script (j + 1) table'') := by
    refine (Effect.bind_ok (storeCall_succeeds hlock rfl)).trans ?_
    refine (Effect.bind_ok (result_ok hlocked)).trans ?_
    exact (Effect.bind_ok (result_error hrelease)).trans rfl
  rw [honce]
  rfl

end Coderd.CryptoKeys
