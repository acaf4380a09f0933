import Coderd.Foundation.Lockstep
import Coderd.CryptoKeys.Sweep

namespace Coderd.CryptoKeys

open Coderd.Foundation
open Effect (Alike Lockstep)

/-! ## Tables without their secrets -/

def CryptoKeyRow.withoutSecret (row : CryptoKeyRow) : CryptoKeyRow := { row with secret := [] }

def KeyTable.withoutSecrets (table : KeyTable) : KeyTable where
  rows := table.rows.map CryptoKeyRow.withoutSecret
  minted := table.minted.map CryptoKeyRow.withoutSecret

theorem key_eq {row row' : CryptoKeyRow} (h : row.withoutSecret = row'.withoutSecret) :
    row.key = row'.key := by
  show row.withoutSecret.key = row'.withoutSecret.key
  rw [h]

theorem exists_secret {row row' : CryptoKeyRow} (h : row.withoutSecret = row'.withoutSecret) :
    ∃ secret, row' = { row with secret } := by
  refine ⟨row'.secret, ?_⟩
  cases row
  cases row'
  cases h
  rfl

namespace KeyTable

variable {table table' : KeyTable} {key : CryptoKeyFeature × Int32} {row row' : CryptoKeyRow}

theorem hasKey_withoutSecrets : table.withoutSecrets.hasKey key = table.hasKey key := by
  rw [hasKey, withoutSecrets, List.any_map]
  rfl

theorem hasKey_eq (h : table.withoutSecrets = table'.withoutSecrets) :
    table.hasKey key = table'.hasKey key := by
  rw [← hasKey_withoutSecrets, h, hasKey_withoutSecrets]

theorem delete_withoutSecrets :
    (table.delete key).withoutSecrets = table.withoutSecrets.delete key := by
  rw [delete, delete, withoutSecrets, withoutSecrets, List.filter_map]
  rfl

theorem push_withoutSecrets :
    (table.push row).withoutSecrets = table.withoutSecrets.push row.withoutSecret := by
  rw [push, push, withoutSecrets, withoutSecrets, List.map_append]
  rfl

theorem stampDeletesAt_withoutSecrets {deletesAt : OffsetDateTime} :
    (table.stampDeletesAt key deletesAt).withoutSecrets =
      table.withoutSecrets.stampDeletesAt key deletesAt := by
  rw [stampDeletesAt, stampDeletesAt, withoutSecrets, withoutSecrets, List.map_map, List.map_map]
  congr 1
  refine List.map_congr_left fun row _ => ?_
  change (if row.key = key then _ else row).withoutSecret = if row.key = key then _ else _
  split
  · rfl
  · rfl

theorem maxSequence_withoutSecrets (table : KeyTable) (feature : CryptoKeyFeature) :
    table.withoutSecrets.maxSequence feature = table.maxSequence feature := by
  rw [maxSequence, maxSequence, withoutSecrets, List.filter_map, List.map_map]
  rfl

theorem listAll_withoutSecrets (table : KeyTable) :
    table.withoutSecrets.listAll = table.listAll.map CryptoKeyRow.withoutSecret := by
  rw [listAll, listAll, withoutSecrets]
  symm
  apply List.map_insertionSort
  intro a _ b _
  rfl

end KeyTable

/-! ## Sweeps that differ in their secrets -/

/-- The two worlds differ in secrets only, past and future. -/
def SameButSecrets (w w' : World) : Prop :=
  w.keys.withoutSecrets = w'.keys.withoutSecrets ∧ w.outcomes = w'.outcomes

section Calls

variable {α β : Type} {R : α → β → Prop}

theorem storeCall_lockstep {op : KeyTable → Except StorageError (α × KeyTable)}
    {op' : KeyTable → Except StorageError (β × KeyTable)}
    (h : ∀ keys keys' : KeyTable, keys.withoutSecrets = keys'.withoutSecrets →
      Alike (fun p q => R p.1 q.1 ∧ p.2.withoutSecrets = q.2.withoutSecrets)
        (op keys) (op' keys')) :
    Lockstep SameButSecrets R (storeCall op) (storeCall op') := by
  rintro ⟨keys, outcomes, entropy⟩ ⟨keys', _, entropy'⟩ ⟨hkeys, rfl⟩
  unfold storeCall
  dsimp only
  -- the store does as told, answers with an error, or the process ends in the call
  rcases outcomes.head with _ | e | _
  · have hend := h keys keys' hkeys
    revert hend
    generalize op keys = r
    generalize op' keys' = r'
    rintro (⟨hr, hkeys'⟩ | e)
    · exact ⟨.ok hr, hkeys', rfl⟩
    · exact ⟨.error _, hkeys, rfl⟩
  · exact ⟨.error _, hkeys, rfl⟩
  · exact ⟨.error _, hkeys, rfl⟩

/-- A query that does not see the secrets. -/
theorem query_lockstep {f : KeyTable → α}
    (h : ∀ keys, f keys = f keys.withoutSecrets) :
    Lockstep SameButSecrets (· = ·) (storeCall fun keys => .ok (f keys, keys))
      (storeCall fun keys => .ok (f keys, keys)) := by
  refine storeCall_lockstep fun keys keys' hkeys => .ok ⟨?_, hkeys⟩
  show f keys = f keys'
  rw [h keys, h keys', hkeys]

theorem orPanic_lockstep (o : Option α) :
    Lockstep SameButSecrets (· = ·) (orPanic o) (orPanic o) := by
  cases o with
  | none => exact Lockstep.fail Stop.panic
  | some a => exact Lockstep.pure rfl

theorem result_lockstep {m m' : Rotator α} (h : Lockstep SameButSecrets (· = ·) m m') :
    Lockstep SameButSecrets (· = ·) (result m) (result m') :=
  h.attempt.mono fun _ _ => Alike.eq

theorem fillBytes_lockstep (n : Nat) :
    Lockstep SameButSecrets (fun _ _ => True) (fillBytes n) (fillBytes n) :=
  fun _ _ hw => ⟨.ok trivial, hw⟩

end Calls

theorem delete_lockstep (feature : CryptoKeyFeature) (sequence : Int32) :
    Lockstep SameButSecrets (· = ·) (delete feature sequence) (delete feature sequence) := by
  refine storeCall_lockstep fun keys keys' hkeys => .ok ⟨?_, ?_⟩
  · exact KeyTable.hasKey_eq hkeys
  · show (keys.delete _).withoutSecrets = (keys'.delete _).withoutSecrets
    rw [KeyTable.delete_withoutSecrets, hkeys, KeyTable.delete_withoutSecrets]

theorem insert_lockstep {row row' : CryptoKeyRow} (h : row.withoutSecret = row'.withoutSecret) :
    Lockstep SameButSecrets (fun a b => a.withoutSecret = b.withoutSecret) (insert row)
      (insert row') := by
  refine storeCall_lockstep fun keys keys' hkeys => ?_
  rw [KeyTable.hasKey_eq hkeys, key_eq h]
  split
  · exact .error _
  · refine .ok ⟨h, ?_⟩
    show (keys.push row).withoutSecrets = (keys'.push row').withoutSecrets
    rw [KeyTable.push_withoutSecrets, hkeys, h, KeyTable.push_withoutSecrets]

theorem rotateTransactional_lockstep (feature : CryptoKeyFeature) (sequence : Int32)
    (deletesAt : OffsetDateTime) {row row' : CryptoKeyRow}
    (h : row.withoutSecret = row'.withoutSecret) :
    Lockstep SameButSecrets (fun a b => a.withoutSecret = b.withoutSecret)
      (rotateTransactional feature sequence deletesAt row)
      (rotateTransactional feature sequence deletesAt row') := by
  refine storeCall_lockstep fun keys keys' hkeys => ?_
  have hstamped : (keys.stampDeletesAt (feature, sequence) deletesAt).withoutSecrets =
      (keys'.stampDeletesAt (feature, sequence) deletesAt).withoutSecrets := by
    rw [KeyTable.stampDeletesAt_withoutSecrets, hkeys, KeyTable.stampDeletesAt_withoutSecrets]
  dsimp only
  rw [KeyTable.hasKey_eq hkeys, KeyTable.hasKey_eq hstamped, key_eq h]
  split
  · exact .error _
  · split
    · exact .error _
    · refine .ok ⟨h, ?_⟩
      rw [KeyTable.push_withoutSecrets, hstamped, h, KeyTable.push_withoutSecrets]

theorem maxSequenceForFeature_lockstep (feature : CryptoKeyFeature) :
    Lockstep SameButSecrets (· = ·) (maxSequenceForFeature feature)
      (maxSequenceForFeature feature) :=
  query_lockstep fun keys => (keys.maxSequence_withoutSecrets feature).symm

theorem insertNewKey_lockstep (feature : CryptoKeyFeature) (startsAt : OffsetDateTime) :
    Lockstep SameButSecrets (· = ·) (insertNewKey feature startsAt)
      (insertNewKey feature startsAt) := by
  refine (maxSequenceForFeature_lockstep feature).bind fun _ _ hmax => ?_
  refine (fillBytes_lockstep _).bind fun secret secret' _ => ?_
  subst hmax
  refine Lockstep.bind (insert_lockstep ?_) fun _ _ _ => Lockstep.pure rfl
  rfl

theorem rotateKey_lockstep {old old' : CryptoKeyRow} (h : old.withoutSecret = old'.withoutSecret)
    (now : OffsetDateTime) (options : RotatorOptions) :
    Lockstep SameButSecrets (· = ·) (rotateKey old now options) (rotateKey old' now options) := by
  obtain ⟨kept, rfl⟩ := exists_secret h
  refine (orPanic_lockstep _).bind fun startsAt _ hstarts => ?_
  subst hstarts
  refine (orPanic_lockstep _).bind fun deletesAt _ hdeletes => ?_
  subst hdeletes
  refine (maxSequenceForFeature_lockstep old.feature).bind fun _ _ hmax => ?_
  subst hmax
  refine (fillBytes_lockstep _).bind fun secret secret' _ => ?_
  refine Lockstep.bind (rotateTransactional_lockstep _ _ deletesAt ?_) fun _ _ _ =>
    Lockstep.pure rfl
  rfl

variable {options : RotatorOptions} {now : OffsetDateTime}

theorem sweepKeys_lockstep {keys keys' : List CryptoKeyRow}
    (h : keys.map CryptoKeyRow.withoutSecret = keys'.map CryptoKeyRow.withoutSecret)
    (validKeys : Nat) :
    Lockstep SameButSecrets (· = ·) (sweepKeys options now keys validKeys)
      (sweepKeys options now keys' validKeys) := by
  induction keys generalizing keys' validKeys with
  | nil =>
    obtain rfl : keys' = [] := List.map_eq_nil_iff.mp h.symm
    exact Lockstep.pure rfl
  | cons key keys ih =>
    obtain ⟨key', keys', rfl, hkey, hkeys⟩ := List.map_eq_cons_iff.mp h.symm
    obtain ⟨kept, rfl⟩ := exists_secret hkey.symm
    have hrest := ih hkeys.symm
    rw [sweepKeys, sweepKeys]
    refine Lockstep.ite Iff.rfl (fun _ => ?_) fun _ => ?_
    · exact (result_lockstep (delete_lockstep _ _)).bind fun _ _ _ => hrest validKeys
    · refine (orPanic_lockstep _).bind fun rotate _ hrotate => ?_
      subst hrotate
      refine Lockstep.ite Iff.rfl (fun _ => ?_) fun _ => ?_
      · refine (result_lockstep (rotateKey_lockstep rfl now options)).bind fun outcome _ heq => ?_
        subst heq
        cases outcome with
        | ok => exact hrest (validKeys + 1)
        | error e => exact hrest validKeys
      · exact Lockstep.ite Iff.rfl (fun _ => hrest (validKeys + 1)) fun _ => hrest validKeys

theorem sweepFeatures_lockstep (features : List CryptoKeyFeature) {byFeature byFeature' : ByFeature}
    (h : ∀ feature, ((byFeature.lookup feature).getD []).map CryptoKeyRow.withoutSecret =
      ((byFeature'.lookup feature).getD []).map CryptoKeyRow.withoutSecret) :
    Lockstep SameButSecrets (· = ·) (sweepFeatures options now features byFeature)
      (sweepFeatures options now features byFeature') := by
  induction features generalizing byFeature byFeature' with
  | nil => exact Lockstep.pure rfl
  | cons feature features ih =>
    have hrest : Lockstep SameButSecrets (· = ·)
        (sweepFeatures options now features (byFeature.erase feature))
        (sweepFeatures options now features (byFeature'.erase feature)) := by
      refine ih fun other => ?_
      rw [HashMap.lookup_erase_ite, HashMap.lookup_erase_ite]
      split
      · rfl
      · exact h other
    rw [sweepFeatures, sweepFeatures]
    refine (sweepKeys_lockstep (h feature) 0).bind fun validKeys _ heq => ?_
    subst heq
    refine Lockstep.ite Iff.rfl (fun _ => ?_) fun _ => hrest
    exact (result_lockstep (insertNewKey_lockstep feature now)).bind fun _ _ _ => hrest

theorem rotateOnce_lockstep (heldElsewhere : Bool) :
    Lockstep SameButSecrets (· = ·) (rotateOnce options now heldElsewhere)
      (rotateOnce options now heldElsewhere) := by
  have hlocked : Lockstep SameButSecrets (· = ·) (rotateOnceLocked options now)
      (rotateOnceLocked options now) := by
    refine Lockstep.bind (R := fun keys keys' => keys.map CryptoKeyRow.withoutSecret =
      keys'.map CryptoKeyRow.withoutSecret) ?_ fun keys keys' hkeys => ?_
    · refine storeCall_lockstep fun keys keys' hkeys => .ok ⟨?_, hkeys⟩
      rw [← KeyTable.listAll_withoutSecrets, hkeys, KeyTable.listAll_withoutSecrets]
    · refine sweepFeatures_lockstep managedFeatures fun feature => ?_
      have hgroup : ∀ keys : List CryptoKeyRow,
          (keys.filter (·.feature = feature)).map CryptoKeyRow.withoutSecret =
            (keys.map CryptoKeyRow.withoutSecret).filter (·.feature = feature) := by
        intro keys
        rw [List.filter_map]
        rfl
      rw [lookup_groupByFeature, lookup_groupByFeature, hgroup, hkeys, hgroup]
  refine (query_lockstep fun _ => rfl).bind fun acquired _ heq => ?_
  subst heq
  refine Lockstep.ite Iff.rfl (fun _ => ?_) fun _ => Lockstep.pure rfl
  refine (result_lockstep hlocked).bind fun swept _ heq => ?_
  subst heq
  refine (result_lockstep (query_lockstep fun _ => rfl)).bind fun released _ heq => ?_
  subst heq
  cases swept with
  | ok =>
    cases released with
    | ok => exact Lockstep.pure rfl
    | error e => exact Lockstep.fail _
  | error e => exact Lockstep.fail _

/-- What a sweep leaves depends on the secrets in their own places only. -/
theorem Sweep.apply_withoutSecrets {sweep sweep' : Sweep} {table table' : KeyTable}
    (hsweep : { sweep with entropy := sweep'.entropy } = sweep')
    (h : table.withoutSecrets = table'.withoutSecrets) :
    (sweep.apply table).withoutSecrets = (sweep'.apply table').withoutSecrets := by
  rw [← hsweep]
  exact (rotateOnce_lockstep sweep.heldElsewhere ⟨table, sweep.outcomes, sweep.entropy⟩
    ⟨table', sweep.outcomes, sweep'.entropy⟩ ⟨h, rfl⟩).2.1

end Coderd.CryptoKeys
