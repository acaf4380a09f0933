import Mathlib.Data.Set.Finite.Lemmas
import Coderd.CryptoKeys.Secrets
import Coderd.CryptoKeys.Sequences

namespace Coderd.CryptoKeys

open Coderd.Foundation
open Effect (Triple)

/-! ## Rows at rest -/

def CryptoKeyRow.isOpen (row : CryptoKeyRow) : Bool := row.deletesAt.isNone

def isDue (options : RotatorOptions) (now : OffsetDateTime) (row : CryptoKeyRow) : Bool :=
  shouldRotateKey row options.keyDuration now == some true

/-- When a row is deleted that has a successor. -/
def retiresAt (startsAt : OffsetDateTime) (feature : CryptoKeyFeature) : Option OffsetDateTime := do
  let graced ← startsAt.add oneHour
  graced.add (durationToTimeDuration (tokenDuration feature))

/-- When the successor of a row starts, and when the row itself is deleted. -/
def successorTimes (options : RotatorOptions) (now : OffsetDateTime) (old : CryptoKeyRow) :
    Option (OffsetDateTime × OffsetDateTime) := do
  let startsAt ← minStartsAt old now options.keyDuration options.interval
  let deletesAt ← retiresAt startsAt old.feature
  return (startsAt, deletesAt)

/-- An instant that the turn of the row asks for is out of range. -/
def isBlocked (options : RotatorOptions) (now : OffsetDateTime) (row : CryptoKeyRow) : Bool :=
  match shouldRotateKey row options.keyDuration now with
  | none => true
  | some false => false
  | some true => (successorTimes options now row).isNone

/-- The row is neither deleted nor rotated. -/
structure Settled (options : RotatorOptions) (now : OffsetDateTime) (row : CryptoKeyRow) :
    Prop where
  kept : shouldDeleteKey row now = false
  notDue : isDue options now row = false

def KeyTable.ofFeature (table : KeyTable) (feature : CryptoKeyFeature) : List CryptoKeyRow :=
  table.rows.filter (·.feature = feature)

/-- The rows of a feature as a sweep comes to them. -/
def KeyTable.queue (table : KeyTable) (feature : CryptoKeyFeature) : List CryptoKeyRow :=
  table.listAll.filter (·.feature = feature)

/-- A sweep has nothing to do for the feature. -/
structure AtRest (options : RotatorOptions) (now : OffsetDateTime) (feature : CryptoKeyFeature)
    (table : KeyTable) : Prop where
  settled : ∀ row ∈ table.ofFeature feature, Settled options now row
  opened : ∃ row ∈ table.ofFeature feature, row.isOpen

/-- Nothing is written on the way to the end of these features, or to the panic before it. -/
def Still (options : RotatorOptions) (now : OffsetDateTime) (table : KeyTable) :
    List CryptoKeyFeature → Prop
  | [] => True
  | feature :: features =>
    (∃ kept row rest, table.queue feature = kept ++ row :: rest ∧
      (∀ key ∈ kept, Settled options now key) ∧ isBlocked options now row) ∨
    (AtRest options now feature table ∧ Still options now table features)

variable {options : RotatorOptions} {now : OffsetDateTime} {table : KeyTable}
  {row key : CryptoKeyRow} {feature : CryptoKeyFeature} {n : Nat} {w : World}

theorem queue_perm (table : KeyTable) (feature : CryptoKeyFeature) :
    (table.queue feature).Perm (table.ofFeature feature) :=
  table.listAll_perm.filter _

theorem mem_queue : row ∈ table.queue feature ↔ row ∈ table.ofFeature feature :=
  (queue_perm table feature).mem_iff

theorem mem_ofFeature :
    row ∈ table.ofFeature feature ↔ row ∈ table.rows ∧ row.feature = feature := by
  rw [KeyTable.ofFeature, List.mem_filter, decide_eq_true_eq]

theorem ofFeature_push_of_ne (hne : row.feature ≠ feature) :
    (table.push row).ofFeature feature = table.ofFeature feature := by
  simp [KeyTable.ofFeature, KeyTable.push, hne]

theorem ofFeature_stampDeletesAt_of_ne {k : CryptoKeyFeature × Int32} {deletesAt : OffsetDateTime}
    (hne : k.1 ≠ feature) :
    (table.stampDeletesAt k deletesAt).ofFeature feature = table.ofFeature feature := by
  rw [KeyTable.ofFeature, KeyTable.ofFeature, KeyTable.stampDeletesAt]
  induction table.rows with
  | nil => rfl
  | cons row rows ih =>
    rw [List.map_cons, List.filter_cons, List.filter_cons, ih]
    by_cases hkey : row.key = k
    · have hother : row.feature ≠ feature := fun heq => hne (hkey ▸ heq)
      rw [if_pos hkey, if_neg (by simpa using hother), if_neg (by simpa using hother)]
    · rw [if_neg hkey]

theorem isBlocked_open (h : isBlocked options now row = true) : row.deletesAt = none := by
  cases hdeletes : row.deletesAt with
  | none => rfl
  | some d => simp [isBlocked, shouldRotateKey, hdeletes] at h

/-! ## A sweep over rows at rest -/

theorem result_panic {α : Type} {m : Rotator α} {w' : World} (h : m w = (.error .panic, w')) :
    result m w = (.error .panic, w') := by
  simp only [result, Effect.attempt, h]

section Turns

variable {rest : List CryptoKeyRow}

theorem sweepKeys_delete (hdelete : shouldDeleteKey key now = true) {w' : World} {deleted : Bool}
    (h : delete key.feature key.sequence w = (.ok deleted, w')) :
    sweepKeys options now (key :: rest) n w = sweepKeys options now rest n w' := by
  rw [sweepKeys, hdelete, if_pos rfl]
  exact Effect.bind_ok (result_ok h)

/-- A row that is left alone counts if it has no `deletes_at`. -/
theorem sweepKeys_pass (h : Settled options now key)
    (hrange : shouldRotateKey key options.keyDuration now ≠ none) :
    sweepKeys options now (key :: rest) n =
      sweepKeys options now rest (n + if key.isOpen then 1 else 0) := by
  have hrotate : shouldRotateKey key options.keyDuration now = some false := by
    have hdue := h.notDue
    rw [isDue] at hdue
    cases heq : shouldRotateKey key options.keyDuration now with
    | none => exact absurd heq hrange
    | some due =>
      cases due with
      | true => simp [heq] at hdue
      | false => rfl
  rw [sweepKeys, h.kept, hrotate]
  change (if key.deletesAt.isNone then sweepKeys options now rest (n + 1)
    else sweepKeys options now rest n) = _
  rw [CryptoKeyRow.isOpen]
  split
  · rfl
  · rfl

theorem sweepKeys_blocked (h : isBlocked options now key = true) :
    sweepKeys options now (key :: rest) n w = (.error .panic, w) := by
  have hkept : shouldDeleteKey key now = false := by rw [shouldDeleteKey, isBlocked_open h]
  rw [isBlocked] at h
  rw [sweepKeys, hkept]
  split at h
  case h_1 hrotate =>
    rw [hrotate]
    exact Effect.bind_error rfl
  case h_2 => cases h
  case h_3 hrotate =>
    have htimes : successorTimes options now key = none := Option.isNone_iff_eq_none.mp h
    have hpanic : rotateKey key now options w = (.error .panic, w) := by
      rw [rotateKey]
      rw [successorTimes] at htimes
      cases hstarts : minStartsAt key now options.keyDuration options.interval with
      | none => exact Effect.bind_error rfl
      | some startsAt =>
        cases hdeletes : retiresAt startsAt key.feature with
        | none =>
          refine (Effect.bind_ok rfl).trans ?_
          rw [← retiresAt, hdeletes]
          exact Effect.bind_error rfl
        | some deletesAt => simp [hstarts, hdeletes] at htimes
    rw [hrotate]
    exact (Effect.bind_ok rfl).trans (Effect.bind_error (result_panic hpanic))

theorem sweepKeys_settled {kept : List CryptoKeyRow} (h : ∀ key ∈ kept, Settled options now key)
    (rest : List CryptoKeyRow) (n : Nat) (w : World) :
    sweepKeys options now (kept ++ rest) n w =
        sweepKeys options now rest (n + kept.countP (·.isOpen)) w ∨
      sweepKeys options now (kept ++ rest) n w = (.error .panic, w) := by
  induction kept generalizing n with
  | nil => exact .inl rfl
  | cons key kept ih =>
    obtain ⟨hkey, hrest⟩ := List.forall_mem_cons.mp h
    by_cases hrange : shouldRotateKey key options.keyDuration now = none
    · exact .inr (sweepKeys_blocked (by rw [isBlocked, hrange]))
    · rw [List.cons_append, sweepKeys_pass hkey hrange, List.countP_cons,
        Nat.add_comm (kept.countP _), ← Nat.add_assoc]
      exact ih hrest _

end Turns

theorem sweepFeatures_still {features : List CryptoKeyFeature} {byFeature : ByFeature}
    (h : Still options now table features) (hnodup : features.Nodup)
    (hgroups : ∀ feature ∈ features,
      (byFeature.lookup feature).getD [] = table.queue feature) :
    sweepFeatures options now features byFeature w = (.ok (), w) ∨
      sweepFeatures options now features byFeature w = (.error .panic, w) := by
  induction features generalizing byFeature with
  | nil => exact .inl rfl
  | cons feature features ih =>
    obtain ⟨hnew, hnodup⟩ := List.nodup_cons.mp hnodup
    rw [sweepFeatures, hgroups feature List.mem_cons_self]
    obtain ⟨kept, row, rest, hqueue, hkept, hrow⟩ | ⟨hrest, hstill⟩ := h
    · rw [hqueue]
      refine .inr (Effect.bind_error ?_)
      obtain hpass | hpanic := sweepKeys_settled hkept (row :: rest) 0 w
      · rw [hpass, sweepKeys_blocked hrow]
      · exact hpanic
    · -- an open row counts as valid, so that none is inserted
      have hsettled : ∀ key ∈ table.queue feature, Settled options now key := fun key hkey =>
        hrest.settled key (mem_queue.mp hkey)
      obtain ⟨row, hrow, hopen⟩ := hrest.opened
      have hpos : 0 < (table.queue feature).countP (·.isOpen) :=
        List.countP_pos_iff.mpr ⟨row, mem_queue.mpr hrow, hopen⟩
      obtain hpass | hpanic := sweepKeys_settled hsettled [] 0 w
      · rw [List.append_nil] at hpass
        rw [Effect.bind_ok hpass, if_neg (by omega)]
        exact ih hstill hnodup (lookup_erase_group hnew hgroups)
      · rw [List.append_nil] at hpanic
        exact .inr (Effect.bind_error hpanic)

/-- A sweep over rows at rest writes nothing, whatever becomes of its calls. -/
theorem Still.apply {sweep : Sweep}
    (h : Still sweep.options sweep.now table managedFeatures) : sweep.apply table = table := by
  have hlocked : Triple (fun w => w.keys = table) (rotateOnceLocked sweep.options sweep.now)
      (fun _ w => w.keys = table) (fun w => w.keys = table) := by
    refine (query_spec (P := (· = table)) _).bind fun keys => ?_
    refine Triple.of_final fun w ⟨hw, hkeys⟩ => ?_
    rw [hkeys, hw]
    obtain heq | heq := sweepFeatures_still (w := w) h (by decide)
      (fun feature _ => lookup_groupByFeature table.listAll feature)
    · rw [heq, hw]
    · rw [heq, hw]
  exact (rotateOnce_of_locked (P := (· = table)) hlocked).final
    (s := ⟨table, sweep.outcomes, sweep.entropy⟩) rfl

/-! ## Instants -/

theorem unixNanos_of_add {t t' : OffsetDateTime} {d : Int} (h : t.add d = some t') :
    t'.unixNanos = t.unixNanos + d := by
  unfold OffsetDateTime.add at h
  split at h
  · cases h
    rfl
  · cases h

theorem le_minStartsAt {old : CryptoKeyRow} {startsAt : OffsetDateTime}
    (h : minStartsAt old now options.keyDuration options.interval = some startsAt) :
    now ≤ startsAt := by
  obtain ⟨expiresAt, -, h⟩ := Option.bind_eq_some_iff.mp h
  obtain ⟨floor, hfloor, h⟩ := Option.bind_eq_some_iff.mp h
  have hle : now ≤ floor := OffsetDateTime.le_of_add (durationToTimeDuration_nonneg _) hfloor
  cases h
  split
  case isTrue => exact hle
  case isFalse hlate => exact hle.trans (not_lt.mp hlate)

theorem lt_of_retiresAt {startsAt deletesAt : OffsetDateTime}
    (h : retiresAt startsAt feature = some deletesAt) : startsAt < deletesAt := by
  obtain ⟨graced, hgraced, hdeletes⟩ := Option.bind_eq_some_iff.mp h
  have hlt : startsAt < graced := by
    have hnanos := unixNanos_of_add hgraced
    show startsAt.unixNanos < graced.unixNanos
    rw [hnanos, oneHour]
    omega
  exact hlt.trans_le (OffsetDateTime.le_of_add (durationToTimeDuration_nonneg _) hdeletes)

/-- A key that lasts for more than an hour is not due before it starts. -/
theorem isDue_of_le (hlong : oneHour < durationToTimeDuration options.keyDuration)
    (hle : now ≤ row.startsAt) : isDue options now row = false := by
  rw [isDue, beq_eq_false_iff_ne]
  intro hdue
  rw [shouldRotateKey, shouldRotateKey_open hdue] at hdue
  obtain ⟨expiresAt, hexpires, hdue⟩ := Option.bind_eq_some_iff.mp hdue
  obtain ⟨soon, hsoon, hdue⟩ := Option.bind_eq_some_iff.mp hdue
  have hexpired : expiresAt ≤ soon := by simpa using hdue
  change expiresAt.unixNanos ≤ soon.unixNanos at hexpired
  have hstarts : now.unixNanos ≤ row.startsAt.unixNanos := hle
  rw [unixNanos_of_add hexpires, unixNanos_of_add hsoon] at hexpired
  omega

theorem settled_stamped {deletesAt : OffsetDateTime} (hlt : now < deletesAt) :
    Settled options now (row.stamped deletesAt) where
  kept := decide_eq_false (not_le.mpr hlt)
  notDue := rfl

theorem settled_nextKey (hlong : oneHour < durationToTimeDuration options.keyDuration)
    {startsAt : OffsetDateTime} (hle : now ≤ startsAt) (secret : List UInt8) :
    Settled options now (table.nextKey feature secret startsAt) where
  kept := rfl
  notDue := isDue_of_le hlong hle

/-! ## Numbers -/

/-- There is room in an `i32` for so many more numbers. -/
def Spare (table : KeyTable) (feature : CryptoKeyFeature) (count : Nat) : Prop :=
  ∀ row ∈ table.ofFeature feature, row.sequence.toInt + count ≤ 2 ^ 31 - 1

theorem exists_greatest (h : row ∈ table.ofFeature feature) :
    ∃ r ∈ table.ofFeature feature, r.sequence = table.maxSequence feature ∧
      ∀ r' ∈ table.ofFeature feature, r'.sequence ≤ r.sequence := by
  obtain ⟨r, hr, hgreatest⟩ := Set.exists_max_image {r | r ∈ table.ofFeature feature}
    (·.sequence.toInt) (List.finite_toSet _) ⟨row, h⟩
  have hle : ∀ r' ∈ table.ofFeature feature, r'.sequence ≤ r.sequence := fun r' hr' =>
    Int32.le_iff_toInt_le.mpr (hgreatest r' hr')
  obtain ⟨hrows, hfeature⟩ := mem_ofFeature.mp hr
  refine ⟨r, hr, (KeyTable.maxSequence_eq ?_ ⟨r, hrows, hfeature, rfl⟩).symm, hle⟩
  exact fun r' hr' hfeature' => hle r' (mem_ofFeature.mpr ⟨hr', hfeature'⟩)

theorem Spare.toInt_next {count : Nat} (h : Spare table feature (count + 1))
    (hrow : row ∈ table.ofFeature feature) :
    (table.maxSequence feature + 1).toInt = (table.maxSequence feature).toInt + 1 ∧
      (table.maxSequence feature).toInt + 1 + count ≤ 2 ^ 31 - 1 := by
  obtain ⟨r, hr, hmax, -⟩ := exists_greatest hrow
  have hroom := h r hr
  have hge := r.sequence.le_toInt
  rw [← hmax, Int32.toInt_add, Int32.toInt_one]
  refine ⟨Int.bmod_eq_of_le (by omega) (by omega), by omega⟩

/-- The next number is a new one. -/
theorem Spare.fresh {count : Nat} (h : Spare table feature (count + 1)) :
    ∀ r ∈ table.rows, r.key ≠ (feature, table.maxSequence feature + 1) := by
  intro r hr hkey
  have hmem : r ∈ table.ofFeature feature := mem_ofFeature.mpr ⟨hr, congrArg Prod.fst hkey⟩
  obtain ⟨r', -, hmax, hgreatest⟩ := exists_greatest hmem
  have hle := Int32.le_iff_toInt_le.mp (hgreatest r hmem)
  have hsequence : r.sequence = table.maxSequence feature + 1 := congrArg Prod.snd hkey
  rw [hmax, hsequence, (h.toInt_next hmem).1] at hle
  omega

/-! ## A sweep whose calls succeed -/

/-- The queue of a feature has been worked off as far as `rest`, with `n` valid keys so far. What
it was before counts for the other features only. -/
structure Midway (options : RotatorOptions) (now : OffsetDateTime) (feature : CryptoKeyFeature)
    (before : KeyTable) (rest : List CryptoKeyRow) (n : Nat) (table : KeyTable) :
    Prop where
  unique : (table.rows.map CryptoKeyRow.key).Nodup
  subset : rest ⊆ table.ofFeature feature
  sorted : rest.Pairwise (·.sequence < ·.sequence)
  settled : ∀ row ∈ table.ofFeature feature, row ∉ rest → Settled options now row
  opened : n ≠ 0 → ∃ row ∈ table.ofFeature feature, row ∉ rest ∧ row.isOpen
  spare : Spare table feature (rest.countP (isDue options now))
  origin : n = 0 → table.ofFeature feature ⊆ before.ofFeature feature
  others : ∀ other, other ≠ feature → table.ofFeature other = before.ofFeature other

namespace Midway

variable {before : KeyTable} {rest : List CryptoKeyRow}

theorem eq_of_key (h : Midway options now feature before rest n table) {a b : CryptoKeyRow}
    (ha : a ∈ table.rows) (hb : b ∈ table.rows) (hkey : a.key = b.key) : a = b :=
  List.inj_on_of_nodup_map h.unique ha hb hkey

section Head

variable (h : Midway options now feature before (key :: rest) n table)

include h

theorem head_mem : key ∈ table.rows ∧ key.feature = feature :=
  mem_ofFeature.mp (h.subset List.mem_cons_self)

theorem head_not_mem : key ∉ rest := fun hmem =>
  Int32.lt_irrefl ((List.pairwise_cons.mp h.sorted).1 key hmem)

/-- A row is the head or has another key. -/
theorem head_ne (hrow : row ∈ table.rows) (hne : row ≠ key) : row.key ≠ key.key := fun heq =>
  hne (h.eq_of_key hrow h.head_mem.1 heq)

theorem settled_of_ne (hrow : row ∈ table.ofFeature feature) (hne : row ≠ key)
    (hrest : row ∉ rest) : Settled options now row :=
  h.settled row hrow (List.not_mem_cons_of_ne_of_not_mem hne hrest)

theorem pass (hsettled : Settled options now key) :
    Midway options now feature before rest (n + if key.isOpen then 1 else 0) table where
  unique := h.unique
  subset := fun row hrow => h.subset (List.mem_cons_of_mem _ hrow)
  sorted := (List.pairwise_cons.mp h.sorted).2
  settled := by
    intro row hrow hrest
    by_cases heq : row = key
    · exact heq ▸ hsettled
    · exact h.settled_of_ne hrow heq hrest
  opened := by
    intro hpos
    by_cases hopen : key.isOpen
    · exact ⟨key, h.subset List.mem_cons_self, h.head_not_mem, hopen⟩
    · rw [if_neg hopen] at hpos
      obtain ⟨row, hrow, hrest, hopen⟩ := h.opened hpos
      exact ⟨row, hrow, fun hmem => hrest (List.mem_cons_of_mem _ hmem), hopen⟩
  spare := by
    intro row hrow
    have hroom := h.spare row hrow
    rw [List.countP_cons] at hroom
    omega
  origin := fun hzero => h.origin (Nat.eq_zero_of_add_eq_zero_right hzero)
  others := h.others

theorem delete (hdelete : shouldDeleteKey key now = true) :
    Midway options now feature before rest n (table.delete key.key) := by
  have hmem : ∀ other row, row ∈ (table.delete key.key).ofFeature other ↔
      row ∈ table.ofFeature other ∧ row ≠ key := by
    intro other row
    rw [mem_ofFeature, mem_ofFeature, KeyTable.delete, List.mem_filter, decide_eq_true_eq]
    constructor
    · rintro ⟨⟨hrow, hkey⟩, hfeature⟩
      exact ⟨⟨hrow, hfeature⟩, fun heq => hkey (congrArg CryptoKeyRow.key heq)⟩
    · rintro ⟨⟨hrow, hfeature⟩, hne⟩
      exact ⟨⟨hrow, h.head_ne hrow hne⟩, hfeature⟩
  refine ⟨h.unique.sublist (List.filter_sublist.map _), ?_, (List.pairwise_cons.mp h.sorted).2,
    ?_, ?_, ?_, ?_, ?_⟩
  · intro row hrow
    refine (hmem feature row).mpr ⟨h.subset (List.mem_cons_of_mem _ hrow), ?_⟩
    rintro rfl
    exact h.head_not_mem hrow
  · intro row hrow hrest
    obtain ⟨hrow, hne⟩ := (hmem feature row).mp hrow
    exact h.settled_of_ne hrow hne hrest
  · intro hpos
    obtain ⟨row, hrow, hrest, hopen⟩ := h.opened hpos
    obtain ⟨hne, hrest⟩ := List.ne_and_not_mem_of_not_mem_cons hrest
    exact ⟨row, (hmem feature row).mpr ⟨hrow, hne⟩, hrest, hopen⟩
  · intro row hrow
    have hroom := h.spare row ((hmem feature row).mp hrow).1
    rw [List.countP_cons] at hroom
    omega
  · exact fun hzero row hrow => h.origin hzero ((hmem feature row).mp hrow).1
  · intro other hother
    rw [← h.others other hother, KeyTable.ofFeature, KeyTable.delete, List.filter_filter]
    refine List.filter_congr fun row _ => ?_
    by_cases hfeature : row.feature = other
    · have hkey : row.key ≠ key.key := fun heq =>
        hother (hfeature.symm.trans ((congrArg Prod.fst heq).trans h.head_mem.2))
      simp [hfeature, hkey]
    · simp [hfeature]

section Rotate

variable (hdue : isDue options now key = true)

include hdue

theorem spare_of_due : Spare table feature (rest.countP (isDue options now) + 1) := by
  intro row hrow
  have hroom := h.spare row hrow
  rw [List.countP_cons_of_pos hdue] at hroom
  omega

theorem fresh_rotate {secret : List UInt8} {startsAt deletesAt : OffsetDateTime} :
    (table.stampDeletesAt key.key deletesAt).hasKey
      (table.nextKey feature secret startsAt).key = false := by
  refine KeyTable.hasKey_of_forall_ne fun row hrow => ?_
  have hkeys := table.map_key_stampDeletesAt key.key deletesAt
  obtain ⟨r, hr, hkey⟩ := List.mem_map.mp (hkeys ▸ List.mem_map_of_mem hrow)
  rw [← hkey]
  exact (h.spare_of_due hdue).fresh r hr

theorem rotate (hlong : oneHour < durationToTimeDuration options.keyDuration)
    {startsAt deletesAt : OffsetDateTime} (hle : now ≤ startsAt) (hlt : now < deletesAt)
    (secret : List UInt8) :
    Midway options now feature before rest (n + 1)
      ((table.stampDeletesAt key.key deletesAt).push
        (table.nextKey feature secret startsAt)) := by
  have hnext := (h.spare_of_due hdue).toInt_next (h.subset List.mem_cons_self)
  -- a row of the feature was there before, or is the old one with its end, or the successor
  have hcases : ∀ row ∈ ((table.stampDeletesAt key.key deletesAt).push
      (table.nextKey feature secret startsAt)).ofFeature feature,
      (row ∈ table.ofFeature feature ∧ row ≠ key) ∨ row = key.stamped deletesAt ∨
        row = table.nextKey feature secret startsAt := by
    intro row hrow
    obtain ⟨hrow, hfeature⟩ := mem_ofFeature.mp hrow
    obtain hrow | hrow := List.mem_append.mp hrow
    · obtain ⟨r, hr, rfl⟩ := List.mem_map.mp hrow
      by_cases hkey : r.key = key.key
      · obtain rfl := h.eq_of_key hr h.head_mem.1 hkey
        exact .inr (.inl (if_pos rfl))
      · rw [if_neg hkey] at hfeature ⊢
        exact .inl ⟨mem_ofFeature.mpr ⟨hr, hfeature⟩, fun heq => hkey (congrArg _ heq)⟩
    · exact .inr (.inr (List.mem_singleton.mp hrow))
  refine ⟨?_, ?_, (List.pairwise_cons.mp h.sorted).2, ?_, fun _ => ?_, ?_,
    fun hzero => absurd hzero (Nat.succ_ne_zero n), ?_⟩
  · refine KeyTable.nodup_push ?_ (h.fresh_rotate hdue)
    rw [KeyTable.map_key_stampDeletesAt]
    exact h.unique
  · intro row hrow
    obtain ⟨hmem, hfeature⟩ := mem_ofFeature.mp (h.subset (List.mem_cons_of_mem _ hrow))
    have hne : row ≠ key := fun heq => h.head_not_mem (heq ▸ hrow)
    exact mem_ofFeature.mpr ⟨List.mem_append_left _
      (KeyTable.mem_stampDeletesAt_of_ne hmem (h.head_ne hmem hne)), hfeature⟩
  · intro row hrow hrest
    obtain ⟨hrow, hne⟩ | rfl | rfl := hcases row hrow
    · exact h.settled_of_ne hrow hne hrest
    · exact settled_stamped hlt
    · exact settled_nextKey hlong hle secret
  · refine ⟨table.nextKey feature secret startsAt, mem_ofFeature.mpr
      ⟨List.mem_append_right _ List.mem_cons_self, rfl⟩, fun hmem => ?_, rfl⟩
    have hold := mem_ofFeature.mp (h.subset (List.mem_cons_of_mem _ hmem))
    exact (h.spare_of_due hdue).fresh _ hold.1 rfl
  · intro row hrow
    obtain ⟨hrow, -⟩ | rfl | rfl := hcases row hrow
    · have hroom := h.spare_of_due hdue row hrow
      omega
    · have hroom := h.spare_of_due hdue key (h.subset List.mem_cons_self)
      change key.sequence.toInt + _ ≤ _
      omega
    · change (table.maxSequence feature + 1).toInt + _ ≤ _
      omega
  · intro other hother
    have hkey : key.key.1 ≠ other := fun heq => hother (heq.symm.trans h.head_mem.2)
    rw [ofFeature_push_of_ne hother.symm, ofFeature_stampDeletesAt_of_ne hkey,
      h.others other hother]

end Rotate

end Head

end Midway

/-- A world in which every call succeeds. -/
def World.steady (keys : KeyTable) (entropy : Stream' UInt8) : World :=
  ⟨keys, .const .succeeds, entropy⟩

theorem storeCall_steady {α : Type} {op : KeyTable → Except StorageError (α × KeyTable)} {a : α}
    {keys : KeyTable} {entropy : Stream' UInt8} (hop : op table = .ok (a, keys)) :
    storeCall op (.steady table entropy) = (.ok a, .steady keys entropy) := by
  rw [storeCall_ok rfl hop]
  rfl

theorem successorTimes_eq_some {old : CryptoKeyRow} {startsAt deletesAt : OffsetDateTime}
    (h : successorTimes options now old = some (startsAt, deletesAt)) :
    minStartsAt old now options.keyDuration options.interval = some startsAt ∧
      retiresAt startsAt old.feature = some deletesAt := by
  obtain ⟨s, hstarts, h⟩ := Option.bind_eq_some_iff.mp h
  obtain ⟨d, hdeletes, h⟩ := Option.bind_eq_some_iff.mp h
  cases h
  exact ⟨hstarts, hdeletes⟩

section Queue

variable {before : KeyTable} {keys : List CryptoKeyRow}
  (hlong : oneHour < durationToTimeDuration options.keyDuration)

include hlong

/-- The turn of a row, unless it asks for an instant out of range. -/
theorem Midway.turn (h : Midway options now feature before (key :: keys) n table)
    (hrange : isBlocked options now key = false) (entropy : Stream' UInt8) :
    ∃ table' entropy', sweepKeys options now (key :: keys) n (.steady table entropy) =
        sweepKeys options now keys (n + if key.isOpen then 1 else 0) (.steady table' entropy') ∧
      Midway options now feature before keys (n + if key.isOpen then 1 else 0) table' := by
  obtain ⟨hmem, rfl⟩ := h.head_mem
  -- the branches of the inner loop, in the order of the source
  by_cases hdelete : shouldDeleteKey key now = true
  · have hclosed : key.isOpen = false := by
      rw [shouldDeleteKey] at hdelete
      split at hdelete
      case h_1 hdeletes => rw [CryptoKeyRow.isOpen, hdeletes, Option.isNone_some]
      case h_2 => cases hdelete
    rw [hclosed, if_neg Bool.false_ne_true]
    exact ⟨table.delete key.key, entropy, sweepKeys_delete hdelete (storeCall_steady rfl),
      h.delete hdelete⟩
  · rw [Bool.not_eq_true] at hdelete
    rw [isBlocked] at hrange
    split at hrange
    case h_1 => cases hrange
    case h_2 hrotate =>
      have hsettled : Settled options now key := ⟨hdelete, by rw [isDue, hrotate]; rfl⟩
      refine ⟨table, entropy, ?_, h.pass hsettled⟩
      rw [sweepKeys_pass hsettled (by simp [hrotate])]
    case h_3 hrotate =>
      obtain ⟨⟨startsAt, deletesAt⟩, htimes⟩ := Option.isSome_iff_exists.mp
        (Option.isNone_eq_false_iff.mp hrange)
      obtain ⟨hstarts, hdeletes⟩ := successorTimes_eq_some htimes
      have hdue : isDue options now key = true := by
        rw [isDue, hrotate]
        rfl
      have hopen := shouldRotateKey_open hrotate
      have hle := le_minStartsAt hstarts
      have hrotated := rotateKey_ok (w := .steady table entropy) hstarts hdeletes rfl rfl rfl
        (KeyTable.hasKey_of_mem hmem) (h.fresh_rotate hdue)
      rw [CryptoKeyRow.isOpen, hopen, Option.isNone_none, if_pos rfl]
      exact ⟨_, _, sweepKeys_rotate hopen hrotate (result_ok hrotated),
        h.rotate hdue hlong hle (hle.trans_lt (lt_of_retiresAt hdeletes)) _⟩

/-- The queue of a feature is worked off, or a row that asks for an instant out of range ends the
sweep. -/
theorem Midway.sweepKeys (h : Midway options now feature before keys n table)
    (entropy : Stream' UInt8) :
    (∃ table' entropy', sweepKeys options now keys n (.steady table entropy) =
        (.ok (n + keys.countP (·.isOpen)), .steady table' entropy') ∧
      Midway options now feature before [] (n + keys.countP (·.isOpen)) table') ∨
    (∃ table' entropy' row rest n', sweepKeys options now keys n (.steady table entropy) =
        (.error .panic, .steady table' entropy') ∧ row ∈ keys ∧ isBlocked options now row ∧
      Midway options now feature before (row :: rest) n' table') := by
  induction keys generalizing n table entropy with
  | nil => exact .inl ⟨table, entropy, rfl, h⟩
  | cons key keys ih =>
    cases hrange : isBlocked options now key with
    | true =>
      exact .inr ⟨table, entropy, key, keys, n, sweepKeys_blocked hrange, List.mem_cons_self,
        hrange, h⟩
    | false =>
      obtain ⟨table₁, entropy₁, hturn, hnext⟩ := h.turn hlong hrange entropy
      have hcount : n + (key :: keys).countP (·.isOpen) =
          n + (if key.isOpen then 1 else 0) + keys.countP (·.isOpen) := by
        rw [List.countP_cons]
        omega
      rw [hturn, hcount]
      obtain hdone | ⟨table', entropy', row, rest, n', hend, hrow, hstuck⟩ := ih hnext entropy₁
      · exact .inl hdone
      · exact .inr ⟨table', entropy', row, rest, n', hend, List.mem_cons_of_mem _ hrow, hstuck⟩

end Queue

/-! ## The features one after another -/

/-- How many rows a sweep adds for a feature: one for each that is due, and one where none is
open. -/
def newKeys (options : RotatorOptions) (now : OffsetDateTime) (table : KeyTable)
    (feature : CryptoKeyFeature) : Nat :=
  (table.ofFeature feature).countP (isDue options now) +
    if (table.ofFeature feature).any (·.isOpen) then 0 else 1

/-- The numbers that a sweep gives out are within an `i32`. They follow the greatest one of the
feature, which is looked up after the last deletion where no row is open. -/
def Room (options : RotatorOptions) (now : OffsetDateTime) (table : KeyTable) : Prop :=
  ∀ row ∈ table.rows,
    (shouldDeleteKey row now = true ∧ (table.ofFeature row.feature).any (·.isOpen) = false) ∨
      row.sequence.toInt + newKeys options now table row.feature ≤ 2 ^ 31 - 1

theorem sorted_queue (hunique : (table.rows.map CryptoKeyRow.key).Nodup)
    (feature : CryptoKeyFeature) : (table.queue feature).Pairwise (·.sequence < ·.sequence) := by
  let before (a b : CryptoKeyRow) : Prop := a.feature.sqlOrder < b.feature.sqlOrder ∨
    (a.feature.sqlOrder = b.feature.sqlOrder ∧ a.sequence ≤ b.sequence)
  have : Std.Total before := by
    refine ⟨fun a b => ?_⟩
    simp only [before, Int32.le_iff_toInt_le]
    omega
  have : IsTrans CryptoKeyRow before := by
    refine ⟨fun a b c hab hbc => ?_⟩
    simp only [before, Int32.le_iff_toInt_le] at hab hbc ⊢
    omega
  have hlist : table.listAll.Pairwise before := List.pairwise_insertionSort _ _
  have hkeys : (table.listAll.map CryptoKeyRow.key).Nodup :=
    (table.listAll_perm.map _).nodup_iff.mpr hunique
  refine ((hlist.and (List.pairwise_map.mp hkeys)).sublist List.filter_sublist).imp_of_mem ?_
  intro a b ha hb ⟨hle, hne⟩
  have hfeature : a.feature = b.feature := by
    rw [of_decide_eq_true (List.mem_filter.mp ha).2, of_decide_eq_true (List.mem_filter.mp hb).2]
  obtain hlt | ⟨-, hle⟩ := hle
  · rw [hfeature] at hlt
    exact absurd hlt (Nat.lt_irrefl _)
  · exact Int32.lt_of_le_of_ne hle fun heq => hne (Prod.ext hfeature heq)

theorem AtRest.of_eq {table' : KeyTable} (h : AtRest options now feature table)
    (heq : table'.ofFeature feature = table.ofFeature feature) :
    AtRest options now feature table' :=
  ⟨heq ▸ h.settled, heq ▸ h.opened⟩

namespace Midway

variable {before base : KeyTable} {rest : List CryptoKeyRow}

theorem start (hbase : (base.rows.map CryptoKeyRow.key).Nodup) (hroom : Room options now base)
    (hunique : (table.rows.map CryptoKeyRow.key).Nodup)
    (hsame : table.ofFeature feature = base.ofFeature feature) :
    Midway options now feature table (base.queue feature) 0 table where
  unique := hunique
  subset := fun row hrow => hsame ▸ mem_queue.mp hrow
  sorted := sorted_queue hbase feature
  settled := fun row hrow hrest => absurd (mem_queue.mpr (hsame ▸ hrow)) hrest
  opened := fun hpos => absurd rfl hpos
  spare := by
    intro row hrow
    rw [hsame] at hrow
    obtain ⟨hmem, rfl⟩ := mem_ofFeature.mp hrow
    rw [(queue_perm base row.feature).countP_eq]
    obtain ⟨-, hclosed⟩ | hfits := hroom row hmem
    · have hnone : (base.ofFeature row.feature).countP (isDue options now) = 0 := by
        refine List.countP_eq_zero.mpr fun r hr hdue => ?_
        have hopen := shouldRotateKey_open (beq_iff_eq.mp hdue)
        have := List.any_eq_false.mp hclosed r hr
        exact this (Option.isNone_iff_eq_none.mpr hopen)
      have hlt := row.sequence.toInt_lt
      omega
    · rw [newKeys] at hfits
      omega
  origin := fun _ => List.Subset.refl _
  others := fun _ _ => rfl

/-- The rows that come before one that has not had its turn have had theirs. -/
theorem stuck (h : Midway options now feature before (row :: rest) n table) :
    ∃ kept tail, table.queue feature = kept ++ row :: tail ∧
      ∀ key ∈ kept, Settled options now key := by
  obtain ⟨kept, tail, hqueue, hnew⟩ :=
    List.eq_append_cons_of_mem (mem_queue.mpr (h.subset List.mem_cons_self))
  have hsorted := sorted_queue h.unique feature
  rw [hqueue] at hsorted
  refine ⟨kept, tail, hqueue, fun key hkey => ?_⟩
  -- what comes before `row` has a smaller number, and the rows still to come have greater ones
  have hlt := (List.pairwise_append.mp hsorted).2.2 key hkey row List.mem_cons_self
  have hmem : key ∈ table.queue feature := hqueue ▸ List.mem_append_left _ hkey
  refine h.settled_of_ne (mem_queue.mp hmem) (fun heq => hnew (heq ▸ hkey)) fun hrest => ?_
  exact Int32.lt_asymm hlt ((List.pairwise_cons.mp h.sorted).1 key hrest)

theorem atRest (h : Midway options now feature before [] n table) (hpos : n ≠ 0) :
    AtRest options now feature table := by
  refine ⟨fun row hrow => h.settled row hrow List.not_mem_nil, ?_⟩
  obtain ⟨row, hrow, -, hopen⟩ := h.opened hpos
  exact ⟨row, hrow, hopen⟩

/-- Where no row is open, the rows that are left are those that are not to be deleted yet. -/
theorem fresh_insert (h : Midway options now feature before [] 0 table)
    (hroom : Room options now base) (hsame : before.ofFeature feature = base.ofFeature feature)
    (hclosed : (base.ofFeature feature).any (·.isOpen) = false) {secret : List UInt8} :
    table.hasKey (table.nextKey feature secret now).key = false := by
  have hspare : Spare table feature (0 + 1) := by
    intro row hrow
    have hkept := (h.settled row hrow List.not_mem_nil).kept
    obtain ⟨hmem, rfl⟩ := mem_ofFeature.mp (hsame ▸ h.origin rfl hrow)
    obtain ⟨hdelete, -⟩ | hfits := hroom row hmem
    · rw [hkept] at hdelete
      cases hdelete
    · rw [newKeys, hclosed, if_neg Bool.false_ne_true] at hfits
      omega
  exact KeyTable.hasKey_of_forall_ne hspare.fresh

theorem atRest_insert (h : Midway options now feature before [] n table)
    (hlong : oneHour < durationToTimeDuration options.keyDuration) (secret : List UInt8) :
    AtRest options now feature (table.push (table.nextKey feature secret now)) := by
  refine ⟨fun row hrow => ?_, table.nextKey feature secret now, ?_, rfl⟩
  · obtain ⟨hrow, hfeature⟩ := mem_ofFeature.mp hrow
    obtain hrow | hrow := List.mem_append.mp hrow
    · exact h.settled row (mem_ofFeature.mpr ⟨hrow, hfeature⟩) List.not_mem_nil
    · rw [List.mem_singleton.mp hrow]
      exact settled_nextKey hlong le_rfl secret
  · exact mem_ofFeature.mpr ⟨List.mem_append_right _ List.mem_cons_self, rfl⟩

end Midway

section Features

variable {base : KeyTable} {features : List CryptoKeyFeature} {byFeature : ByFeature}
  (hlong : oneHour < durationToTimeDuration options.keyDuration)
  (hbase : (base.rows.map CryptoKeyRow.key).Nodup) (hroom : Room options now base)

include hlong hbase hroom

/-- The turn of a feature brings it to rest, or ends the sweep where the next one will end. -/
theorem sweepFeatures_turn (hgroup : (byFeature.lookup feature).getD [] = base.queue feature)
    (hunique : (table.rows.map CryptoKeyRow.key).Nodup)
    (hsame : table.ofFeature feature = base.ofFeature feature) (entropy : Stream' UInt8) :
    ∃ table' entropy', (∀ other, other ≠ feature →
        table'.ofFeature other = table.ofFeature other) ∧
      (sweepFeatures options now (feature :: features) byFeature (.steady table entropy) =
          sweepFeatures options now features (byFeature.erase feature) (.steady table' entropy') ∧
        (table'.rows.map CryptoKeyRow.key).Nodup ∧ AtRest options now feature table' ∨
      sweepFeatures options now (feature :: features) byFeature (.steady table entropy) =
          (.error .panic, .steady table' entropy') ∧
        (∃ row ∈ base.rows, isBlocked options now row) ∧
        Still options now table' (feature :: features)) := by
  have hstart := Midway.start hbase hroom hunique hsame
  rw [sweepFeatures, hgroup]
  obtain ⟨table₁, entropy₁, hend, hdone⟩ | ⟨table₁, entropy₁, row, rest, n, hend, hrow, hblocked,
    hstuck⟩ := hstart.sweepKeys hlong entropy
  · rw [Effect.bind_ok hend]
    by_cases hnone : 0 + (base.queue feature).countP (·.isOpen) = 0
    · -- no row is open, and there is room for the one that is inserted
      rw [if_pos hnone]
      rw [hnone] at hdone
      rw [Nat.zero_add, (queue_perm base feature).countP_eq, List.countP_eq_zero] at hnone
      let secret := entropy₁.take (secretByteLength feature)
      have hfresh : table₁.hasKey (table₁.nextKey feature secret now).key = false :=
        hdone.fresh_insert hroom hsame (List.any_eq_false.mpr hnone)
      have hinsert : insertNewKey feature now (.steady table₁ entropy₁) =
          (.ok (), .steady (table₁.push (table₁.nextKey feature secret now))
            (entropy₁.drop (secretByteLength feature))) :=
        insertNewKey_ok rfl rfl rfl hfresh
      refine ⟨_, _, fun other hother => ?_, .inl ⟨Effect.bind_ok (result_ok hinsert),
        KeyTable.nodup_push hdone.unique hfresh, hdone.atRest_insert hlong secret⟩⟩
      exact (ofFeature_push_of_ne hother.symm).trans (hdone.others other hother)
    · rw [if_neg hnone]
      exact ⟨table₁, entropy₁, hdone.others, .inl ⟨rfl, hdone.unique, hdone.atRest hnone⟩⟩
  · -- the next sweep comes to the same row, with nothing to do before it
    obtain ⟨kept, tail, hqueue, hkept⟩ := hstuck.stuck
    have hmem := mem_ofFeature.mp (mem_queue.mp hrow)
    exact ⟨table₁, entropy₁, hstuck.others, .inr ⟨Effect.bind_error hend,
      ⟨row, hmem.1, hblocked⟩, .inl ⟨kept, row, tail, hqueue, hkept, hblocked⟩⟩⟩

/-- However the sweep ends, another one would end there too. -/
theorem sweepFeatures_steady (hnodup : features.Nodup)
    (hgroups : ∀ feature ∈ features, (byFeature.lookup feature).getD [] = base.queue feature)
    (hunique : (table.rows.map CryptoKeyRow.key).Nodup)
    (hsame : ∀ feature ∈ features, table.ofFeature feature = base.ofFeature feature)
    (entropy : Stream' UInt8) :
    ∃ table' entropy', (∀ other ∉ features, table'.ofFeature other = table.ofFeature other) ∧
      Still options now table' features ∧
      (sweepFeatures options now features byFeature (.steady table entropy) =
          (.ok (), .steady table' entropy') ∧
        (∀ feature ∈ features, AtRest options now feature table') ∨
      sweepFeatures options now features byFeature (.steady table entropy) =
          (.error .panic, .steady table' entropy') ∧
        ∃ row ∈ base.rows, isBlocked options now row) := by
  induction features generalizing table entropy byFeature with
  | nil =>
    exact ⟨table, entropy, fun _ _ => rfl, trivial,
      .inl ⟨rfl, fun _ hmem => absurd hmem List.not_mem_nil⟩⟩
  | cons feature features ih =>
    obtain ⟨hnew, hnodup⟩ := List.nodup_cons.mp hnodup
    obtain ⟨hfirst, hsame⟩ := List.forall_mem_cons.mp hsame
    obtain ⟨table₁, entropy₁, hothers, ⟨hturn, hunique, hrest⟩ | ⟨hend, hblocked, hstill⟩⟩ :=
      sweepFeatures_turn hlong hbase hroom (hgroups feature List.mem_cons_self) hunique hfirst
        entropy
    · have hnext : ∀ other ∈ features, table₁.ofFeature other = base.ofFeature other := by
        intro other hother
        rw [hothers other fun heq => hnew (heq ▸ hother), hsame other hother]
      obtain ⟨table', entropy', hkept, hstill, hend⟩ :=
        ih hnodup (lookup_erase_group hnew hgroups) hunique hnext entropy₁
      have hrest := hrest.of_eq (hkept feature hnew)
      refine ⟨table', entropy', fun other hother => ?_, .inr ⟨hrest, hstill⟩, ?_⟩
      · obtain ⟨hne, hmem⟩ := List.ne_and_not_mem_of_not_mem_cons hother
        rw [hkept other hmem, hothers other hne]
      · rw [hturn]
        exact hend.imp_left fun ⟨hend, hall⟩ => ⟨hend, List.forall_mem_cons.mpr ⟨hrest, hall⟩⟩
    · refine ⟨table₁, entropy₁, fun other hother => ?_, hstill, .inr ⟨hend, hblocked⟩⟩
      exact hothers other (List.ne_of_not_mem_cons hother)

end Features

/-! ## Two sweeps -/

/-- A sweep that gets the lock, and whose calls succeed. -/
def quietSweep (options : RotatorOptions) (now : OffsetDateTime) (entropy : Stream' UInt8) :
    Sweep where
  now := now
  options := options
  heldElsewhere := false
  outcomes := .const .succeeds
  entropy := entropy

theorem quietSweep_apply {table' : KeyTable} {entropy entropy' : Stream' UInt8}
    {r : Except Stop Unit} (hr : r = .ok () ∨ r = .error .panic)
    (h : rotateOnceLocked options now (.steady table entropy) = (r, .steady table' entropy')) :
    (quietSweep options now entropy).apply table = table' := by
  have hlock : tryAcquireRotationLock false (.steady table entropy) =
      (.ok true, .steady table entropy) := storeCall_steady rfl
  have hrelease : releaseRotationLock (.steady table' entropy') =
      (.ok (), .steady table' entropy') := storeCall_steady rfl
  have honce : rotateOnce options now false (.steady table entropy) =
      (r, .steady table' entropy') := by
    refine (Effect.bind_ok hlock).trans ?_
    obtain rfl | rfl := hr
    · refine (Effect.bind_ok (result_ok h)).trans ?_
      exact (Effect.bind_ok (result_ok hrelease)).trans rfl
    · -- the lock is not given back
      exact Effect.bind_error (result_panic h)
  exact congrArg (fun end' => end'.2.keys) honce

/-- A quiet sweep ends where another one writes nothing, and with all features at rest unless it
panics. -/
theorem still_quietSweep (hlong : oneHour < durationToTimeDuration options.keyDuration)
    (hunique : (table.rows.map CryptoKeyRow.key).Nodup) (hroom : Room options now table)
    (entropy : Stream' UInt8) :
    Still options now ((quietSweep options now entropy).apply table) managedFeatures ∧
      ((∃ row ∈ table.rows, isBlocked options now row) ∨ ∀ feature ∈ managedFeatures,
        AtRest options now feature ((quietSweep options now entropy).apply table)) := by
  obtain ⟨table', entropy', -, hstill, hend⟩ :=
    sweepFeatures_steady hlong hunique hroom (by decide : managedFeatures.Nodup)
      (fun feature _ => lookup_groupByFeature table.listAll feature) hunique
      (fun _ _ => rfl) entropy
  have hlist : CryptoKeys.listAll (.steady table entropy) =
      (.ok table.listAll, .steady table entropy) := storeCall_steady rfl
  obtain ⟨hend, hrest⟩ | ⟨hend, hblocked⟩ := hend
  · rw [quietSweep_apply (.inl rfl) ((Effect.bind_ok hlist).trans hend)]
    exact ⟨hstill, .inr hrest⟩
  · rw [quietSweep_apply (.inr rfl) ((Effect.bind_ok hlist).trans hend)]
    exact ⟨hstill, .inl hblocked⟩

theorem oneHour_lt (h : (Duration.fromSecs 3600).nanos < options.keyDuration.nanos) :
    oneHour < durationToTimeDuration options.keyDuration := by
  have hhour : (Duration.fromSecs 3600).nanos = 3600 * 10 ^ 9 := rfl
  rw [oneHour, durationToTimeDuration]
  omega

/-- A second sweep at the same instant changes nothing, even after a panic. Where no instant is out
of range the first one leaves every feature with an open row, and no row behind that is due to be
deleted. -/
theorem rotateOnce_idempotent (options : RotatorOptions) (now : OffsetDateTime) (table : KeyTable)
    (hlong : (Duration.fromSecs 3600).nanos < options.keyDuration.nanos)
    (hunique : (table.rows.map CryptoKeyRow.key).Nodup) (hroom : Room options now table) :
    (∀ first second once : Stream' UInt8,
      (runSweeps table [quietSweep options now first,
        quietSweep options now second]).withoutSecrets =
      (runSweeps table [quietSweep options now once]).withoutSecrets) ∧
    ((∀ row ∈ table.rows, isBlocked options now row = false) → ∀ entropy : Stream' UInt8,
      (∀ feature ∈ managedFeatures,
        ∃ row ∈ (runSweeps table [quietSweep options now entropy]).rows,
          row.feature = feature ∧ row.deletesAt = none) ∧
      ∀ row ∈ (runSweeps table [quietSweep options now entropy]).rows,
        ∀ deletesAt ∈ row.deletesAt, now < deletesAt) := by
  have hquiet := still_quietSweep (oneHour_lt hlong) hunique hroom
  refine ⟨fun first second once => ?_, fun hrange entropy => ?_⟩
  · have htwice : (quietSweep options now second).apply
        ((quietSweep options now first).apply table) =
          (quietSweep options now first).apply table := Still.apply (hquiet first).1
    show ((quietSweep options now second).apply _).withoutSecrets =
      ((quietSweep options now once).apply table).withoutSecrets
    rw [htwice]
    exact Sweep.apply_withoutSecrets rfl rfl
  · obtain ⟨row, hrow, hblocked⟩ | hrest := (hquiet entropy).2
    · exact absurd hblocked (by rw [hrange row hrow]; exact Bool.false_ne_true)
    · refine ⟨fun feature hfeature => ?_, fun row hrow deletesAt hdeletes => ?_⟩
      · obtain ⟨row, hrow, hopen⟩ := (hrest feature hfeature).opened
        obtain ⟨hrow, hfeature⟩ := mem_ofFeature.mp hrow
        exact ⟨row, hrow, hfeature, Option.isNone_iff_eq_none.mp hopen⟩
      · have hmanaged : row.feature ∈ managedFeatures := by cases row.feature <;> decide
        have hkept := ((hrest row.feature hmanaged).settled row
          (mem_ofFeature.mpr ⟨hrow, rfl⟩)).kept
        rw [shouldDeleteKey, Option.mem_def.mp hdeletes] at hkept
        exact not_le.mp (of_decide_eq_false hkept)

def numberedKey (sequence : Int32) (deletesAt : Option OffsetDateTime) : CryptoKeyRow where
  feature := .workspaceAppsApiKey
  sequence := sequence
  secret := []
  startsAt := .unixEpoch
  deletesAt := deletesAt

/-- Thirty days after the epoch, the default `key_duration`. -/
def monthLater : OffsetDateTime := ⟨30 * 24 * 60 * 60 * 10 ^ 9, by decide, by decide⟩

def monthLaterSweep : Sweep := quietSweep default monthLater (.const 0)

def agedKeys : KeyTable := ⟨[numberedKey 1 none], []⟩

theorem rotateOnce_idempotent_agedKeys :
    (runSweeps agedKeys [monthLaterSweep, monthLaterSweep]).withoutSecrets =
        (runSweeps agedKeys [monthLaterSweep]).withoutSecrets ∧
      ∃ row ∈ (runSweeps agedKeys [monthLaterSweep]).rows,
        row.feature = .workspaceAppsApiKey ∧ row.deletesAt = none := by
  obtain ⟨htwice, hrest⟩ := rotateOnce_idempotent default monthLater agedKeys (by decide)
    (by decide) (by rw [Room]; decide +kernel)
  have honce := hrest (by decide +kernel) (.const 0)
  exact ⟨htwice (.const 0) (.const 0) (.const 0), honce.1 .workspaceAppsApiKey (by decide)⟩

def dayLater : OffsetDateTime := ⟨31 * 24 * 60 * 60 * 10 ^ 9, by decide, by decide⟩

/-- Keys that last for ten thousand years, which is past the year 9999. -/
def tenThousandYears : RotatorOptions where
  interval := .fromSecs (5 * 60)
  keyDuration := .fromSecs (10000 * 365 * 24 * 60 * 60)

/-- The row with the greatest number goes after the one before it has been due. -/
def overflowingKeys : KeyTable :=
  ⟨[numberedKey .minValue (some dayLater), numberedKey 1 none,
    numberedKey .maxValue (some .unixEpoch)], []⟩

/-- The least and the greatest number are taken, and no row is open. -/
def exhaustedKeys : KeyTable :=
  ⟨[numberedKey .minValue (some dayLater), numberedKey .maxValue (some dayLater)], []⟩

/-- A key whose end is past the year 9999 keeps the sweep from the other features. The number
after `i32::MAX` is `i32::MIN`; where that is taken a row is rotated by the second sweep only, or
none is inserted. -/
theorem rotateOnce_not_idempotent :
    ((Duration.fromSecs 3600).nanos < tenThousandYears.keyDuration.nanos ∧
      ¬ ∃ row ∈ (runSweeps agedKeys [quietSweep tenThousandYears monthLater (.const 0)]).rows,
        row.feature = .workspaceAppsToken) ∧
    ((Duration.fromSecs 3600).nanos < monthLaterSweep.options.keyDuration.nanos ∧
      (overflowingKeys.rows.map CryptoKeyRow.key).Nodup ∧
      (runSweeps overflowingKeys [monthLaterSweep, monthLaterSweep]).withoutSecrets ≠
        (runSweeps overflowingKeys [monthLaterSweep]).withoutSecrets) ∧
    ((exhaustedKeys.rows.map CryptoKeyRow.key).Nodup ∧
      ¬ ∃ row ∈ (runSweeps exhaustedKeys [monthLaterSweep]).rows,
        row.feature = .workspaceAppsApiKey ∧ row.deletesAt = none) := by
  refine ⟨⟨by decide, by decide +kernel⟩, ⟨by decide, by decide, fun heq => ?_⟩, by decide,
    by decide +kernel⟩
  have hlength := congrArg (fun table => table.rows.length) heq
  revert hlength
  decide +kernel

end Coderd.CryptoKeys
