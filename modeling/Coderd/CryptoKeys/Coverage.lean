import Mathlib.Data.List.Pairwise
import Coderd.Foundation.Coverage
import Coderd.CryptoKeys.Sweep

namespace Coderd.CryptoKeys

open Coderd.Foundation

/-- A key can be used from `starts_at` on and before `deletes_at`. -/
def CryptoKeyRow.lifetime (row : CryptoKeyRow) : Lifetime OffsetDateTime :=
  ⟨row.startsAt, row.deletesAt⟩

def KeyTable.lifetimes (table : KeyTable) (feature : CryptoKeyFeature) :
    Set (Lifetime OffsetDateTime) :=
  {l | ∃ row ∈ table.rows, row.feature = feature ∧ row.lifetime = l}

/-- The primary key is respected, and from `now` on every feature that ever had a key
has a usable one. -/
structure Covered (now : OffsetDateTime) (table : KeyTable) : Prop where
  unique : (table.rows.map CryptoKeyRow.key).Nodup
  minted_of_mem : ∀ row ∈ table.rows, ∃ m ∈ table.minted, m.feature = row.feature
  covers : ∀ m ∈ table.minted, CoversFrom (table.lifetimes m.feature) now

/-- The snapshot rows a sweep has yet to look at are still in the table, unchanged. -/
structure Pending (now : OffsetDateTime) (snapshot : List CryptoKeyRow) (table : KeyTable) :
    Prop extends Covered now table where
  distinct : (snapshot.map CryptoKeyRow.key).Nodup
  subset : snapshot ⊆ table.rows

variable {now : OffsetDateTime} {table : KeyTable} {row key : CryptoKeyRow}
  {snapshot rest : List CryptoKeyRow}

theorem Covered.eq_of_key (h : Covered now table) {a b : CryptoKeyRow} (ha : a ∈ table.rows)
    (hb : b ∈ table.rows) (hkey : a.key = b.key) : a = b :=
  List.inj_on_of_nodup_map h.unique ha hb hkey

theorem Covered.delay {later : OffsetDateTime} (h : Covered now table) (hle : now ≤ later) :
    Covered later table :=
  ⟨h.unique, h.minted_of_mem, fun m hm => (h.covers m hm).delay hle⟩

theorem Pending.tail (h : Pending now (row :: rest) table) : Pending now rest table where
  toCovered := h.toCovered
  distinct := (List.nodup_cons.mp h.distinct).2
  subset := fun _ hr => h.subset (List.mem_cons_of_mem _ hr)

theorem Pending.head_ne (h : Pending now (row :: rest) table) {other : CryptoKeyRow}
    (ho : other ∈ rest) : other.key ≠ row.key := fun heq =>
  (List.nodup_cons.mp h.distinct).1 (heq ▸ List.mem_map_of_mem ho)

theorem KeyTable.hasKey_eq_false (hkey : table.hasKey key.key = false) :
    ∀ r ∈ table.rows, r.key ≠ key.key := by
  intro r hr
  have hall := List.any_eq_false.mp hkey r hr
  simpa using hall

/-! ## What the statements do to the table -/

theorem Pending.delete (h : Pending now (row :: rest) table)
    (hexpired : row.lifetime.ExpiredBy now) : Pending now rest (table.delete row.key) where
  unique := h.unique.sublist ((List.filter_sublist).map _)
  minted_of_mem := fun r hr => h.minted_of_mem r (List.mem_of_mem_filter hr)
  covers := by
    intro m hm
    apply (h.covers m hm).replace
    rintro l ⟨r, hr, hfeature, rfl⟩
    -- what is deleted was valid in the past only, and every other row is still there
    by_cases hkey : r.key = row.key
    · rw [h.eq_of_key hr (h.subset List.mem_cons_self) hkey]
      exact .inr (.inl hexpired)
    · exact .inl ⟨r, List.mem_filter.mpr ⟨hr, by simpa using hkey⟩, hfeature, rfl⟩
  distinct := h.tail.distinct
  subset := fun r hr =>
    List.mem_filter.mpr ⟨h.tail.subset hr, by simpa using h.head_ne hr⟩

theorem KeyTable.lifetimes_push (table : KeyTable) (row : CryptoKeyRow)
    (feature : CryptoKeyFeature) :
    table.lifetimes feature ⊆ (table.push row).lifetimes feature := by
  rintro l ⟨r, hr, hfeature, rfl⟩
  exact ⟨r, List.mem_append_left _ hr, hfeature, rfl⟩

theorem KeyTable.nodup_push (hunique : (table.rows.map CryptoKeyRow.key).Nodup)
    (hfresh : table.hasKey row.key = false) :
    ((table.push row).rows.map CryptoKeyRow.key).Nodup := by
  simp only [KeyTable.push, List.map_append, List.map_cons, List.map_nil]
  refine List.nodup_append.mpr ⟨hunique, List.nodup_singleton _, ?_⟩
  rintro _ ha _ hb heq
  obtain ⟨r, hr, rfl⟩ := List.mem_map.mp ha
  exact KeyTable.hasKey_eq_false hfresh r hr (heq.trans (List.mem_singleton.mp hb))

/-- A key that is valid already covers its feature by itself. -/
theorem Pending.insert (h : Pending now snapshot table) (hfresh : table.hasKey row.key = false)
    (hopen : row.deletesAt = none) (hle : row.startsAt ≤ now) :
    Pending now snapshot (table.push row) where
  unique := KeyTable.nodup_push h.unique hfresh
  minted_of_mem := by
    intro r hr
    obtain hr | hr := List.mem_append.mp hr
    · obtain ⟨m, hm, hfeature⟩ := h.minted_of_mem r hr
      exact ⟨m, List.mem_cons_of_mem _ hm, hfeature⟩
    · exact ⟨row, List.mem_cons_self, by rw [List.mem_singleton.mp hr]⟩
  covers := by
    intro m hm
    obtain rfl | hm := List.mem_cons.mp hm
    · refine CoversFrom.of_mem_open ⟨m, ?_, rfl, ?_⟩ hle
      · exact List.mem_append_right _ List.mem_cons_self
      · rw [CryptoKeyRow.lifetime, hopen]
    · exact (h.covers m hm).mono (table.lifetimes_push row m.feature)
  distinct := h.distinct
  subset := fun r hr => List.mem_append_left _ (h.subset hr)

section Rotation

variable {old : CryptoKeyRow} {deletesAt : OffsetDateTime}

def CryptoKeyRow.stamped (r : CryptoKeyRow) (deletesAt : OffsetDateTime) : CryptoKeyRow :=
  { r with deletesAt := some deletesAt }

theorem KeyTable.map_key_stampDeletesAt (table : KeyTable) (k : CryptoKeyFeature × Int32)
    (deletesAt : OffsetDateTime) :
    (table.stampDeletesAt k deletesAt).rows.map CryptoKeyRow.key =
      table.rows.map CryptoKeyRow.key := by
  simp only [KeyTable.stampDeletesAt, List.map_map]
  apply List.map_congr_left
  intro r _
  simp only [Function.comp_apply]
  split <;> rfl

theorem KeyTable.mem_stampDeletesAt_of_ne {k : CryptoKeyFeature × Int32} {r : CryptoKeyRow}
    (hr : r ∈ table.rows) (hne : r.key ≠ k) : r ∈ (table.stampDeletesAt k deletesAt).rows :=
  List.mem_map.mpr ⟨r, hr, if_neg hne⟩

theorem KeyTable.stamped_mem_stampDeletesAt (hr : old ∈ table.rows) :
    old.stamped deletesAt ∈ (table.stampDeletesAt old.key deletesAt).rows :=
  List.mem_map.mpr ⟨old, hr, if_pos rfl⟩

theorem KeyTable.feature_of_mem_stampDeletesAt {k : CryptoKeyFeature × Int32} {r : CryptoKeyRow}
    (hr : r ∈ (table.stampDeletesAt k deletesAt).rows) :
    ∃ r' ∈ table.rows, r'.feature = r.feature := by
  obtain ⟨r', hr', rfl⟩ := List.mem_map.mp hr
  refine ⟨r', hr', ?_⟩
  split <;> rfl

/-- A transaction that cuts `old` off at `deletesAt` and inserts a successor that starts
no later loses no moment, though the successor may start in the future. -/
theorem Pending.rotate (h : Pending now (old :: rest) table) (hold : old.deletesAt = none)
    (hfeature : row.feature = old.feature) (hopen : row.deletesAt = none)
    (hle : row.startsAt ≤ deletesAt)
    (hfresh : (table.stampDeletesAt old.key deletesAt).hasKey row.key = false) :
    Pending now rest ((table.stampDeletesAt old.key deletesAt).push row) := by
  have hmem : old ∈ table.rows := h.subset List.mem_cons_self
  have hminted : ∀ m ∈ row :: table.minted, ∃ m' ∈ table.minted, m'.feature = m.feature := by
    intro m hm
    obtain rfl | hm := List.mem_cons.mp hm
    · rw [hfeature]
      exact h.minted_of_mem old hmem
    · exact ⟨m, hm, rfl⟩
  refine ⟨⟨?_, ?_, ?_⟩, h.tail.distinct, ?_⟩
  · apply KeyTable.nodup_push _ hfresh
    rw [KeyTable.map_key_stampDeletesAt]
    exact h.unique
  · intro r hr
    obtain hr | hr := List.mem_append.mp hr
    · obtain ⟨r', hr', hsame⟩ := KeyTable.feature_of_mem_stampDeletesAt hr
      obtain ⟨m, hm, hm'⟩ := h.minted_of_mem r' hr'
      exact ⟨m, List.mem_cons_of_mem _ hm, hm'.trans hsame⟩
    · exact ⟨row, List.mem_cons_self, by rw [List.mem_singleton.mp hr]⟩
  · intro m hm
    obtain ⟨m', hm', hsame⟩ := hminted m hm
    rw [← hsame]
    apply (h.covers m' hm').replace
    rintro l ⟨r, hr, hrf, rfl⟩
    by_cases hkey : r.key = old.key
    · -- the only row with that key is `old` itself
      obtain rfl := h.eq_of_key hr hmem hkey
      refine .inr (.inr ⟨deletesAt, row.startsAt, hold, ?_, ?_, hle⟩)
      · exact ⟨_, List.mem_append_left _ (KeyTable.stamped_mem_stampDeletesAt hr), hrf, rfl⟩
      · refine ⟨row, List.mem_append_right _ List.mem_cons_self, hfeature.trans hrf, ?_⟩
        rw [CryptoKeyRow.lifetime, hopen]
    · exact .inl
        ⟨r, List.mem_append_left _ (KeyTable.mem_stampDeletesAt_of_ne hr hkey), hrf, rfl⟩
  · intro r hr
    apply List.mem_append_left
    exact KeyTable.mem_stampDeletesAt_of_ne (h.tail.subset hr) (h.head_ne hr)

end Rotation

/-! ## What the sweep does to the table -/

theorem shouldDeleteKey_expired (h : shouldDeleteKey key now = true) :
    key.lifetime.ExpiredBy now := by
  unfold shouldDeleteKey at h
  rcases hd : key.deletesAt with _ | d
  · simp [hd] at h
  · exact ⟨d, hd, by simpa [hd] using h⟩

theorem Covered.pending_agenda (h : Covered now table) :
    Pending now (agenda managedFeatures table.listAll) table where
  toCovered := h
  distinct := by
    have hnodup : (table.listAll.map CryptoKeyRow.key).Nodup :=
      (table.listAll_perm.map CryptoKeyRow.key).nodup_iff.mpr h.unique
    rw [agenda, List.map_flatMap]
    refine List.nodup_flatMap.mpr ⟨?_, ?_⟩
    · intro feature _
      exact hnodup.sublist (List.filter_sublist.map _)
    · -- rows of different features have different keys
      apply List.Nodup.pairwise_of_forall_ne (by decide)
      intro a _ b _ hab k hka hkb
      obtain ⟨ra, hra, rfl⟩ := List.mem_map.mp hka
      obtain ⟨rb, hrb, heq⟩ := List.mem_map.mp hkb
      have hfa := of_decide_eq_true (List.mem_filter.mp hra).2
      have hfb := of_decide_eq_true (List.mem_filter.mp hrb).2
      exact hab (hfa.symm.trans ((congrArg Prod.fst heq).symm.trans hfb))
  subset := by
    intro row hrow
    obtain ⟨feature, -, hmem⟩ := List.mem_flatMap.mp hrow
    exact table.listAll_perm.mem_iff.mp (List.mem_of_mem_filter hmem)

theorem Covered.pending_nil (h : Covered now table) : Pending now [] table where
  toCovered := h
  distinct := List.nodup_nil
  subset := List.nil_subset _

theorem pending_sweepInvariant (now : OffsetDateTime) : SweepInvariant now (Pending now) where
  snapshot h := h.toCovered.pending_agenda
  tail h := h.tail
  delete h hdelete := h.delete (shouldDeleteKey_expired hdelete)
  rotate h hopen _ _ _ hle hfresh := h.rotate hopen rfl rfl hle hfresh
  insert h _ _ hfresh := h.insert hfresh rfl le_rfl

/-! ## Whole runs -/

theorem Covered.apply (h : Covered now table) (sweep : Sweep) (hle : now ≤ sweep.now) :
    Covered sweep.now (sweep.apply table) :=
  ((pending_sweepInvariant sweep.now).apply (h.delay hle).pending_nil).toCovered

theorem Covered.run {t : OffsetDateTime} (sweeps : List Sweep)
    (hordered : (sweeps.map Sweep.now).Pairwise (· ≤ ·)) (h : Covered now table)
    (hstart : ∀ s ∈ sweeps, now ≤ s.now) (hnow : now ≤ t) (hend : ∀ s ∈ sweeps, s.now ≤ t) :
    Covered t (runSweeps table sweeps) := by
  induction sweeps generalizing now table with
  | nil => exact h.delay hnow
  | cons s sweeps ih =>
    obtain ⟨hfirst, hordered⟩ := List.pairwise_cons.mp hordered
    have hs := h.apply s (hstart s List.mem_cons_self)
    apply ih hordered hs
    · intro s' hs'
      exact hfirst _ (List.mem_map_of_mem hs')
    · exact hend s List.mem_cons_self
    · exact fun s' hs' => hend s' (List.mem_cons_of_mem _ hs')

theorem covered_empty (now : OffsetDateTime) : Covered now .empty where
  unique := List.nodup_nil
  minted_of_mem := by simp [KeyTable.empty]
  covers := by simp [KeyTable.empty]

/-- However the store, the lock and the process fail along the way, a feature that has
had a key inserted has a usable one at every instant from the last sweep on. Every prefix of a
run is a run, and so is every run whose last sweep crashes half way, so this also speaks of
the instants between the sweeps and within them. -/
theorem runSweeps_usable_key (sweeps : List Sweep)
    (hordered : (sweeps.map Sweep.now).Pairwise (· ≤ ·)) (feature : CryptoKeyFeature)
    (hminted : ∃ row ∈ (runSweeps .empty sweeps).minted, row.feature = feature)
    (instant : OffsetDateTime) (hlater : ∀ sweep ∈ sweeps, sweep.now ≤ instant) :
    ∃ row ∈ (runSweeps .empty sweeps).rows, row.feature = feature ∧
      row.startsAt ≤ instant ∧ ∀ deletesAt ∈ row.deletesAt, instant < deletesAt := by
  have hcovered : Covered instant (runSweeps .empty sweeps) :=
    (covered_empty ⟨-377705116800 * 10 ^ 9, by decide, by decide⟩).run sweeps hordered
      (fun s _ => s.now.ge_min) instant.ge_min hlater
  obtain ⟨m, hm, rfl⟩ := hminted
  obtain ⟨l, ⟨row, hrow, hfeature, rfl⟩, halive⟩ := hcovered.covers m hm instant le_rfl
  exact ⟨row, hrow, hfeature, halive.1, halive.2⟩

/-- An initial sweep, one near the end of the key's life whose transaction for
`WorkspaceAppsToken` fails, and one more ten minutes on. -/
def sampleSweeps : List Sweep :=
  let sweepAt (secs : Nat) (h : secs < 253402300800) (outcomes : Stream' CallOutcome) : Sweep :=
    { now := ⟨secs * 10 ^ 9, by omega, by omega⟩, options := default, heldElsewhere := false,
      outcomes, entropy := fun n => n.toUInt8 }
  [sweepAt 0 (by decide) (fun _ => .succeeds),
    sweepAt 2588400 (by decide)
      (fun n => if n = 5 then .fails (.unavailable "pool timed out") else .succeeds),
    sweepAt 2589000 (by decide) (fun _ => .succeeds)]

theorem runSweeps_usable_key_sampleSweeps :
    ∃ row ∈ (runSweeps .empty sampleSweeps).rows, row.feature = .workspaceAppsToken ∧
      row.startsAt ≤ ⟨9999999 * 10 ^ 9, by decide, by decide⟩ ∧
      ∀ deletesAt ∈ row.deletesAt,
        (⟨9999999 * 10 ^ 9, by decide, by decide⟩ : OffsetDateTime) < deletesAt :=
  runSweeps_usable_key sampleSweeps (by decide) .workspaceAppsToken (by decide +kernel) _
    (by decide)

end Coderd.CryptoKeys
