import Mathlib.Data.List.Induction
import Coderd.CryptoKeys.Coverage
import Coderd.CryptoKeys.Script

namespace Coderd.CryptoKeys

open Coderd.Foundation

/-! ## Counting up from one -/

/-- The sequence numbers of `n` rows numbered one after the other, the last one first. -/
def numbering : Nat → List Int32
  | 0 => []
  | n + 1 => Int32.ofNat (n + 1) :: numbering n

theorem mem_numbering {n : Nat} {s : Int32} :
    s ∈ numbering n ↔ ∃ i, 0 < i ∧ i ≤ n ∧ s = Int32.ofNat i := by
  induction n with
  | zero =>
    simp only [numbering, List.not_mem_nil, false_iff]
    rintro ⟨i, hpos, hle, -⟩
    omega
  | succ n ih =>
    rw [numbering, List.mem_cons, ih]
    constructor
    · rintro (rfl | ⟨i, hpos, hle, rfl⟩)
      · exact ⟨n + 1, by omega, le_rfl, rfl⟩
      · exact ⟨i, hpos, by omega, rfl⟩
    · rintro ⟨i, hpos, hle, rfl⟩
      obtain rfl | hlt := Nat.eq_or_lt_of_le hle
      · exact .inl rfl
      · exact .inr ⟨i, hpos, by omega, rfl⟩

theorem sequence_ofNat_inj {i j : Nat} (hi : i < 2 ^ 32) (hj : j < 2 ^ 32)
    (h : Int32.ofNat i = Int32.ofNat j) : i = j := by
  have hbits : BitVec.ofNat 32 i = BitVec.ofNat 32 j := congrArg Int32.toBitVec h
  have hnat := congrArg BitVec.toNat hbits
  rw [BitVec.toNat_ofNat, BitVec.toNat_ofNat, Nat.mod_eq_of_lt hi, Nat.mod_eq_of_lt hj] at hnat
  exact hnat

theorem numbering_nodup {n : Nat} (hn : n < 2 ^ 31) : (numbering n).Nodup := by
  induction n with
  | zero => exact List.nodup_nil
  | succ n ih =>
    refine List.nodup_cons.mpr ⟨?_, ih (by omega)⟩
    intro hmem
    obtain ⟨i, -, hle, heq⟩ := mem_numbering.mp hmem
    have := sequence_ofNat_inj (by omega) (by omega) heq
    omega

theorem le_of_mem_numbering {n : Nat} {s : Int32} (hn : n < 2 ^ 31) (h : s ∈ numbering n) :
    s ≤ Int32.ofNat n := by
  obtain ⟨i, -, hle, rfl⟩ := mem_numbering.mp h
  rw [Int32.le_iff_toInt_le, Int32.toInt_ofNat_of_lt hn, Int32.toInt_ofNat_of_lt (by omega)]
  omega

/-! ## The greatest number of a feature -/

variable {now : OffsetDateTime} {table : KeyTable} {row : CryptoKeyRow}
  {feature : CryptoKeyFeature} {rest : List CryptoKeyRow}

theorem foldl_greatest {m : Int32} {sequences : List Int32} {first : Int32}
    (hle : ∀ s ∈ first :: sequences, s ≤ m) (hmem : m ∈ first :: sequences) :
    sequences.foldl (fun greatest n => if greatest < n then n else greatest) first = m := by
  induction sequences generalizing first with
  | nil => exact (List.mem_singleton.mp hmem).symm
  | cons s sequences ih =>
    have hfirst : first ≤ m := hle first List.mem_cons_self
    have hs : s ≤ m := hle s (List.mem_cons_of_mem _ List.mem_cons_self)
    have hrest : ∀ n ∈ sequences, n ≤ m := fun n hn =>
      hle n (List.mem_cons_of_mem _ (List.mem_cons_of_mem _ hn))
    rw [List.foldl_cons]
    -- the greater of the two goes on, and it is `m` if either of them is
    split
    case isTrue hlt =>
      apply ih
      · rintro n (_ | ⟨_, hn⟩)
        · exact hs
        · exact hrest n hn
      · obtain rfl | hmem := List.mem_cons.mp hmem
        · exact absurd (Int32.lt_of_lt_of_le hlt hs) Int32.lt_irrefl
        · exact hmem
    case isFalse hlt =>
      apply ih
      · rintro n (_ | ⟨_, hn⟩)
        · exact hfirst
        · exact hrest n hn
      · obtain rfl | hmem := List.mem_cons.mp hmem
        · exact List.mem_cons_self
        · obtain rfl | hmem := List.mem_cons.mp hmem
          · rw [Int32.le_antisymm hfirst (Int32.not_lt.mp hlt)]
            exact List.mem_cons_self
          · exact List.mem_cons_of_mem _ hmem

theorem KeyTable.maxSequence_eq {m : Int32}
    (hle : ∀ r ∈ table.rows, r.feature = feature → r.sequence ≤ m)
    (hmem : ∃ r ∈ table.rows, r.feature = feature ∧ r.sequence = m) :
    table.maxSequence feature = m := by
  obtain ⟨r, hr, hfeature, hm⟩ := hmem
  have hin : m ∈ (table.rows.filter (fun row => row.feature = feature)).map
      CryptoKeyRow.sequence :=
    List.mem_map.mpr ⟨r, List.mem_filter.mpr ⟨hr, by simpa using hfeature⟩, hm⟩
  have hall : ∀ s ∈ (table.rows.filter (fun row => row.feature = feature)).map
      CryptoKeyRow.sequence, s ≤ m := by
    intro s hs
    obtain ⟨r', hr', rfl⟩ := List.mem_map.mp hs
    obtain ⟨hr', hf⟩ := List.mem_filter.mp hr'
    exact hle r' hr' (of_decide_eq_true hf)
  unfold KeyTable.maxSequence
  split
  case h_1 heq => rw [heq] at hin; cases hin
  case h_2 first sequences heq =>
    rw [heq] at hin hall
    exact foldl_greatest hall hin

theorem KeyTable.maxSequence_none (h : ∀ r ∈ table.rows, r.feature ≠ feature) :
    table.maxSequence feature = 0 := by
  have hnil : table.rows.filter (fun row => row.feature = feature) = [] :=
    List.filter_eq_nil_iff.mpr (fun r hr => by simpa using h r hr)
  rw [KeyTable.maxSequence, hnil]
  rfl

/-! ## The numbers that have been given out -/

/-- Every row ever inserted for a feature, the last one first. -/
def KeyTable.mintedFor (table : KeyTable) (feature : CryptoKeyFeature) : List CryptoKeyRow :=
  table.minted.filter (fun row => row.feature = feature)

/-- The rows of a feature were numbered one after the other, and the last of them is still
there and has no end. -/
structure Numbered (feature : CryptoKeyFeature) (table : KeyTable) : Prop where
  minted : (table.mintedFor feature).map CryptoKeyRow.sequence =
    numbering (table.mintedFor feature).length
  kept : ∀ r ∈ table.rows, r.feature = feature →
    r.sequence ∈ numbering (table.mintedFor feature).length
  last : 0 < (table.mintedFor feature).length → ∃ r ∈ table.rows, r.feature = feature ∧
    r.sequence = Int32.ofNat (table.mintedFor feature).length ∧ r.deletesAt = none

namespace Numbered

theorem maxSequence (h : Numbered feature table)
    (hcount : (table.mintedFor feature).length < 2 ^ 31) :
    table.maxSequence feature = Int32.ofNat (table.mintedFor feature).length := by
  obtain hzero | hpos := Nat.eq_zero_or_pos (table.mintedFor feature).length
  · rw [hzero]
    apply KeyTable.maxSequence_none
    intro r hr hfeature
    have hmem := h.kept r hr hfeature
    rw [hzero] at hmem
    cases hmem
  · apply KeyTable.maxSequence_eq
    · intro r hr hfeature
      exact le_of_mem_numbering hcount (h.kept r hr hfeature)
    · obtain ⟨r, hr, hfeature, hsequence, -⟩ := h.last hpos
      exact ⟨r, hr, hfeature, hsequence⟩

/-- A row with the greatest number is the last one inserted. -/
theorem open_of_greatest {now : OffsetDateTime} (h : Numbered feature table)
    (hcovered : Covered now table) (hcount : (table.mintedFor feature).length < 2 ^ 31)
    (hrow : row ∈ table.rows) (hfeature : row.feature = feature)
    (hgreatest : ∀ r ∈ table.rows, r.feature = feature → r.sequence ≤ row.sequence) :
    row.deletesAt = none := by
  have hmem := h.kept row hrow hfeature
  have hpos : 0 < (table.mintedFor feature).length := by
    apply Nat.pos_of_ne_zero
    intro hzero
    rw [hzero] at hmem
    cases hmem
  obtain ⟨r, hr, hrf, hsequence, hopen⟩ := h.last hpos
  have hsame : row.sequence = r.sequence := by
    apply Int32.le_antisymm
    · rw [hsequence]
      exact le_of_mem_numbering hcount hmem
    · exact hgreatest r hr hrf
  have hkey : row.key = r.key := Prod.ext (hfeature.trans hrf.symm) hsame
  rw [hcovered.eq_of_key hrow hr hkey]
  exact hopen

theorem delete {snapshot : List CryptoKeyRow} (h : Numbered feature table)
    (hpending : Pending now (row :: snapshot) table) (hexpired : shouldDeleteKey row now = true) :
    Numbered feature (table.delete row.key) where
  minted := h.minted
  kept r hr := h.kept r (List.mem_of_mem_filter hr)
  last := by
    intro hpos
    obtain ⟨r, hr, hfeature, hsequence, hopen⟩ := h.last hpos
    refine ⟨r, List.mem_filter.mpr ⟨hr, ?_⟩, hfeature, hsequence, hopen⟩
    -- the row that goes has a `deletes_at`, so it is not the last one
    rw [decide_eq_true_eq]
    intro hkey
    obtain rfl := hpending.eq_of_key hr (hpending.subset List.mem_cons_self) hkey
    rw [shouldDeleteKey, hopen] at hexpired
    cases hexpired

theorem mintedFor_push (table : KeyTable) (row : CryptoKeyRow) (feature : CryptoKeyFeature) :
    (table.push row).mintedFor feature =
      if row.feature = feature then row :: table.mintedFor feature
      else table.mintedFor feature := by
  by_cases hfeature : row.feature = feature
  · simp [KeyTable.mintedFor, KeyTable.push, hfeature]
  · simp [KeyTable.mintedFor, KeyTable.push, hfeature]

theorem length_mintedFor_le_push (table : KeyTable) (row : CryptoKeyRow)
    (feature : CryptoKeyFeature) :
    (table.mintedFor feature).length ≤ ((table.push row).mintedFor feature).length := by
  rw [mintedFor_push]
  split
  · exact Nat.le_succ _
  · exact le_rfl

/-- A row of another feature leaves this one's numbers alone. -/
theorem push_other (h : Numbered feature table) (hne : row.feature ≠ feature) :
    Numbered feature (table.push row) := by
  have hminted : (table.push row).mintedFor feature = table.mintedFor feature := by
    rw [mintedFor_push, if_neg hne]
  refine ⟨?_, ?_, ?_⟩
  · rw [hminted]
    exact h.minted
  · intro r hr hfeature
    rw [hminted]
    obtain hr | hr := List.mem_append.mp hr
    · exact h.kept r hr hfeature
    · rw [List.mem_singleton.mp hr] at hfeature
      exact absurd hfeature hne
  · rw [hminted]
    intro hpos
    obtain ⟨r, hr, hlast⟩ := h.last hpos
    exact ⟨r, List.mem_append_left _ hr, hlast⟩

theorem kept_of_keys {before : KeyTable} (h : Numbered feature before)
    (hrows : table.rows.map CryptoKeyRow.key = before.rows.map CryptoKeyRow.key)
    (hrow : row ∈ table.rows) (hfeature : row.feature = feature) :
    row.sequence ∈ numbering (before.mintedFor feature).length := by
  obtain ⟨r, hr, hkey⟩ := List.mem_map.mp (hrows ▸ List.mem_map_of_mem hrow)
  have hsequence : r.sequence = row.sequence := congrArg Prod.snd hkey
  rw [← hsequence]
  exact h.kept r hr ((congrArg Prod.fst hkey).trans hfeature)

/-- A row with the next number is the new last row, whatever was stamped before. -/
theorem push_own {before : KeyTable} (h : Numbered feature before)
    (hcount : (before.mintedFor feature).length < 2 ^ 31)
    (hminted : table.minted = before.minted)
    (hrows : table.rows.map CryptoKeyRow.key = before.rows.map CryptoKeyRow.key)
    (hfeature : row.feature = feature)
    (hsequence : row.sequence = before.maxSequence feature + 1) (hopen : row.deletesAt = none) :
    Numbered feature (table.push row) := by
  have hpush : (table.push row).mintedFor feature = row :: before.mintedFor feature := by
    rw [mintedFor_push, if_pos hfeature, KeyTable.mintedFor, hminted, KeyTable.mintedFor]
  have hnext : row.sequence = Int32.ofNat ((before.mintedFor feature).length + 1) := by
    rw [hsequence, h.maxSequence hcount, Int32.ofNat_add]
    rfl
  refine ⟨?_, ?_, ?_⟩
  · rw [hpush, List.map_cons, List.length_cons, numbering, h.minted, hnext]
  · intro r hr hrf
    rw [hpush, List.length_cons, numbering]
    obtain hr | hr := List.mem_append.mp hr
    · exact List.mem_cons_of_mem _ (h.kept_of_keys hrows hr hrf)
    · rw [List.mem_singleton.mp hr, hnext]
      exact List.mem_cons_self
  · intro _
    refine ⟨row, List.mem_append_right _ List.mem_cons_self, hfeature, ?_, hopen⟩
    rw [hpush, List.length_cons, hnext]

theorem stampDeletesAt_other {old : CryptoKeyRow} {deletesAt : OffsetDateTime}
    (h : Numbered feature table) (hne : old.feature ≠ feature) :
    Numbered feature (table.stampDeletesAt old.key deletesAt) where
  minted := h.minted
  kept _ hr hrf := h.kept_of_keys (table.map_key_stampDeletesAt old.key deletesAt) hr hrf
  last := by
    intro hpos
    obtain ⟨r, hr, hrf, hlast⟩ := h.last hpos
    refine ⟨r, KeyTable.mem_stampDeletesAt_of_ne hr ?_, hrf, hlast⟩
    intro hkey
    exact hne ((congrArg Prod.fst hkey).symm.trans hrf)

end Numbered

/-! ## Whole runs -/

/-- The numbers are in order for as long as an `i32` can count them. -/
theorem numbered_sweepInvariant (now : OffsetDateTime) (feature : CryptoKeyFeature) :
    SweepInvariant now fun snapshot table => Pending now snapshot table ∧
      ((table.mintedFor feature).length < 2 ^ 31 → Numbered feature table) where
  snapshot h := ⟨(pending_sweepInvariant now).snapshot h.1, h.2⟩
  tail h := ⟨h.1.tail, h.2⟩
  delete h hdelete := ⟨(pending_sweepInvariant now).delete h.1 hdelete,
    fun hcount => (h.2 hcount).delete h.1 hdelete⟩
  rotate {old rest table} h hopen {secret startsAt deletesAt} hle hfresh := by
    refine ⟨(pending_sweepInvariant now).rotate h.1 hopen hle hfresh, fun hcount => ?_⟩
    have hbefore : (table.mintedFor feature).length < 2 ^ 31 :=
      lt_of_le_of_lt (Numbered.length_mintedFor_le_push _ _ _) hcount
    have hnumbered := h.2 hbefore
    by_cases hfeature : old.feature = feature
    · subst hfeature
      exact hnumbered.push_own hbefore rfl (table.map_key_stampDeletesAt _ _) rfl rfl rfl
    · exact (hnumbered.stampDeletesAt_other hfeature).push_other hfeature
  insert {rest table} h {other secret} hfresh := by
    refine ⟨(pending_sweepInvariant now).insert h.1 hfresh, fun hcount => ?_⟩
    have hbefore : (table.mintedFor feature).length < 2 ^ 31 :=
      lt_of_le_of_lt (Numbered.length_mintedFor_le_push _ _ _) hcount
    have hnumbered := h.2 hbefore
    by_cases hfeature : other = feature
    · subst hfeature
      exact hnumbered.push_own hbefore rfl rfl rfl rfl rfl
    · exact hnumbered.push_other hfeature

theorem numbered_empty (feature : CryptoKeyFeature) : Numbered feature .empty where
  minted := rfl
  kept := by simp [KeyTable.empty]
  last := by simp [KeyTable.empty, KeyTable.mintedFor]

theorem numbered_run (sweeps : List Sweep)
    (hordered : (sweeps.map Sweep.now).Pairwise (· ≤ ·)) (feature : CryptoKeyFeature)
    (hcount : ((runSweeps .empty sweeps).mintedFor feature).length < 2 ^ 31) :
    Numbered feature (runSweeps .empty sweeps) := by
  revert hcount
  induction sweeps using List.reverseRecOn with
  | nil => exact fun _ => numbered_empty feature
  | append_singleton sweeps sweep ih =>
    rw [List.map_append, List.pairwise_append] at hordered
    obtain ⟨hordered, -, hlast⟩ := hordered
    have hcovered : Covered sweep.now (runSweeps .empty sweeps) :=
      (covered_empty ⟨-377705116800 * 10 ^ 9, by decide, by decide⟩).run sweeps hordered
        (fun s _ => s.now.ge_min) sweep.now.ge_min
        (fun s hs => hlast _ (List.mem_map_of_mem hs) _ List.mem_cons_self)
    have hstep : Pending sweep.now [] (sweep.apply (runSweeps .empty sweeps)) ∧ _ :=
      (numbered_sweepInvariant sweep.now feature).apply ⟨hcovered.pending_nil, ih hordered⟩
    rw [runSweeps, List.foldl_append]
    exact hstep.2

/-- As long as fewer than `2 ^ 31` rows have been inserted for a feature no two of them had
one number, and the row that has the greatest number has no `deletes_at`. Every prefix of a run
is a run, and so is every run whose last sweep crashes half way. -/
theorem runSweeps_sequences_unique (sweeps : List Sweep)
    (hordered : (sweeps.map Sweep.now).Pairwise (· ≤ ·)) (feature : CryptoKeyFeature)
    (hcount : ((runSweeps .empty sweeps).mintedFor feature).length < 2 ^ 31) :
    (((runSweeps .empty sweeps).mintedFor feature).map CryptoKeyRow.sequence).Nodup ∧
      ∀ row ∈ (runSweeps .empty sweeps).rows, row.feature = feature →
        (∀ other ∈ (runSweeps .empty sweeps).rows, other.feature = feature →
          other.sequence ≤ row.sequence) →
        row.deletesAt = none := by
  have hnumbered := numbered_run sweeps hordered feature hcount
  have hcovered : Covered ⟨253402300800 * 10 ^ 9 - 1, by decide, by decide⟩
      (runSweeps .empty sweeps) :=
    (covered_empty ⟨-377705116800 * 10 ^ 9, by decide, by decide⟩).run sweeps hordered
      (fun s _ => s.now.ge_min) (by decide) (fun s _ => Int.le_sub_one_of_lt s.now.lt_max)
  refine ⟨?_, ?_⟩
  · rw [hnumbered.minted]
    exact numbering_nodup hcount
  · intro row hrow hfeature hgreatest
    exact hnumbered.open_of_greatest hcovered hcount hrow hfeature hgreatest

theorem runSweeps_sequences_unique_sampleSweeps :
    (((runSweeps .empty sampleSweeps).mintedFor .tailnetResume).map
        CryptoKeyRow.sequence).Nodup ∧
      ∀ row ∈ (runSweeps .empty sampleSweeps).rows, row.feature = .tailnetResume →
        (∀ other ∈ (runSweeps .empty sampleSweeps).rows, other.feature = .tailnetResume →
          other.sequence ≤ row.sequence) →
        row.deletesAt = none :=
  runSweeps_sequences_unique sampleSweeps (by decide) .tailnetResume (by decide +kernel)

/-! ## A run past the greatest number -/

/-- An hour and the life of a token after the epoch. -/
def retireAt : OffsetDateTime := ⟨3660 * 10 ^ 9, by decide, by decide⟩

def chainKey (n : Nat) : CryptoKeyRow where
  feature := .workspaceAppsApiKey
  sequence := Int32.ofNat n
  secret := (Stream'.const 0).take 32
  startsAt := .unixEpoch
  deletesAt := none

def retiredKeys (n : Nat) : List CryptoKeyRow :=
  (List.range n).map fun i => (chainKey (i + 1)).stamped retireAt

def mintedKeys : Nat → List CryptoKeyRow
  | 0 => []
  | n + 1 => chainKey (n + 1) :: mintedKeys n

/-- `n` rows, of which all but the last have been rotated out. -/
def chain : Nat → KeyTable
  | 0 => .empty
  | n + 1 => ⟨retiredKeys n ++ [chainKey (n + 1)], mintedKeys (n + 1)⟩

theorem retiredKeys_succ (n : Nat) :
    retiredKeys (n + 1) = retiredKeys n ++ [(chainKey (n + 1)).stamped retireAt] := by
  simp only [retiredKeys, List.range_succ, List.map_append, List.map_cons, List.map_nil]

theorem mem_retiredKeys {n : Nat} {r : CryptoKeyRow} :
    r ∈ retiredKeys n ↔ ∃ i, 0 < i ∧ i ≤ n ∧ r = (chainKey i).stamped retireAt := by
  simp only [retiredKeys, List.mem_map, List.mem_range]
  constructor
  · rintro ⟨i, hi, rfl⟩
    exact ⟨i + 1, by omega, hi, rfl⟩
  · rintro ⟨i, hpos, hi, rfl⟩
    exact ⟨i - 1, by omega, by rw [Nat.sub_add_cancel hpos]⟩

theorem length_retiredKeys (n : Nat) : (retiredKeys n).length = n := by
  rw [retiredKeys, List.length_map, List.length_range]

theorem mem_chain_rows {n : Nat} {r : CryptoKeyRow} (hr : r ∈ (chain n).rows) :
    r.feature = .workspaceAppsApiKey ∧ r.sequence ∈ numbering n := by
  cases n with
  | zero => cases hr
  | succ n =>
    obtain hr | hr := List.mem_append.mp hr
    · obtain ⟨i, hpos, hi, rfl⟩ := mem_retiredKeys.mp hr
      exact ⟨rfl, mem_numbering.mpr ⟨i, hpos, by omega, rfl⟩⟩
    · rw [List.mem_singleton.mp hr]
      exact ⟨rfl, List.mem_cons_self⟩

theorem chain_mintedFor (n : Nat) : (chain n).mintedFor .workspaceAppsApiKey = mintedKeys n := by
  have hall : ∀ n, ∀ r ∈ mintedKeys n, r.feature = .workspaceAppsApiKey := by
    intro n
    induction n with
    | zero => simp [mintedKeys]
    | succ n ih =>
      intro r hr
      obtain rfl | hr := List.mem_cons.mp hr
      · rfl
      · exact ih r hr
  have hminted : (chain n).minted = mintedKeys n := by cases n <;> rfl
  rw [KeyTable.mintedFor, hminted, List.filter_eq_self]
  exact fun r hr => decide_eq_true (hall n r hr)

theorem mintedKeys_sequences (n : Nat) :
    (mintedKeys n).map CryptoKeyRow.sequence = numbering n := by
  induction n with
  | zero => rfl
  | succ n ih =>
    rw [mintedKeys, List.map_cons, ih]
    rfl

theorem length_mintedKeys (n : Nat) : (mintedKeys n).length = n := by
  induction n with
  | zero => rfl
  | succ n ih => rw [mintedKeys, List.length_cons, ih]

theorem chain_numbered (n : Nat) : Numbered .workspaceAppsApiKey (chain n) := by
  refine ⟨?_, ?_, ?_⟩
  all_goals rw [chain_mintedFor, length_mintedKeys]
  · exact mintedKeys_sequences n
  · exact fun r hr _ => (mem_chain_rows hr).2
  · intro hpos
    obtain ⟨m, rfl⟩ := Nat.exists_eq_add_one_of_ne_zero (Nat.ne_of_gt hpos)
    exact ⟨chainKey (m + 1), List.mem_append_right _ List.mem_cons_self, rfl, rfl, rfl⟩

theorem chain_nextKey {n : Nat} (hn : n < 2 ^ 31) :
    (chain n).nextKey .workspaceAppsApiKey ((Stream'.const 0).take 32) .unixEpoch =
      chainKey (n + 1) := by
  have hmax := (chain_numbered n).maxSequence (by rwa [chain_mintedFor, length_mintedKeys])
  rw [chain_mintedFor, length_mintedKeys] at hmax
  rw [KeyTable.nextKey, hmax, chainKey, Int32.ofNat_add]
  rfl

theorem chain_fresh {n : Nat} (hn : n < 2 ^ 31) :
    ∀ r ∈ (chain n).rows, r.key ≠ (chainKey (n + 1)).key := by
  intro r hr hkey
  have hsequence : r.sequence = Int32.ofNat (n + 1) := congrArg Prod.snd hkey
  have hmem := (mem_chain_rows hr).2
  rw [hsequence] at hmem
  obtain ⟨i, -, hi, heq⟩ := mem_numbering.mp hmem
  have := sequence_ofNat_inj (by omega) (by omega) heq
  omega

/-- Stamping a row that has the stamp already changes nothing. -/
theorem chain_stamp (n : Nat) :
    (chain (n + 1)).stampDeletesAt (chainKey (n + 1)).key retireAt =
      ⟨retiredKeys (n + 1), mintedKeys (n + 1)⟩ := by
  rw [chain, KeyTable.stampDeletesAt, retiredKeys_succ, List.map_append]
  have hretired : (retiredKeys n).map (fun row => if row.key = (chainKey (n + 1)).key then
      { row with deletesAt := some retireAt } else row) = retiredKeys n := by
    refine (List.map_congr_left (g := id) ?_).trans (List.map_id _)
    intro r hr
    obtain ⟨i, -, -, rfl⟩ := mem_retiredKeys.mp hr
    exact ite_self _
  rw [hretired]
  simp [CryptoKeyRow.stamped]

def poolTimedOut : CallOutcome := .fails (.unavailable "pool timed out")

def hasty : RotatorOptions := { interval := .fromSecs 0, keyDuration := .fromSecs 0 }

/-- A sweep in which the store answers the first four calls. -/
def hastySweep : Sweep where
  now := .unixEpoch
  options := hasty
  heldElsewhere := false
  outcomes := fun n => if n < 4 then .succeeds else poolTimedOut
  entropy := Stream'.const 0

theorem unixEpoch_retires : (do
    let graced ← OffsetDateTime.unixEpoch.add oneHour
    graced.add (durationToTimeDuration (tokenDuration .workspaceAppsApiKey))) = some retireAt := by
  decide

theorem retireAt_retires : (do
    let graced ← retireAt.add oneHour
    graced.add (durationToTimeDuration (tokenDuration .workspaceAppsApiKey))) =
      some ⟨7320 * 10 ^ 9, by decide, by decide⟩ := by
  decide

theorem chainKey_startsAt (n : Nat) :
    minStartsAt (chainKey n) retireAt hasty.keyDuration hasty.interval = some retireAt := by
  change minStartsAt (chainKey 0) retireAt hasty.keyDuration hasty.interval = some retireAt
  decide

theorem hastySweep_succeeds {j : Nat} (hj : j < 4) : hastySweep.outcomes.get j = .succeeds :=
  if_pos hj

theorem hastySweep_fails (j : Nat) (hj : 4 ≤ j) : ∃ e, hastySweep.outcomes.get j = .fails e :=
  ⟨_, if_neg (Nat.not_lt.mpr hj)⟩

theorem chain_feature (n : Nat) : ∀ r ∈ (chain n).rows, r.feature = .workspaceAppsApiKey :=
  fun _ hr => (mem_chain_rows hr).1

theorem hastySweep_rotateKey {n : Nat} (hn : n + 1 < 2 ^ 31) :
    rotateKey (chainKey (n + 1)) .unixEpoch hasty
        (.after hastySweep.outcomes 2 (chain (n + 1))) =
      (.ok (), .after hastySweep.outcomes 4 (chain (n + 2))) := by
  have hstarts : minStartsAt (chainKey (n + 1)) .unixEpoch hasty.keyDuration hasty.interval =
      some .unixEpoch := by
    change minStartsAt (chainKey 0) .unixEpoch hasty.keyDuration hasty.interval = some .unixEpoch
    decide
  have hpush : ((chain (n + 1)).stampDeletesAt (chainKey (n + 1)).key retireAt).push
      (chainKey (n + 2)) = chain (n + 2) := by
    rw [chain_stamp]
    rfl
  rw [← hpush]
  refine rotateKey_succeeds hstarts unixEpoch_retires (chain_nextKey hn).symm
    (hastySweep_succeeds (by decide)) (hastySweep_succeeds (by decide)) ?_ ?_
  · exact KeyTable.hasKey_of_mem (List.mem_append_right _ List.mem_cons_self)
  · apply KeyTable.hasKey_of_forall_ne
    intro r hr heq
    obtain ⟨r', hr', hkey⟩ := List.mem_map.mp
      ((chain (n + 1)).map_key_stampDeletesAt _ _ ▸ List.mem_map_of_mem hr)
    exact chain_fresh hn r' hr' (hkey.trans heq)

/-- Wherever the open row stands in the list, the rows around it are the retired ones. -/
theorem listAll_chain (n : Nat) : ∃ before later,
    (chain (n + 1)).listAll = before ++ chainKey (n + 1) :: later ∧
      ∀ r ∈ before ++ later, ∃ d, r.deletesAt = some d ∧ OffsetDateTime.unixEpoch < d := by
  have hperm : (chain (n + 1)).listAll.Perm (chain (n + 1)).rows := (chain (n + 1)).listAll_perm
  obtain ⟨before, later, hlist⟩ := List.append_of_mem (hperm.mem_iff.mpr
    (List.mem_append_right (retiredKeys n) (List.mem_cons_self (a := chainKey (n + 1)))))
  have hcons : (chainKey (n + 1) :: (before ++ later)).Perm
      (chainKey (n + 1) :: retiredKeys n) := by
    refine (List.perm_middle.symm.trans ?_).trans (List.perm_append_singleton _ _)
    rw [← hlist]
    exact hperm
  refine ⟨before, later, hlist, fun r hr => ?_⟩
  obtain ⟨i, -, -, rfl⟩ := mem_retiredKeys.mp (hcons.cons_inv.mem_iff.mp hr)
  exact ⟨retireAt, rfl, by decide⟩

theorem hastySweep_sweepKeys {n : Nat} (hn : n + 1 < 2 ^ 31) :
    sweepKeys hasty .unixEpoch (chain (n + 1)).listAll 0
        (.after hastySweep.outcomes 2 (chain (n + 1))) =
      (.ok 1, .after hastySweep.outcomes 4 (chain (n + 2))) := by
  obtain ⟨before, later, hlist, hwaits⟩ := listAll_chain n
  have hbefore : sweepKeys hasty .unixEpoch (before ++ chainKey (n + 1) :: later) 0 =
      sweepKeys hasty .unixEpoch (chainKey (n + 1) :: later) 0 :=
    sweepKeys_retired fun r hr => hwaits r (List.mem_append_left _ hr)
  have hlater : sweepKeys hasty .unixEpoch (later ++ []) 1 = sweepKeys hasty .unixEpoch [] 1 :=
    sweepKeys_retired fun r hr => hwaits r (List.mem_append_right _ hr)
  rw [List.append_nil] at hlater
  have hdue : shouldRotateKey (chainKey (n + 1)) hasty.keyDuration .unixEpoch = some true := by
    change shouldRotateKey (chainKey 0) hasty.keyDuration .unixEpoch = some true
    decide
  rw [hlist]
  refine (congrFun hbefore _).trans ?_
  have hrotate := result_ok (hastySweep_rotateKey hn)
  exact (sweepKeys_rotate rfl hdue hrotate).trans (congrFun hlater _)

theorem hastySweep_apply {n : Nat} (hn : n < 2 ^ 31) :
    hastySweep.apply (chain n) = chain (n + 1) := by
  have happly : hastySweep.apply (chain n) =
      (rotateOnce hasty .unixEpoch false (.after hastySweep.outcomes 0 (chain n))).2.keys := rfl
  have hlock : hastySweep.outcomes.get 0 = .succeeds := hastySweep_succeeds (by decide)
  have hlist : hastySweep.outcomes.get 1 = .succeeds := hastySweep_succeeds (by decide)
  rw [happly]
  cases n with
  | zero =>
    have hkeys : sweepKeys hasty .unixEpoch (chain 0).listAll 0
        (.after hastySweep.outcomes 2 (chain 0)) =
          (.ok 0, .after hastySweep.outcomes 2 (chain 0)) := rfl
    have hinsert : insertNewKey .workspaceAppsApiKey .unixEpoch
        (.after hastySweep.outcomes 2 (chain 0)) =
          (.ok (), .after hastySweep.outcomes 4 (chain 1)) :=
      insertNewKey_succeeds (chain_nextKey hn).symm (hastySweep_succeeds (by decide))
        (hastySweep_succeeds (by decide)) rfl
    exact rotateOnce_first (chain_feature 0) hlock hlist hkeys hinsert hastySweep_fails
  | succ n =>
    exact rotateOnce_first (chain_feature (n + 1)) hlock hlist (hastySweep_sweepKeys hn)
      ⟨rfl, rfl⟩ hastySweep_fails

theorem runSweeps_hastySweep {n : Nat} (hn : n ≤ 2 ^ 31) :
    runSweeps .empty (List.replicate n hastySweep) = chain n := by
  induction n with
  | zero => rfl
  | succ n ih =>
    have hrun : runSweeps .empty (List.replicate (n + 1) hastySweep) =
        hastySweep.apply (runSweeps .empty (List.replicate n hastySweep)) := by
      rw [List.replicate_succ', runSweeps, List.foldl_append]
      rfl
    rw [hrun, ih (by omega)]
    exact hastySweep_apply hn

/-- The store answers again when the last of the retired rows is to be deleted, and until
another key is inserted. -/
def lateSweep : Sweep where
  now := retireAt
  options := hasty
  heldElsewhere := false
  outcomes := fun n =>
    if n < 2 ∨ (2 ^ 31 + 1 ≤ n ∧ n < 2 ^ 31 + 4) then .succeeds else poolTimedOut
  entropy := Stream'.const 0

theorem lateSweep_fails {j : Nat} (hj : ¬ (j < 2 ∨ (2 ^ 31 + 1 ≤ j ∧ j < 2 ^ 31 + 4))) :
    lateSweep.outcomes.get j = poolTimedOut :=
  if_neg hj

theorem lateSweep_succeeds {j : Nat} (hj : j < 2 ∨ (2 ^ 31 + 1 ≤ j ∧ j < 2 ^ 31 + 4)) :
    lateSweep.outcomes.get j = .succeeds :=
  if_pos hj

theorem insertionSort_concat_least {α : Type} (le : α → α → Prop) [DecidableRel le] {x : α}
    {l : List α} (h : ∀ a ∈ l, ¬ le a x) :
    (l ++ [x]).insertionSort le = x :: l.insertionSort le := by
  induction l with
  | nil => rfl
  | cons a l ih =>
    rw [List.cons_append, List.insertionSort_cons, ih fun b hb => h b (List.mem_cons_of_mem _ hb),
      List.orderedInsert, if_neg (h a List.mem_cons_self), List.insertionSort_cons]

section Wrapped

variable {m : Nat} (hm : m + 2 = 2 ^ 31)

include hm

theorem wrapped_least : Int32.ofNat (m + 2) = Int32.minValue := by
  rw [hm]
  decide

theorem wrapped_lt {i : Nat} (hi : i ≤ m + 1) : Int32.ofNat (m + 2) < Int32.ofNat i := by
  rw [wrapped_least hm, Int32.lt_iff_toInt_lt, Int32.toInt_ofNat_of_lt (by omega)]
  have hmin : Int32.minValue.toInt < 0 := by decide
  omega

/-- The number that comes after the greatest one is the least. -/
theorem listAll_wrapped :
    (chain (m + 2)).listAll = chainKey (m + 2) :: retiredKeys (m + 1) := by
  rw [chain, KeyTable.listAll, insertionSort_concat_least]
  · congr 1
    apply List.Pairwise.insertionSort_eq
    rw [retiredKeys, List.pairwise_map]
    refine List.Pairwise.imp_of_mem ?_ List.pairwise_lt_range
    intro i j _ hj hij
    have hj := List.mem_range.mp hj
    refine .inr ⟨rfl, ?_⟩
    change Int32.ofNat (i + 1) ≤ Int32.ofNat (j + 1)
    rw [Int32.le_iff_toInt_le, Int32.toInt_ofNat_of_lt (by omega),
      Int32.toInt_ofNat_of_lt (by omega)]
    omega
  · intro r hr hle
    obtain ⟨i, -, hi, rfl⟩ := mem_retiredKeys.mp hr
    obtain hlt | ⟨-, hle⟩ := hle
    · exact absurd hlt (Nat.lt_irrefl _)
    · exact Int32.not_le.mpr (wrapped_lt hm hi) hle

/-- The table when the row with the greatest number has gone. -/
theorem mem_chain_delete {r : CryptoKeyRow} :
    r ∈ ((chain (m + 2)).delete (chainKey (m + 1)).key).rows ↔
      r ∈ retiredKeys m ∨ r = chainKey (m + 2) := by
  have hmax : (chainKey (m + 1)).key ≠ (chainKey (m + 2)).key := by
    intro heq
    have hsame : Int32.ofNat (m + 1) = Int32.ofNat (m + 2) := congrArg Prod.snd heq
    have hlt := wrapped_lt hm le_rfl
    rw [hsame] at hlt
    exact Int32.lt_irrefl hlt
  have hrows : ((chain (m + 2)).delete (chainKey (m + 1)).key).rows =
      (retiredKeys (m + 1) ++ [chainKey (m + 2)]).filter
        (fun row => row.key ≠ (chainKey (m + 1)).key) := rfl
  rw [hrows, List.mem_filter, List.mem_append, List.mem_singleton, decide_eq_true_eq,
    retiredKeys_succ, List.mem_append, List.mem_singleton]
  constructor
  · rintro ⟨(hr | rfl) | rfl, hne⟩
    · exact .inl hr
    · exact absurd rfl hne
    · exact .inr rfl
  · rintro (hr | rfl)
    · refine ⟨.inl (.inl hr), ?_⟩
      obtain ⟨i, -, hi, rfl⟩ := mem_retiredKeys.mp hr
      intro heq
      have hsame : Int32.ofNat i = Int32.ofNat (m + 1) := congrArg Prod.snd heq
      have := sequence_ofNat_inj (by omega) (by omega) hsame
      omega
    · exact ⟨.inr rfl, hmax.symm⟩

theorem maxSequence_chain_delete :
    ((chain (m + 2)).delete (chainKey (m + 1)).key).maxSequence .workspaceAppsApiKey =
      Int32.ofNat m := by
  apply KeyTable.maxSequence_eq
  · intro r hr _
    obtain hr | rfl := (mem_chain_delete hm).mp hr
    · obtain ⟨i, hpos, hi, rfl⟩ := mem_retiredKeys.mp hr
      exact le_of_mem_numbering (by omega) (mem_numbering.mpr ⟨i, hpos, hi, rfl⟩)
    · exact Int32.le_of_lt (wrapped_lt hm (Nat.le_succ m))
  · refine ⟨(chainKey m).stamped retireAt, (mem_chain_delete hm).mpr (.inl ?_), rfl, rfl⟩
    exact mem_retiredKeys.mpr ⟨m, by omega, le_rfl, rfl⟩

/-- None of the rows is deleted but the one with the greatest number. -/
theorem lateSweep_sweepKeys :
    sweepKeys hasty retireAt (chain (m + 2)).listAll 0
        (.after lateSweep.outcomes 2 (chain (m + 2))) =
      (.ok 0, .after lateSweep.outcomes (m + 4)
        ((chain (m + 2)).delete (chainKey (m + 1)).key)) := by
  have hdue : ∀ r ∈ retiredKeys (m + 1), shouldDeleteKey r retireAt = true := by
    intro r hr
    obtain ⟨i, -, -, rfl⟩ := mem_retiredKeys.mp hr
    exact decide_eq_true (le_refl retireAt)
  have hrotates : shouldRotateKey (chainKey (m + 2)) hasty.keyDuration retireAt = some true := by
    change shouldRotateKey (chainKey 0) hasty.keyDuration retireAt = some true
    decide
  have hquery : rotateKey (chainKey (m + 2)) retireAt hasty
      (.after lateSweep.outcomes 2 (chain (m + 2))) =
        (.error (.storage (.unavailable "pool timed out")),
          .after lateSweep.outcomes 3 (chain (m + 2))) :=
    rotateKey_fails (chainKey_startsAt (m + 2)) retireAt_retires (lateSweep_fails (by omega))
  rw [listAll_wrapped hm, retiredKeys_succ]
  refine (sweepKeys_rotate rfl hrotates (result_error hquery)).trans ?_
  refine (sweepKeys_due ?_ ?_).trans ?_
  · exact fun r hr => hdue r (retiredKeys_succ m ▸ List.mem_append_left _ hr)
  · intro j hj
    rw [length_retiredKeys] at hj
    exact ⟨_, lateSweep_fails (by omega)⟩
  · have hlast : delete .workspaceAppsApiKey (Int32.ofNat (m + 1))
        (.after lateSweep.outcomes (m + 3) (chain (m + 2))) =
          (.ok ((chain (m + 2)).hasKey (chainKey (m + 1)).key), .after lateSweep.outcomes (m + 4)
            ((chain (m + 2)).delete (chainKey (m + 1)).key)) :=
      storeCall_succeeds (lateSweep_succeeds (by omega)) rfl
    rw [length_retiredKeys, Nat.add_comm 3 m, sweepKeys,
      hdue _ (retiredKeys_succ m ▸ List.mem_append_right _ List.mem_cons_self), if_pos rfl]
    exact (Effect.bind_ok (result_ok hlast)).trans rfl

/-- The first row after the wraparound and the deletion gets a number from before. -/
theorem lateSweep_minted :
    ((lateSweep.apply (chain (m + 2))).mintedFor .workspaceAppsApiKey).map
        CryptoKeyRow.sequence = Int32.ofNat (m + 1) :: numbering (m + 2) := by
  let script := lateSweep.outcomes
  let kept := (chain (m + 2)).delete (chainKey (m + 1)).key
  let next := kept.nextKey .workspaceAppsApiKey ((Stream'.const 0).take 32) retireAt
  have hnext : next.sequence = Int32.ofNat (m + 1) := by
    change kept.maxSequence .workspaceAppsApiKey + 1 = _
    rw [maxSequence_chain_delete hm, Int32.ofNat_add]
    rfl
  have hkeys : sweepKeys hasty retireAt (chain (m + 2)).listAll 0
      (.after script 2 (chain (m + 2))) = (.ok 0, .after script (m + 4) kept) :=
    lateSweep_sweepKeys hm
  have hinsert : insertNewKey .workspaceAppsApiKey retireAt (.after script (m + 4) kept) =
      (.ok (), .after script (m + 6) (kept.push next)) := by
    refine insertNewKey_succeeds rfl (lateSweep_succeeds (by omega))
      (lateSweep_succeeds (by omega)) (KeyTable.hasKey_of_forall_ne ?_)
    intro r hr heq
    have hgone : r.key ≠ (chainKey (m + 1)).key := of_decide_eq_true (List.mem_filter.mp hr).2
    exact hgone (heq.trans (Prod.ext rfl hnext))
  have happly : lateSweep.apply (chain (m + 2)) = kept.push next := by
    have hsilent : ∀ j, m + 6 ≤ j → ∃ e, script.get j = .fails e :=
      fun j hj => ⟨_, lateSweep_fails (by omega)⟩
    exact rotateOnce_first (chain_feature (m + 2)) (lateSweep_succeeds (by omega))
      (lateSweep_succeeds (by omega)) hkeys hinsert hsilent
  have hminted : kept.mintedFor .workspaceAppsApiKey = mintedKeys (m + 2) :=
    chain_mintedFor (m + 2)
  have hfeature : next.feature = .workspaceAppsApiKey := rfl
  rw [happly, Numbered.mintedFor_push, if_pos hfeature, List.map_cons, hnext, hminted,
    mintedKeys_sequences]

end Wrapped

/-- A release build takes the number after `i32::MAX` to be `i32::MIN`, so that the row with the
greatest number can be retired and deleted, and its number is given out again. -/
theorem runSweeps_sequence_reused :
    ((List.replicate (2 ^ 31) hastySweep ++ [lateSweep]).map Sweep.now).Pairwise (· ≤ ·) ∧
      ¬ (((runSweeps .empty (List.replicate (2 ^ 31) hastySweep ++ [lateSweep])).mintedFor
        .workspaceAppsApiKey).map CryptoKeyRow.sequence).Nodup := by
  obtain ⟨m, hm⟩ : ∃ m, m + 2 = 2 ^ 31 := ⟨2 ^ 31 - 2, by decide⟩
  rw [← hm]
  refine ⟨?_, ?_⟩
  · rw [List.map_append, List.map_replicate, List.pairwise_append]
    refine ⟨List.pairwise_replicate.mpr (.inr le_rfl), List.pairwise_singleton _ _, ?_⟩
    intro a ha b hb
    rw [List.eq_of_mem_replicate ha, List.mem_singleton.mp hb]
    decide
  · have hrun : runSweeps .empty (List.replicate (m + 2) hastySweep ++ [lateSweep]) =
        lateSweep.apply (runSweeps .empty (List.replicate (m + 2) hastySweep)) := by
      rw [runSweeps, List.foldl_append]
      rfl
    rw [hrun, runSweeps_hastySweep (Nat.le_of_eq hm), lateSweep_minted hm]
    intro hnodup
    apply (List.nodup_cons.mp hnodup).1
    exact mem_numbering.mpr ⟨m + 1, by omega, by omega, rfl⟩

end Coderd.CryptoKeys
