import Mathlib.Algebra.Order.BigOperators.Group.List
import Mathlib.Algebra.Order.Group.Nat
import Coderd.Prebuilds.Reconciler

namespace Coderd.Prebuilds

open Coderd.Foundation

/-! ## The workspaces that exist -/

def isCreated : Call × Bool → Bool
  | (.createPrebuild _, ok) => ok
  | (.deletePrebuild _, _) => false

def isDeleted : Call × Bool → Bool
  | (.createPrebuild _, _) => false
  | (.deletePrebuild _, ok) => ok

/-- The number of prebuilt workspaces after the calls, of which there were `initial`. -/
def existing (initial : Nat) (calls : List (Call × Bool)) : Int :=
  initial - calls.countP isDeleted + calls.countP isCreated

/-- There are never more prebuilt workspaces than the limit allows, or than there were. -/
def Respects (r : PrebuildReconciler) (presets : List PresetPrebuildInfo)
    (running : List PrebuiltWorkspace) : Prop :=
  ∀ limit ∈ r.hardLimit, ∀ calls, calls <+: (r.tick presets running).calls →
    existing running.length calls ≤ max limit running.length

/-- The condition on the deltas, of which `created` creates and `deleted` deletes have come
before: with every preset that asks for creates, either the creates asked for so far fit between
the workspaces there are and the limit, or the deletes asked for so far leave no room below it. -/
def Fits (limit initial : Nat) : (created deleted : Nat) → List PresetDelta → Prop
  | _, _, [] => True
  | created, deleted, delta :: deltas =>
    (0 < delta.toCreate.toNat →
      created + delta.toCreate.toNat ≤ limit - initial ∨
        deleted + delta.toDelete.length ≤ initial - limit) ∧
      Fits limit initial (created + delta.toCreate.toNat) (deleted + delta.toDelete.length) deltas

instance Fits.decidable (limit initial : Nat) :
    ∀ (created deleted : Nat) (deltas : List PresetDelta),
      Decidable (Fits limit initial created deleted deltas)
  | _, _, [] => inferInstanceAs (Decidable True)
  | created, deleted, delta :: deltas =>
    have := Fits.decidable limit initial (created + delta.toCreate.toNat)
      (deleted + delta.toDelete.length) deltas
    inferInstanceAs (Decidable (_ ∧ Fits limit initial _ _ deltas))

/-! ## The creates that are tried -/

/-- How many of `count` creates are tried, after `tried` others, when `deleted` deletes have been
tried: as many as bring the running total up to the limit. -/
def triedUpTo (limit initial deleted tried count : Nat) : Nat :=
  max tried (min (tried + count) (limit + deleted - initial))

def triedCreates (limit initial : Nat) : (deleted tried : Nat) → List PresetDelta → Nat
  | _, tried, [] => tried
  | deleted, tried, delta :: deltas =>
    triedCreates limit initial (deleted + delta.toDelete.length)
      (triedUpTo limit initial (deleted + delta.toDelete.length) tried delta.toCreate.toNat) deltas

theorem le_triedCreates (limit initial deleted tried : Nat) (deltas : List PresetDelta) :
    tried ≤ triedCreates limit initial deleted tried deltas := by
  induction deltas generalizing deleted tried with
  | nil => exact Nat.le_refl tried
  | cons delta deltas ih => exact (Nat.le_max_left tried _).trans (ih _ _)

/-- As long as the creates fit, all of them are tried; the first that do not are tried too when
deletes have made room for them in the running total. -/
theorem fits_iff (limit initial : Nat) {created deleted tried : Nat} (deltas : List PresetDelta)
    (hroom : tried ≤ limit - initial) (hle : tried ≤ created)
    (hmin : min created (limit - initial) ≤ tried) :
    Fits limit initial created deleted deltas ↔
      triedCreates limit initial deleted tried deltas ≤ limit - initial := by
  induction deltas generalizing created deleted tried with
  | nil => simpa [Fits, triedCreates] using hroom
  | cons delta deltas ih =>
    simp only [Fits, triedCreates]
    generalize delta.toCreate.toNat = count
    generalize hdeleted : deleted + delta.toDelete.length = deleted'
    by_cases hfits : 0 < count → created + count ≤ limit - initial ∨ deleted' ≤ initial - limit
    · have htried : triedUpTo limit initial deleted' tried count ≤ limit - initial := by
        unfold triedUpTo
        omega
      have hle' : triedUpTo limit initial deleted' tried count ≤ created + count := by
        unfold triedUpTo
        omega
      have hmin' : min (created + count) (limit - initial) ≤
          triedUpTo limit initial deleted' tried count := by
        unfold triedUpTo
        omega
      rw [← ih htried hle' hmin']
      exact ⟨fun h => h.2, fun h => ⟨hfits, h⟩⟩
    · have hover : limit - initial < triedUpTo limit initial deleted' tried count := by
        unfold triedUpTo
        omega
      have hlater := le_triedCreates limit initial deleted'
        (triedUpTo limit initial deleted' tried count) deltas
      constructor
      · exact fun h => absurd h.1 hfits
      · intro h
        omega

/-! ## The deletes that are asked for -/

theorem lookup_groupByPreset (running : List PrebuiltWorkspace) (id : Uuid) :
    ((groupByPreset running).lookup id).getD [] = running.filter (·.presetId = id) := by
  unfold groupByPreset
  have hfold : ∀ groups : HashMap Uuid (List PrebuiltWorkspace),
      ((running.foldl (fun groups ws =>
        groups.insert ws.presetId ((groups.lookup ws.presetId).getD [] ++ [ws]))
          groups).lookup id).getD [] =
        (groups.lookup id).getD [] ++ running.filter (·.presetId = id) := by
    induction running with
    | nil => simp
    | cons ws running ih =>
      intro groups
      rw [List.foldl_cons, ih, HashMap.lookup_insert_ite, List.filter_cons]
      by_cases hid : id = ws.presetId
      · subst hid
        simp
      · simp [hid, Ne.symm hid]
  rw [hfold]
  rfl

theorem length_toDelete_le (running : List PrebuiltWorkspace) (preset : PresetPrebuildInfo) :
    (computeDelta (groupByPreset running) preset).toDelete.length ≤
      running.countP (·.presetId = preset.presetId) := by
  have hgroup := lookup_groupByPreset running preset.presetId
  rw [List.countP_eq_length_filter, ← hgroup]
  unfold computeDelta
  dsimp only
  split
  · exact Nat.zero_le _
  · split
    · cases (groupByPreset running).lookup preset.presetId with
      | none => simp
      | some workspaces => simp [sortByCreatedAt]
    · exact Nat.zero_le _

/-- Every workspace is of one preset at most. -/
theorem sum_countP_le {ids : List Uuid} (hnodup : ids.Nodup) (running : List PrebuiltWorkspace) :
    (ids.map fun id => running.countP (·.presetId = id)).sum ≤ running.length := by
  induction ids generalizing running with
  | nil => exact Nat.zero_le _
  | cons id ids ih =>
    obtain ⟨hfresh, hnodup⟩ := List.nodup_cons.mp hnodup
    have hrest : ids.map (fun id' => running.countP (·.presetId = id')) =
        ids.map (fun id' => (running.filter (·.presetId ≠ id)).countP (·.presetId = id')) := by
      apply List.map_congr_left
      intro id' hid'
      rw [List.countP_filter]
      apply List.countP_congr
      intro ws _
      simp only [decide_eq_true_eq, Bool.and_eq_true]
      constructor
      · rintro rfl
        exact ⟨rfl, fun heq => hfresh (heq ▸ hid')⟩
      · exact And.left
    have hle := ih hnodup (running.filter (·.presetId ≠ id))
    have hsplit := List.length_eq_countP_add_countP (fun ws => ws.presetId = id) (l := running)
    rw [List.map_cons, List.sum_cons, hrest]
    rw [← List.countP_eq_length_filter] at hle
    simp only [decide_not] at hle hsplit ⊢
    simp only [decide_eq_true_eq] at hsplit
    omega

theorem sum_toDelete_le {presets : List PresetPrebuildInfo}
    (hnodup : (presets.map (·.presetId)).Nodup) (running : List PrebuiltWorkspace) :
    ((computeDeltas presets running).map fun delta => delta.toDelete.length).sum ≤
      running.length := by
  refine Nat.le_trans ?_ (sum_countP_le hnodup running)
  rw [computeDeltas, List.map_map, List.map_map]
  apply List.sum_le_sum
  intro preset _
  exact length_toDelete_le running preset

/-! ## The running total -/

/-- The outcome in which creates succeed and deletes fail. -/
def worst : Nat → Call → Bool
  | _, .createPrebuild _ => true
  | _, .deletePrebuild _ => false

/-- `deleted` deletes and `tried` creates have been tried since there were `initial`
workspaces. -/
structure Tried (r : PrebuildReconciler) (initial deleted tried : Nat) (tick : Tick) : Prop where
  total : tick.runningTotal + deleted = initial + tried
  created : tick.calls.countP isCreated ≤ tried
  worst : r.actions = some worst →
    tick.calls.countP isDeleted = 0 ∧ tick.calls.countP isCreated = tried

namespace Tried

variable {r : PrebuildReconciler} {limit initial deleted tried : Nat} {tick : Tick}

theorem deletePrebuild (h : Tried r initial deleted tried tick) (hlt : deleted < initial)
    (wsId : Uuid) : Tried r initial (deleted + 1) tried (r.deletePrebuild tick wsId) := by
  have htotal := h.total
  unfold PrebuildReconciler.deletePrebuild
  cases hactions : r.actions with
  | none =>
    refine ⟨?_, h.created, by simp [hactions]⟩
    dsimp only
    omega
  | some outcome =>
    cases houtcome : outcome tick.calls.length (.deletePrebuild wsId) with
    | true =>
      simp only [houtcome, if_true]
      refine ⟨?_, ?_, fun hworst => ?_⟩
      · dsimp only
        omega
      · simpa [List.countP_append, isCreated] using h.created
      · rw [hactions] at hworst
        cases hworst
        cases houtcome
    | false =>
      simp only [houtcome, Bool.false_eq_true, if_false]
      refine ⟨?_, ?_, fun hworst => ?_⟩
      · dsimp only
        omega
      · simpa [List.countP_append, isCreated] using h.created
      · simpa [List.countP_append, isCreated, isDeleted] using h.worst hworst

theorem deletePrebuilds (h : Tried r initial deleted tried tick) (delta : PresetDelta)
    (hle : deleted + delta.toDelete.length ≤ initial) :
    Tried r initial (deleted + delta.toDelete.length) tried (r.deletePrebuilds tick delta) := by
  have hfold : ∀ (ids : List Uuid) (deleted : Nat) (tick : Tick),
      Tried r initial deleted tried tick → deleted + ids.length ≤ initial →
      Tried r initial (deleted + ids.length) tried (ids.foldl r.deletePrebuild tick) := by
    intro ids
    induction ids with
    | nil => exact fun _ _ h _ => h
    | cons id ids ih =>
      intro deleted tick h hle
      rw [List.length_cons] at hle ⊢
      have hnext := ih (deleted + 1) _ (h.deletePrebuild (by omega) id) (by omega)
      rwa [Nat.add_assoc, Nat.add_comm 1] at hnext
  unfold PrebuildReconciler.deletePrebuilds
  split
  · rename_i hnone
    simpa [hnone] using h
  · exact hfold _ _ _ ⟨h.total, h.created, h.worst⟩ hle

/-- A create that is not suppressed. -/
theorem createPrebuild_of_not_isFull (h : Tried r initial deleted tried tick)
    (preset : PresetPrebuildInfo) (hfull : r.isFull tick = false) :
    Tried r initial deleted (tried + 1) (r.createPrebuild preset tick) := by
  have htotal := h.total
  have hcreated := h.created
  unfold PrebuildReconciler.createPrebuild
  rw [if_neg (by simp [hfull])]
  cases hactions : r.actions with
  | none =>
    refine ⟨?_, ?_, by simp [hactions]⟩
    · dsimp only
      omega
    · dsimp only
      omega
  | some outcome =>
    cases houtcome :
        outcome tick.calls.length (.createPrebuild (PrebuildReconciler.startInput preset)) with
    | true =>
      simp only [houtcome, if_true]
      refine ⟨?_, ?_, fun hworst => ?_⟩
      · dsimp only
        omega
      · simpa [List.countP_append, isCreated] using hcreated
      · simpa [List.countP_append, isCreated, isDeleted] using h.worst hworst
    | false =>
      simp only [houtcome, Bool.false_eq_true, if_false]
      refine ⟨?_, ?_, fun hworst => ?_⟩
      · dsimp only
        omega
      · simp only [List.countP_append, isCreated, List.countP_singleton, Bool.false_eq_true,
          if_false]
        omega
      · rw [hactions] at hworst
        cases hworst
        cases houtcome

theorem createPrebuild (h : Tried r initial deleted tried tick) (hlimit : r.hardLimit = some limit)
    (preset : PresetPrebuildInfo) :
    Tried r initial deleted (triedUpTo limit initial deleted tried 1)
      (r.createPrebuild preset tick) := by
  have htotal := h.total
  by_cases hfull : limit ≤ tick.runningTotal
  · have htried : triedUpTo limit initial deleted tried 1 = tried := by
      unfold triedUpTo
      omega
    have hisFull : r.isFull tick = true := by simp [PrebuildReconciler.isFull, hlimit, hfull]
    rw [htried, PrebuildReconciler.createPrebuild, if_pos hisFull]
    exact ⟨h.total, h.created, h.worst⟩
  · have htried : triedUpTo limit initial deleted tried 1 = tried + 1 := by
      unfold triedUpTo
      omega
    have hisFull : r.isFull tick = false := by
      simpa [PrebuildReconciler.isFull, hlimit] using hfull
    rw [htried]
    exact h.createPrebuild_of_not_isFull preset hisFull

theorem createPrebuilds (h : Tried r initial deleted tried tick)
    (hlimit : r.hardLimit = some limit) (preset : PresetPrebuildInfo) (delta : PresetDelta) :
    Tried r initial deleted (triedUpTo limit initial deleted tried delta.toCreate.toNat)
      (r.createPrebuilds preset tick delta) := by
  have hiterate : ∀ (count tried : Nat) (tick : Tick), Tried r initial deleted tried tick →
      Tried r initial deleted (triedUpTo limit initial deleted tried count)
        ((r.createPrebuild preset)^[count] tick) := by
    intro count
    induction count with
    | zero =>
      intro tried tick h
      have htried : triedUpTo limit initial deleted tried 0 = tried := by
        unfold triedUpTo
        omega
      rwa [htried]
    | succ count ih =>
      intro tried tick h
      have hnext := ih _ _ (h.createPrebuild hlimit preset)
      have htried : triedUpTo limit initial deleted tried (count + 1) =
          triedUpTo limit initial deleted (triedUpTo limit initial deleted tried 1) count := by
        unfold triedUpTo
        omega
      rwa [htried]
  unfold PrebuildReconciler.createPrebuilds
  split
  · exact hiterate _ _ _ ⟨h.total, h.created, h.worst⟩
  · rename_i hnone
    have hzero : delta.toCreate.toNat = 0 := by
      have := UInt32.not_lt.mp hnone
      rw [UInt32.le_iff_toNat_le] at this
      simpa using this
    have htried : triedUpTo limit initial deleted tried 0 = tried := by
      unfold triedUpTo
      omega
    rwa [hzero, htried]

/-- The whole loop. -/
theorem reconcile (hlimit : r.hardLimit = some limit)
    (pairs : List (PresetPrebuildInfo × PresetDelta)) (h : Tried r initial deleted tried tick)
    (hle : deleted + (pairs.map fun e => e.2.toDelete.length).sum ≤ initial) :
    Tried r initial (deleted + (pairs.map fun e => e.2.toDelete.length).sum)
      (triedCreates limit initial deleted tried (pairs.map (·.2)))
      (pairs.foldl r.reconcile tick) := by
  induction pairs generalizing deleted tried tick with
  | nil => exact h
  | cons e pairs ih =>
    simp only [List.map_cons, List.sum_cons, List.foldl_cons, triedCreates] at hle ⊢
    have hdeletes := h.deletePrebuilds e.2 (by omega)
    have hnext := ih (hdeletes.createPrebuilds hlimit e.1 e.2) (by omega)
    rwa [Nat.add_assoc] at hnext

end Tried

theorem tried_tick (r : PrebuildReconciler) {limit : Nat} {presets : List PresetPrebuildInfo}
    (running : List PrebuiltWorkspace) (hlimit : r.hardLimit = some limit)
    (hnodup : (presets.map (·.presetId)).Nodup) :
    ∃ deleted, Tried r running.length deleted
      (triedCreates limit running.length 0 0 (computeDeltas presets running))
      (r.tick presets running) := by
  have hzip : (presets.zip (computeDeltas presets running)).map (·.2) =
      computeDeltas presets running := List.map_snd_zip (by simp [computeDeltas])
  have hsum : ((presets.zip (computeDeltas presets running)).map
      fun e => e.2.toDelete.length).sum ≤ running.length := by
    have hle := sum_toDelete_le hnodup running
    rwa [← hzip, List.map_map] at hle
  have hstart : Tried r running.length 0 0 (PrebuildReconciler.start presets running) :=
    ⟨rfl, Nat.le_refl 0, fun _ => ⟨rfl, rfl⟩⟩
  have htick := hstart.reconcile hlimit (presets.zip (computeDeltas presets running)) (by omega)
  rw [hzip] at htick
  exact ⟨_, htick⟩

theorem existing_le (initial : Nat) {tried : Nat} {calls all : List (Call × Bool)}
    (hinit : calls <+: all) (hcreated : all.countP isCreated ≤ tried) :
    existing initial calls ≤ initial + tried := by
  have hle := hinit.sublist.countP_le (p := isCreated)
  unfold existing
  omega

/-- Whatever the outcomes of the calls, the limit holds exactly when the creates fit. -/
theorem respects_iff_fits (hardLimit : Option Nat) (presets : List PresetPrebuildInfo)
    (running : List PrebuiltWorkspace) (hnodup : (presets.map (·.presetId)).Nodup) :
    (∀ actions, Respects { hardLimit, actions } presets running) ↔
      ∀ limit ∈ hardLimit, Fits limit running.length 0 0 (computeDeltas presets running) := by
  constructor
  · intro hrespects limit hlimit
    let r : PrebuildReconciler := { hardLimit, actions := some worst }
    obtain ⟨deleted, htried⟩ := tried_tick r running hlimit hnodup
    obtain ⟨hnone, hall⟩ := htried.worst rfl
    have hle := hrespects (some worst) limit hlimit (r.tick presets running).calls
      (List.prefix_refl _)
    rw [fits_iff limit running.length _ (Nat.zero_le _) (Nat.le_refl 0) (Nat.min_le_left _ _)]
    unfold existing at hle
    rw [hnone, hall] at hle
    omega
  · intro hfits actions limit hlimit calls hinit
    let r : PrebuildReconciler := { hardLimit, actions }
    obtain ⟨deleted, htried⟩ := tried_tick r running hlimit hnodup
    have hroom := hfits limit hlimit
    rw [fits_iff limit running.length _ (Nat.zero_le _) (Nat.le_refl 0) (Nat.min_le_left _ _)]
      at hroom
    have hle := existing_le running.length hinit htried.created
    omega

/-- A preset of which one workspace is wanted. -/
def single (id : BitVec 128) : PresetPrebuildInfo where
  templateId := ⟨1⟩
  templateVersionId := ⟨2⟩
  organizationId := ⟨3⟩
  presetId := ⟨id⟩
  desiredInstances := 1
  usingActiveVersion := true
  isHardLimited := false

/-- Two workspaces of the first of two such presets. -/
def twoOfFirst : List PrebuiltWorkspace :=
  [{ id := ⟨6⟩, presetId := ⟨4⟩, createdAt := .unixEpoch },
    { id := ⟨7⟩, presetId := ⟨4⟩, createdAt := .unixEpoch }]

theorem respects_three :
    Respects { hardLimit := some 3, actions := some worst } [single 4, single 5] twoOfFirst :=
  (respects_iff_fits (some 3) [single 4, single 5] twoOfFirst (by decide)).mpr
    (by
      intro limit hlimit
      obtain rfl : 3 = limit := by simpa using hlimit
      decide +kernel)
    (some worst)

/-- One of the two cannot be deleted, and a third one is created. -/
theorem not_respects_two :
    ¬ Respects { hardLimit := some 2, actions := some worst } [single 4, single 5] twoOfFirst := by
  intro h
  have hle := h 2 rfl _ (List.prefix_refl _)
  revert hle
  decide +kernel

end Coderd.Prebuilds
