import Mathlib.Data.List.Perm.Subperm
import Coderd.Prebuilds.HardLimit

namespace Coderd.Prebuilds

open Coderd.Foundation

/-! ## Applying deltas -/

def ofPreset (preset : Uuid) (existing : List PrebuiltWorkspace) : List PrebuiltWorkspace :=
  existing.filter (·.presetId = preset)

def isPrebuild (preset id : Uuid) (ws : PrebuiltWorkspace) : Bool :=
  ws.presetId = preset && ws.id = id

/-- Each id to delete takes away one prebuild of the preset that has it. -/
def PresetDelta.remove (delta : PresetDelta) (existing : List PrebuiltWorkspace) :
    List PrebuiltWorkspace :=
  delta.toDelete.foldl (fun existing id => existing.eraseP (isPrebuild delta.presetId id)) existing

/-- The prebuilds that deltas lead to one after another. The new ones may have any ids and
times. -/
inductive Applied : List PresetDelta → List PrebuiltWorkspace → List PrebuiltWorkspace → Prop
  | nil (existing : List PrebuiltWorkspace) : Applied [] existing existing
  | cons {delta : PresetDelta} {deltas : List PresetDelta}
      {existing new after : List PrebuiltWorkspace} (count : new.length = delta.toCreate.toNat)
      (preset : ∀ ws ∈ new, ws.presetId = delta.presetId)
      (rest : Applied deltas (delta.remove existing ++ new) after) :
      Applied (delta :: deltas) existing after

section Remove

variable {preset id : Uuid} {delta : PresetDelta} {existing : List PrebuiltWorkspace}

theorem ids_eraseP (preset id : Uuid) (existing : List PrebuiltWorkspace) :
    (ofPreset preset (existing.eraseP (isPrebuild preset id))).map (·.id) =
      ((ofPreset preset existing).map (·.id)).erase id := by
  induction existing with
  | nil => rfl
  | cons ws existing ih =>
    rw [ofPreset] at ih ⊢
    by_cases hpreset : ws.presetId = preset
    · by_cases hid : ws.id = id
      · simp [ofPreset, isPrebuild, hpreset, hid]
      · simp [ofPreset, isPrebuild, hpreset, hid, ih]
    · simp [ofPreset, isPrebuild, hpreset, ih]

theorem ofPreset_eraseP_of_ne {other : Uuid} (h : other ≠ preset) :
    ofPreset other (existing.eraseP (isPrebuild preset id)) = ofPreset other existing := by
  induction existing with
  | nil => rfl
  | cons ws existing ih =>
    rw [ofPreset, ofPreset] at ih ⊢
    by_cases hpreset : ws.presetId = preset
    · by_cases hid : ws.id = id
      · simp [isPrebuild, hpreset, hid, h.symm]
      · simp [isPrebuild, hpreset, hid, List.filter_cons, ih]
    · simp [isPrebuild, hpreset, List.filter_cons, ih]

/-- What is left of the preset has the ids that are not deleted. -/
theorem ids_remove (delta : PresetDelta) (existing : List PrebuiltWorkspace) :
    (ofPreset delta.presetId (delta.remove existing)).map (·.id) =
      ((ofPreset delta.presetId existing).map (·.id)).diff delta.toDelete := by
  rw [PresetDelta.remove]
  induction delta.toDelete generalizing existing with
  | nil => rfl
  | cons id ids ih => rw [List.foldl_cons, ih, ids_eraseP, List.diff_cons]

theorem ofPreset_remove_of_ne {other : Uuid} (h : other ≠ delta.presetId) :
    ofPreset other (delta.remove existing) = ofPreset other existing := by
  rw [PresetDelta.remove]
  induction delta.toDelete generalizing existing with
  | nil => rfl
  | cons id ids ih => rw [List.foldl_cons, ih, ofPreset_eraseP_of_ne h]

theorem ofPreset_append_new {new : List PrebuiltWorkspace} {other : Uuid}
    (hnew : ∀ ws ∈ new, ws.presetId = preset) (h : other ≠ preset) :
    ofPreset other (existing ++ new) = ofPreset other existing := by
  have hnone : new.filter (·.presetId = other) = [] := by
    rw [List.filter_eq_nil_iff]
    intro ws hws heq
    exact h ((of_decide_eq_true heq).symm.trans (hnew ws hws))
  rw [ofPreset, List.filter_append, hnone, List.append_nil]
  rfl

/-- Where ids are distinct, what is taken away are the prebuilds with the ids to delete. -/
theorem eraseP_eq_filter (hids : (existing.map (·.id)).Nodup)
    (hpreset : ∀ ws ∈ existing, ws.id = id → ws.presetId = preset) :
    existing.eraseP (isPrebuild preset id) = existing.filter (·.id ≠ id) := by
  induction existing with
  | nil => rfl
  | cons ws existing ih =>
    obtain ⟨hfresh, hids⟩ := List.nodup_cons.mp hids
    obtain ⟨hfirst, hpreset⟩ := List.forall_mem_cons.mp hpreset
    by_cases hid : ws.id = id
    · have hothers : existing.filter (·.id ≠ id) = existing := by
        refine List.filter_eq_self.mpr fun other hother => decide_eq_true fun heq => hfresh ?_
        have hmem : other.id ∈ existing.map (·.id) := List.mem_map_of_mem hother
        rwa [heq, ← hid] at hmem
      have hmatch : isPrebuild preset id ws = true := by simp [isPrebuild, hid, hfirst hid]
      rw [List.eraseP_cons_of_pos hmatch, List.filter_cons, if_neg (by simpa using hid), hothers]
    · have hother : isPrebuild preset id ws ≠ true := by simp [isPrebuild, hid]
      rw [List.eraseP_cons_of_neg hother, ih hids hpreset, List.filter_cons,
        if_pos (by simpa using hid)]

theorem remove_eq_filter (hids : (existing.map (·.id)).Nodup)
    (hpreset : ∀ ws ∈ existing, ws.id ∈ delta.toDelete → ws.presetId = delta.presetId) :
    delta.remove existing = existing.filter (·.id ∉ delta.toDelete) := by
  rw [PresetDelta.remove]
  generalize delta.toDelete = ids at hpreset
  induction ids generalizing existing with
  | nil => simp
  | cons id ids ih =>
    have hfirst : ∀ ws ∈ existing, ws.id = id → ws.presetId = delta.presetId := fun ws hws heq =>
      hpreset ws hws (heq ▸ List.mem_cons_self)
    rw [List.foldl_cons, eraseP_eq_filter hids hfirst, ih, List.filter_filter]
    · refine List.filter_congr fun ws _ => ?_
      simp [Bool.and_comm]
    · exact hids.sublist (List.filter_sublist.map _)
    · exact fun ws hws hid => hpreset ws (List.mem_of_mem_filter hws) (List.mem_cons_of_mem _ hid)

/-- Deltas of other presets leave a preset alone. -/
theorem Applied.ofPreset_eq {deltas : List PresetDelta} {after : List PrebuiltWorkspace}
    (h : Applied deltas existing after) (hother : preset ∉ deltas.map (·.presetId)) :
    ofPreset preset after = ofPreset preset existing := by
  induction h with
  | nil existing => rfl
  | cons count hpreset rest ih =>
    obtain ⟨hne, hrest⟩ := List.ne_and_not_mem_of_not_mem_cons hother
    rw [ih hrest, ofPreset_append_new hpreset hne, ofPreset_remove_of_ne hne]

/-- The count of a delta's own preset. -/
theorem length_ofPreset_applied {new : List PrebuiltWorkspace}
    (hdelete : delta.toDelete.Subperm ((ofPreset delta.presetId existing).map (·.id)))
    (hcount : new.length = delta.toCreate.toNat)
    (hnew : ∀ ws ∈ new, ws.presetId = delta.presetId) :
    (ofPreset delta.presetId (delta.remove existing ++ new)).length + delta.toDelete.length =
      (ofPreset delta.presetId existing).length + delta.toCreate.toNat := by
  have hall : new.filter (·.presetId = delta.presetId) = new :=
    List.filter_eq_self.mpr fun ws hws => decide_eq_true (hnew ws hws)
  have hperm := List.subperm_append_diff_self_of_count_le fun id _ => hdelete.count_le id
  have hlength := hperm.length_eq
  have hleft := congrArg List.length (ids_remove delta existing)
  rw [List.length_append, ← hleft, List.length_map, List.length_map] at hlength
  rw [ofPreset, List.filter_append, hall, List.length_append, hcount]
  rw [ofPreset] at hlength
  omega

end Remove

/-! ## The deltas -/

def PresetPrebuildInfo.mayCreate (preset : PresetPrebuildInfo) : Bool :=
  !preset.isHardLimited && preset.usingActiveVersion

/-- The running prebuilds of a preset, the oldest first. -/
def sortedPrebuilds (running : List PrebuiltWorkspace) (preset : Uuid) : List PrebuiltWorkspace :=
  sortByCreatedAt (ofPreset preset running)

section Deltas

variable {presets : List PresetPrebuildInfo} {preset : PresetPrebuildInfo}
  {running : List PrebuiltWorkspace}

/-- A preset without a group has no running prebuilds. -/
theorem computeDelta_eq (running : List PrebuiltWorkspace) (preset : PresetPrebuildInfo) :
    let actual := (ofPreset preset.presetId running).length
    let desired := preset.desiredInstances.toNat
    computeDelta (groupByPreset running) preset =
      if actual < desired then
        ⟨preset.presetId, if preset.mayCreate then .ofNat (desired - actual) else 0, []⟩
      else
        ⟨preset.presetId, 0,
          ((sortedPrebuilds running preset.presetId).take (actual - desired)).map (·.id)⟩ := by
  intro actual desired
  have hgroup : ((groupByPreset running).lookup preset.presetId).getD [] =
      ofPreset preset.presetId running := lookup_groupByPreset running preset.presetId
  have hactual : (((groupByPreset running).lookup preset.presetId).map sortByCreatedAt).elim 0
      List.length = actual := by
    show _ = (ofPreset preset.presetId running).length
    rw [← hgroup]
    cases (groupByPreset running).lookup preset.presetId with
    | none => rfl
    | some workspaces => exact List.length_insertionSort _ workspaces
  have hsorted : (((groupByPreset running).lookup preset.presetId).map sortByCreatedAt).getD [] =
      sortedPrebuilds running preset.presetId := by
    rw [sortedPrebuilds, ← hgroup]
    cases (groupByPreset running).lookup preset.presetId with
    | none => rfl
    | some workspaces => rfl
  have hmin : min (desired - actual) 4294967295 = desired - actual := by
    have hlt := preset.desiredInstances.toNat_lt
    omega
  rw [computeDelta]
  simp only [hactual, hsorted]
  by_cases hbelow : actual < desired
  · cases hmay : preset.mayCreate with
    | true =>
      rw [PresetPrebuildInfo.mayCreate] at hmay
      rw [if_pos ⟨hbelow, hmay⟩, if_pos hbelow, if_pos rfl, hmin]
    | false =>
      rw [PresetPrebuildInfo.mayCreate] at hmay
      rw [hmay, if_neg (by simp), if_neg (by omega), if_pos hbelow, if_neg Bool.false_ne_true]
  · rw [if_neg fun h => hbelow h.1, if_neg hbelow]
    by_cases hover : actual > desired
    · rw [if_pos hover]
    · have hzero : actual - desired = 0 := by omega
      rw [if_neg hover, hzero, List.take_zero, List.map_nil]

/-- What a delta says of its preset. -/
structure PresetDelta.Sound (running : List PrebuiltWorkspace) (preset : PresetPrebuildInfo)
    (delta : PresetDelta) : Prop where
  presetId : delta.presetId = preset.presetId
  exclusive : delta.toCreate = 0 ∨ delta.toDelete = []
  /-- None that is kept is older than one that is deleted. -/
  oldest : ∃ deleted kept : List PrebuiltWorkspace, delta.toDelete = deleted.map (·.id) ∧
    (deleted ++ kept).Perm (ofPreset preset.presetId running) ∧
    deleted.Pairwise (fun a b => a.createdAt ≤ b.createdAt) ∧
    ∀ old ∈ deleted, ∀ ws ∈ kept, old.createdAt ≤ ws.createdAt
  nodup : (running.map (·.id)).Nodup → delta.toDelete.Nodup
  removes : (running.map (·.id)).Nodup →
    delta.remove running = running.filter (·.id ∉ delta.toDelete)

/-- The count is the one that is wanted, unless the preset is below it and may not grow. -/
def Converged (running after : List PrebuiltWorkspace) (preset : PresetPrebuildInfo) : Prop :=
  if (ofPreset preset.presetId running).length < preset.desiredInstances.toNat ∧
      preset.mayCreate = false then
    ofPreset preset.presetId after = ofPreset preset.presetId running
  else (ofPreset preset.presetId after).length = preset.desiredInstances.toNat

theorem pairwise_sortedPrebuilds (running : List PrebuiltWorkspace) (preset : Uuid) :
    (sortedPrebuilds running preset).Pairwise fun a b => a.createdAt ≤ b.createdAt := by
  have : Std.Total fun a b : PrebuiltWorkspace => a.createdAt ≤ b.createdAt :=
    ⟨fun a b => le_total a.createdAt b.createdAt⟩
  have : IsTrans PrebuiltWorkspace fun a b => a.createdAt ≤ b.createdAt :=
    ⟨fun a b c => le_trans⟩
  exact List.pairwise_insertionSort _ _

theorem perm_sortedPrebuilds (running : List PrebuiltWorkspace) (preset : Uuid) :
    (sortedPrebuilds running preset).Perm (ofPreset preset running) :=
  List.perm_insertionSort _ _

/-- The ids to delete are those of the oldest prebuilds. -/
theorem toDelete_eq_take (running : List PrebuiltWorkspace) (preset : PresetPrebuildInfo) :
    ∃ excess, (computeDelta (groupByPreset running) preset).toDelete =
      ((sortedPrebuilds running preset.presetId).take excess).map (·.id) := by
  rw [computeDelta_eq]
  split
  · exact ⟨0, by rw [List.take_zero, List.map_nil]⟩
  · exact ⟨_, rfl⟩

theorem presetId_computeDelta (running : List PrebuiltWorkspace) (preset : PresetPrebuildInfo) :
    (computeDelta (groupByPreset running) preset).presetId = preset.presetId := by
  rw [computeDelta_eq]
  split
  · rfl
  · rfl

theorem sound_computeDelta (running : List PrebuiltWorkspace) (preset : PresetPrebuildInfo) :
    (computeDelta (groupByPreset running) preset).Sound running preset := by
  obtain ⟨excess, htake⟩ := toDelete_eq_take running preset
  -- the sorted prebuilds are those that go and, after them, those that are kept
  let sorted := sortedPrebuilds running preset.presetId
  have hperm : sorted.Perm (ofPreset preset.presetId running) := perm_sortedPrebuilds _ _
  have hsorted : (sorted.take excess ++ sorted.drop excess).Pairwise
      fun a b => a.createdAt ≤ b.createdAt := by
    rw [List.take_append_drop]
    exact pairwise_sortedPrebuilds running preset.presetId
  obtain ⟨hdeleted, -, hkept⟩ := List.pairwise_append.mp hsorted
  have hids : (running.map (·.id)).Nodup → (sorted.map (·.id)).Nodup := fun hids =>
    (hperm.map _).nodup_iff.mpr (hids.sublist (List.filter_sublist.map _))
  refine ⟨presetId_computeDelta running preset, ?_, ⟨sorted.take excess, sorted.drop excess, htake,
    ?_, hdeleted, hkept⟩, ?_, ?_⟩
  · rw [computeDelta_eq]
    split
    · exact .inr rfl
    · exact .inl rfl
  · rw [List.take_append_drop]
    exact hperm
  · intro h
    rw [htake]
    exact (hids h).sublist ((List.take_sublist excess sorted).map _)
  · intro h
    refine remove_eq_filter h fun ws hws hid => ?_
    rw [htake] at hid
    obtain ⟨old, hold, heq⟩ := List.mem_map.mp hid
    have hmem := List.mem_filter.mp (hperm.subset (List.mem_of_mem_take hold))
    rw [presetId_computeDelta, ← List.inj_on_of_nodup_map h hmem.1 hws heq]
    exact of_decide_eq_true hmem.2

/-! ## Convergence -/

theorem subperm_toDelete (running : List PrebuiltWorkspace) (preset : PresetPrebuildInfo) :
    (computeDelta (groupByPreset running) preset).toDelete.Subperm
      ((ofPreset preset.presetId running).map (·.id)) := by
  obtain ⟨excess, htake⟩ := toDelete_eq_take running preset
  have hperm := perm_sortedPrebuilds running preset.presetId
  rw [htake]
  exact ((List.take_sublist excess _).map _).subperm.trans (hperm.map _).subperm

/-- A preset's own delta brings it to its target. -/
theorem converged_computeDelta {existing new after : List PrebuiltWorkspace}
    (hsame : ofPreset preset.presetId existing = ofPreset preset.presetId running)
    (count : new.length = (computeDelta (groupByPreset running) preset).toCreate.toNat)
    (hnew : ∀ ws ∈ new, ws.presetId = preset.presetId)
    (hafter : ofPreset preset.presetId after = ofPreset preset.presetId
      ((computeDelta (groupByPreset running) preset).remove existing ++ new)) :
    Converged running after preset := by
  have hid := presetId_computeDelta running preset
  have hdelete := subperm_toDelete running preset
  have heq := computeDelta_eq running preset
  dsimp only at heq
  rw [← hsame, ← hid] at hdelete
  rw [← hid] at hnew hafter
  have hlength := length_ofPreset_applied hdelete count hnew
  rw [← hafter, hid, hsame] at hlength
  rw [hid] at hafter
  rw [Converged]
  by_cases hbelow : (ofPreset preset.presetId running).length < preset.desiredInstances.toNat
  · -- creates make up for the difference, where they are allowed
    rw [if_pos hbelow] at heq
    cases hmay : preset.mayCreate with
    | false =>
      rw [hmay, if_neg Bool.false_ne_true] at heq
      rw [if_pos ⟨hbelow, rfl⟩, hafter, ← hsame, heq]
      rw [heq] at count
      rw [List.eq_nil_of_length_eq_zero count, List.append_nil]
      rfl
    | true =>
      have hlt := preset.desiredInstances.toNat_lt
      have hcreate := UInt32.toNat_ofNat_of_lt' (Nat.lt_of_le_of_lt
        (Nat.sub_le preset.desiredInstances.toNat (ofPreset preset.presetId running).length) hlt)
      rw [hmay, if_pos rfl] at heq
      rw [heq] at hlength
      dsimp only at hlength
      rw [hcreate, List.length_nil] at hlength
      rw [if_neg (by simp)]
      omega
  · -- as many go as there are too many
    have hsorted := (perm_sortedPrebuilds running preset.presetId).length_eq
    have hzero : (0 : UInt32).toNat = 0 := rfl
    rw [if_neg hbelow] at heq
    rw [heq] at hlength
    dsimp only at hlength
    rw [List.length_map, List.length_take, hsorted, hzero] at hlength
    rw [if_neg fun h => hbelow h.1]
    omega

/-- Deltas of other presets, before a preset's own or after it, change nothing for it. -/
theorem converged_of_applied {existing after : List PrebuiltWorkspace}
    (hdistinct : (presets.map (·.presetId)).Nodup)
    (hsame : ∀ preset ∈ presets,
      ofPreset preset.presetId existing = ofPreset preset.presetId running)
    (h : Applied (presets.map (computeDelta (groupByPreset running))) existing after) :
    ∀ preset ∈ presets, Converged running after preset := by
  induction presets generalizing existing with
  | nil => exact fun _ hmem => absurd hmem List.not_mem_nil
  | cons first presets ih =>
    obtain ⟨hfresh, hdistinct⟩ := List.nodup_cons.mp hdistinct
    obtain ⟨hfirst, hothers⟩ := List.forall_mem_cons.mp hsame
    cases h with
    | cons count hnew rest =>
      rename_i new
      have hids : (presets.map (computeDelta (groupByPreset running))).map (·.presetId) =
          presets.map (·.presetId) := by
        rw [List.map_map]
        exact List.map_congr_left fun preset _ => presetId_computeDelta running preset
      rw [presetId_computeDelta] at hnew
      refine List.forall_mem_cons.mpr ⟨?_, ih hdistinct (fun preset hmem => ?_) rest⟩
      · exact converged_computeDelta hfirst count hnew (rest.ofPreset_eq (hids ▸ hfresh))
      · have hmem' : preset.presetId ∈ presets.map (·.presetId) := List.mem_map_of_mem hmem
        have hne : preset.presetId ≠ first.presetId := by
          intro heq
          rw [heq] at hmem'
          exact hfresh hmem'
        rw [ofPreset_append_new hnew hne,
          ofPreset_remove_of_ne (by rwa [presetId_computeDelta]), hothers preset hmem]

end Deltas

theorem exists_applied (deltas : List PresetDelta) (existing : List PrebuiltWorkspace) :
    ∃ after, Applied deltas existing after := by
  induction deltas generalizing existing with
  | nil => exact ⟨existing, .nil existing⟩
  | cons delta deltas ih =>
    let ws : PrebuiltWorkspace := ⟨delta.presetId, delta.presetId, .unixEpoch⟩
    obtain ⟨after, hrest⟩ := ih (delta.remove existing ++ List.replicate delta.toCreate.toNat ws)
    refine ⟨after, .cons List.length_replicate (fun new hnew => ?_) hrest⟩
    rw [List.eq_of_mem_replicate hnew]

/-- There is a sound delta for every preset, in order, and they lead to the counts that are
wanted. -/
theorem computeDeltas_converge (presets : List PresetPrebuildInfo)
    (running : List PrebuiltWorkspace) (hdistinct : (presets.map (·.presetId)).Nodup) :
    List.Forall₂ (fun preset delta => delta.Sound running preset) presets
        (computeDeltas presets running) ∧
      (∃ after, Applied (computeDeltas presets running) running after) ∧
        ∀ after, Applied (computeDeltas presets running) running after →
          ∀ preset ∈ presets, Converged running after preset := by
  refine ⟨?_, exists_applied _ _, fun after h => converged_of_applied hdistinct (fun _ _ => rfl) h⟩
  rw [computeDeltas, List.forall₂_map_right_iff]
  exact List.forall₂_same.mpr fun preset _ => sound_computeDelta running preset

/-- The second of the two that are there and a new one of the other preset. -/
def oneOfEach : List PrebuiltWorkspace :=
  [{ id := ⟨7⟩, presetId := ⟨4⟩, createdAt := .unixEpoch },
    { id := ⟨8⟩, presetId := ⟨5⟩, createdAt := .unixEpoch }]

theorem applied_oneOfEach :
    Applied (computeDeltas [single 4, single 5] twoOfFirst) twoOfFirst oneOfEach :=
  @Applied.cons _ _ twoOfFirst [] _ (by decide +kernel) (by decide)
    (@Applied.cons _ _ _ oneOfEach.tail _ (by decide +kernel) (by decide +kernel) (.nil _))

theorem converged_oneOfEach : Converged twoOfFirst oneOfEach (single 5) :=
  (computeDeltas_converge [single 4, single 5] twoOfFirst (by decide)).2.2 oneOfEach
    applied_oneOfEach (single 5) (by simp)

end Coderd.Prebuilds
