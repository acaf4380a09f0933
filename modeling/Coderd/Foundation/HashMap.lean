import Mathlib.Data.List.AList

namespace Coderd.Foundation

/-- A hash map as a duplicate-free association list. The list order stands for the
map's iteration order, which the callers never rely on. -/
abbrev HashMap (κ ν : Type) := AList (fun _ : κ => ν)

namespace HashMap

variable {κ ν : Type} [DecidableEq κ]

theorem lookup_insert_ite (m : HashMap κ ν) (k k' : κ) (v : ν) :
    (m.insert k v).lookup k' = if k' = k then some v else m.lookup k' := by
  by_cases h : k' = k
  · subst h
    rw [if_pos rfl, AList.lookup_insert]
  · rw [if_neg h, AList.lookup_insert_ne h]

theorem lookup_erase_ite (m : HashMap κ ν) (k k' : κ) :
    (m.erase k).lookup k' = if k' = k then none else m.lookup k' := by
  by_cases h : k' = k
  · subst h
    rw [if_pos rfl, AList.lookup_erase]
  · rw [if_neg h, AList.lookup_erase_ne h]

/-- `HashMap::retain`. -/
def retain (m : HashMap κ ν) (keep : κ → ν → Bool) : HashMap κ ν where
  entries := m.entries.filter fun e => keep e.1 e.2
  nodupKeys := m.nodupKeys.sublist List.filter_sublist

theorem lookup_retain (m : HashMap κ ν) (keep : κ → ν → Bool) (k : κ) :
    (m.retain keep).lookup k = (m.lookup k).filter (keep k) := by
  ext v
  rw [← Option.mem_def, AList.mem_lookup_iff, Option.filter_eq_some_iff, ← Option.mem_def,
    AList.mem_lookup_iff]
  exact List.mem_filter

/-- Every value replaced by what `f` makes of it. -/
def mapValues (m : HashMap κ ν) (f : κ → ν → ν) : HashMap κ ν where
  entries := m.entries.map fun e => ⟨e.1, f e.1 e.2⟩
  nodupKeys := by
    have hkeys : (m.entries.map fun e => (⟨e.1, f e.1 e.2⟩ : (_ : κ) × ν)).keys =
        m.entries.keys := by
      simp [List.keys]
    rw [List.NodupKeys, hkeys]
    exact m.nodupKeys

theorem lookup_mapValues (m : HashMap κ ν) (f : κ → ν → ν) (k : κ) :
    (m.mapValues f).lookup k = (m.lookup k).map (f k) := by
  ext v
  rw [← Option.mem_def, AList.mem_lookup_iff, Option.map_eq_some_iff]
  constructor
  · intro h
    obtain ⟨⟨key, value⟩, hmem, heq⟩ := List.mem_map.mp h
    cases heq
    exact ⟨value, AList.mem_lookup_iff.mpr hmem, rfl⟩
  · rintro ⟨value, hvalue, rfl⟩
    exact List.mem_map.mpr ⟨⟨k, value⟩, AList.mem_lookup_iff.mp hvalue, rfl⟩

/-- The map's values in iteration order. -/
def values (m : HashMap κ ν) : List ν := m.entries.map (·.2)

theorem mem_values_of_lookup {m : HashMap κ ν} {k : κ} {v : ν} (h : m.lookup k = some v) :
    v ∈ m.values :=
  List.mem_map.mpr ⟨⟨k, v⟩, AList.mem_lookup_iff.mp h, rfl⟩

/-- `==` of two maps: of one size, and each entry of the first is in the second. -/
def beq [DecidableEq ν] (m m' : HashMap κ ν) : Bool :=
  m.entries.length = m'.entries.length && m.entries.all fun e => m'.lookup e.1 = some e.2

theorem all_entries_iff [DecidableEq ν] {m m' : HashMap κ ν} :
    (m.entries.all fun e => m'.lookup e.1 = some e.2) = true ↔
      ∀ k v, m.lookup k = some v → m'.lookup k = some v := by
  simp only [List.all_eq_true, decide_eq_true_eq]
  constructor
  · intro h k v hv
    exact h ⟨k, v⟩ (AList.mem_lookup_iff.mp hv)
  · intro h e he
    exact h e.1 e.2 (AList.mem_lookup_iff.mpr he)

/-- Maps are equal if they look up the same. -/
theorem beq_iff [DecidableEq ν] {m m' : HashMap κ ν} :
    m.beq m' = true ↔ ∀ k, m.lookup k = m'.lookup k := by
  rw [beq, Bool.and_eq_true, decide_eq_true_eq, all_entries_iff]
  constructor
  · rintro ⟨hlength, hsub⟩ k
    have hsubset : m.entries ⊆ m'.entries := fun e he =>
      AList.mem_lookup_iff.mp (hsub e.1 e.2 (AList.mem_lookup_iff.mpr he))
    have hperm : m.entries.Perm m'.entries :=
      (List.subperm_of_subset m.nodupKeys.nodup hsubset).perm_of_length_le (le_of_eq hlength.symm)
    exact AList.perm_lookup hperm
  · intro h
    have hperm : m.entries.Perm m'.entries := by
      refine (List.perm_ext_iff_of_nodup m.nodupKeys.nodup m'.nodupKeys.nodup).mpr ?_
      rintro ⟨k, v⟩
      rw [← AList.mem_lookup_iff, ← AList.mem_lookup_iff, h k]
    exact ⟨hperm.length_eq, fun k v hv => by rwa [← h k]⟩

end HashMap

end Coderd.Foundation
