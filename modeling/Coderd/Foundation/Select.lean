import Mathlib.Data.List.Sort
import Mathlib.Order.Basic
import Coderd.Foundation.HashMap

namespace Coderd.Foundation.HashMap

variable {κ ν : Type} [DecidableEq κ]

/-! ## One row

A query with `fetch_optional` returns some row of those that its clause selects, and nothing where
it selects none. Which one it is depends on the order of the table, unless the clause selects at
most one. -/

/-- `SELECT … WHERE p LIMIT 1`. -/
def selectFirst (m : HashMap κ ν) (p : κ → ν → Bool) : Option (κ × ν) :=
  (m.entries.find? fun e => p e.1 e.2).map fun e => (e.1, e.2)

theorem selectFirst_spec {m : HashMap κ ν} {p : κ → ν → Bool} {k : κ} {v : ν}
    (h : m.selectFirst p = some (k, v)) : m.lookup k = some v ∧ p k v = true := by
  obtain ⟨⟨key, value⟩, hfind, heq⟩ := Option.map_eq_some_iff.mp h
  cases heq
  have hmem := List.mem_of_find?_eq_some hfind
  have hp := List.find?_some hfind
  exact ⟨AList.mem_lookup_iff.mpr hmem, hp⟩

theorem selectFirst_eq_none_iff {m : HashMap κ ν} {p : κ → ν → Bool} :
    m.selectFirst p = none ↔ ∀ k v, m.lookup k = some v → p k v = false := by
  rw [selectFirst, Option.map_eq_none_iff, List.find?_eq_none]
  constructor
  · intro h k v hlookup
    have hp := h ⟨k, v⟩ (AList.mem_lookup_iff.mp hlookup)
    simpa using hp
  · rintro h ⟨k, v⟩ hmem
    have hp := h k v (AList.mem_lookup_iff.mpr hmem)
    simp [hp]

/-- Where a unique index covers the clause, the query returns the row if there is one. -/
theorem selectFirst_eq_some_iff {m : HashMap κ ν} {p : κ → ν → Bool}
    (unique : ∀ k k' v v', m.lookup k = some v → m.lookup k' = some v' → p k v = true →
      p k' v' = true → k = k') {k : κ} {v : ν} :
    m.selectFirst p = some (k, v) ↔ m.lookup k = some v ∧ p k v = true := by
  refine ⟨selectFirst_spec, ?_⟩
  rintro ⟨hlookup, hp⟩
  cases hselect : m.selectFirst p with
  | none =>
    have hfalse := selectFirst_eq_none_iff.mp hselect k v hlookup
    rw [hp] at hfalse
    cases hfalse
  | some found =>
    obtain ⟨k', v'⟩ := found
    obtain ⟨hlookup', hp'⟩ := selectFirst_spec hselect
    have hkey : k = k' := unique k k' v v' hlookup hlookup' hp hp'
    subst hkey
    rw [hlookup] at hlookup'
    cases hlookup'
    rfl

/-- `selectFirst` where the table may be read in any order: the row under `preferred`, if the
clause selects it. -/
def selectAny (m : HashMap κ ν) (preferred : κ) (p : κ → ν → Bool) : Option (κ × ν) :=
  match (m.lookup preferred).filter (p preferred) with
  | some v => some (preferred, v)
  | none => m.selectFirst p

theorem selectAny_spec {m : HashMap κ ν} {preferred : κ} {p : κ → ν → Bool} {k : κ} {v : ν}
    (h : m.selectAny preferred p = some (k, v)) : m.lookup k = some v ∧ p k v = true := by
  unfold selectAny at h
  split at h
  · rename_i row hrow
    cases h
    exact Option.filter_eq_some_iff.mp hrow
  · exact selectFirst_spec h

theorem selectFirst_of_selectAny {m : HashMap κ ν} {preferred : κ} {p : κ → ν → Bool}
    (h : m.selectAny preferred p = none) : m.selectFirst p = none := by
  unfold selectAny at h
  split at h
  · cases h
  · exact h

/-! ## The row with the greatest column -/

/-- The entry of the list with the greatest column, the first one of several. -/
def greatest (column : ν → Int) : List (κ × ν) → Option (κ × ν)
  | [] => none
  | e :: rest =>
    match greatest column rest with
    | none => some e
    | some best => if column e.2 < column best.2 then some best else some e

omit [DecidableEq κ] in
theorem greatest_spec {column : ν → Int} {es : List (κ × ν)} {best : κ × ν}
    (h : greatest column es = some best) :
    best ∈ es ∧ ∀ e ∈ es, column e.2 ≤ column best.2 := by
  induction es generalizing best with
  | nil => cases h
  | cons e rest ih =>
    rw [greatest] at h
    cases hrest : greatest column rest with
    | none =>
      rw [hrest] at h
      cases h
      cases rest with
      | nil => simp
      | cons e' rest' =>
        rw [greatest] at hrest
        split at hrest
        · cases hrest
        · split at hrest <;> cases hrest
    | some best' =>
      rw [hrest] at h
      obtain ⟨hmem, hle⟩ := ih hrest
      simp only at h
      split at h
      · rename_i hlt
        cases h
        refine ⟨List.mem_cons_of_mem _ hmem, ?_⟩
        intro x hx
        cases List.mem_cons.mp hx with
        | inl hhead => exact hhead ▸ hlt.le
        | inr htail => exact hle x htail
      · rename_i hnot
        cases h
        refine ⟨List.mem_cons_self, ?_⟩
        intro x hx
        cases List.mem_cons.mp hx with
        | inl hhead => exact hhead ▸ le_refl _
        | inr htail => exact (hle x htail).trans (not_lt.mp hnot)

omit [DecidableEq κ] in
theorem greatest_eq_none_iff {column : ν → Int} {es : List (κ × ν)} :
    greatest column es = none ↔ es = [] := by
  cases es with
  | nil => simp [greatest]
  | cons e rest =>
    rw [greatest]
    cases greatest column rest with
    | none => simp
    | some best =>
      simp only
      split <;> simp

/-- The rows that the clause selects. -/
def selectAll (m : HashMap κ ν) (p : κ → ν → Bool) : List (κ × ν) :=
  (m.entries.filter fun e => p e.1 e.2).map fun e => (e.1, e.2)

theorem mem_selectAll {m : HashMap κ ν} {p : κ → ν → Bool} {k : κ} {v : ν} :
    (k, v) ∈ m.selectAll p ↔ m.lookup k = some v ∧ p k v = true := by
  rw [selectAll, List.mem_map]
  constructor
  · rintro ⟨⟨key, value⟩, hmem, heq⟩
    cases heq
    obtain ⟨hentry, hp⟩ := List.mem_filter.mp hmem
    exact ⟨AList.mem_lookup_iff.mpr hentry, hp⟩
  · rintro ⟨hlookup, hp⟩
    exact ⟨⟨k, v⟩, List.mem_filter.mpr ⟨AList.mem_lookup_iff.mp hlookup, hp⟩, rfl⟩

/-- A table with one row. -/
def singleRow (k : κ) (v : ν) : HashMap κ ν := (∅ : HashMap κ ν).insert k v

theorem lookup_singleRow {k k' : κ} {v v' : ν} :
    (singleRow k v).lookup k' = some v' ↔ k' = k ∧ v' = v := by
  unfold singleRow
  rw [lookup_insert_ite]
  split
  · rename_i hkey
    simp [hkey, eq_comm]
  · rename_i hkey
    simp [hkey]

@[simp] theorem lookup_singleRow_self {k : κ} {v : ν} : (singleRow k v).lookup k = some v :=
  lookup_singleRow.mpr ⟨rfl, rfl⟩

theorem selectAll_singleRow {k : κ} {v : ν} {p : κ → ν → Bool} (h : p k v = true) :
    (singleRow k v).selectAll p = [(k, v)] := by
  have hentries : (singleRow k v).entries = [⟨k, v⟩] := rfl
  simp [selectAll, hentries, h]

theorem selectFirst_singleRow {k : κ} {v : ν} {p : κ → ν → Bool} (h : p k v = true) :
    (singleRow k v).selectFirst p = some (k, v) := by
  have hentries : (singleRow k v).entries = [⟨k, v⟩] := rfl
  simp [selectFirst, hentries, h]

/-- `SELECT … WHERE p ORDER BY column DESC LIMIT 1`. -/
def selectGreatest (m : HashMap κ ν) (p : κ → ν → Bool) (column : ν → Int) : Option (κ × ν) :=
  greatest column (m.selectAll p)

theorem selectGreatest_spec {m : HashMap κ ν} {p : κ → ν → Bool} {column : ν → Int} {k : κ} {v : ν}
    (h : m.selectGreatest p column = some (k, v)) :
    m.lookup k = some v ∧ p k v = true ∧
      ∀ k' v', m.lookup k' = some v' → p k' v' = true → column v' ≤ column v := by
  obtain ⟨hmem, hle⟩ := greatest_spec h
  obtain ⟨hlookup, hp⟩ := mem_selectAll.mp hmem
  exact ⟨hlookup, hp, fun k' v' hlookup' hp' => hle (k', v') (mem_selectAll.mpr ⟨hlookup', hp'⟩)⟩

/-- Where a unique index covers the clause and the column, the row with the greatest column is
the one that the query returns. -/
theorem selectGreatest_eq_some_iff {m : HashMap κ ν} {p : κ → ν → Bool} {column : ν → Int}
    (unique : ∀ k k' v v', m.lookup k = some v → m.lookup k' = some v' → p k v = true →
      p k' v' = true → column v = column v' → k = k') {k : κ} {v : ν} :
    m.selectGreatest p column = some (k, v) ↔
      m.lookup k = some v ∧ p k v = true ∧
        ∀ k' v', m.lookup k' = some v' → p k' v' = true → column v' ≤ column v := by
  refine ⟨selectGreatest_spec, ?_⟩
  rintro ⟨hlookup, hp, hgreatest⟩
  cases hselect : m.selectGreatest p column with
  | none =>
    have hempty := greatest_eq_none_iff.mp hselect
    have hmem : (k, v) ∈ m.selectAll p := mem_selectAll.mpr ⟨hlookup, hp⟩
    rw [hempty] at hmem
    cases hmem
  | some found =>
    obtain ⟨k', v'⟩ := found
    obtain ⟨hlookup', hp', hgreatest'⟩ := selectGreatest_spec hselect
    have hcolumn : column v = column v' :=
      le_antisymm (hgreatest' k v hlookup hp) (hgreatest k' v' hlookup' hp')
    have hkey : k = k' := unique k k' v v' hlookup hlookup' hp hp' hcolumn
    subst hkey
    rw [hlookup] at hlookup'
    cases hlookup'
    rfl

theorem selectGreatest_eq_none_iff {m : HashMap κ ν} {p : κ → ν → Bool} {column : ν → Int} :
    m.selectGreatest p column = none ↔ ∀ k v, m.lookup k = some v → p k v = false := by
  rw [selectGreatest, greatest_eq_none_iff, List.eq_nil_iff_forall_not_mem]
  constructor
  · intro h k v hlookup
    by_contra hp
    exact h (k, v) (mem_selectAll.mpr ⟨hlookup, by simpa using hp⟩)
  · rintro h ⟨k, v⟩ hmem
    obtain ⟨hlookup, hp⟩ := mem_selectAll.mp hmem
    rw [h k v hlookup] at hp
    cases hp

/-- The columns of each row that a query is about. -/
def project {μ : Type} (m : HashMap κ ν) (f : ν → μ) : HashMap κ μ where
  entries := m.entries.map fun e => ⟨e.1, f e.2⟩
  nodupKeys := by
    have hkeys : (m.entries.map fun e => (⟨e.1, f e.2⟩ : (_ : κ) × μ)).keys = m.entries.keys := by
      simp [List.keys]
    rw [List.NodupKeys, hkeys]
    exact m.nodupKeys

theorem lookup_project {μ : Type} (m : HashMap κ ν) (f : ν → μ) (k : κ) :
    (m.project f).lookup k = (m.lookup k).map f := by
  refine Option.ext fun v => ?_
  rw [Option.map_eq_some_iff, ← Option.mem_def, AList.mem_lookup_iff]
  constructor
  · intro hmem
    obtain ⟨⟨key, value⟩, hentry, heq⟩ := List.mem_map.mp hmem
    cases heq
    exact ⟨value, AList.mem_lookup_iff.mpr hentry, rfl⟩
  · rintro ⟨value, hlookup, rfl⟩
    exact List.mem_map.mpr ⟨⟨k, value⟩, AList.mem_lookup_iff.mp hlookup, rfl⟩

/-! ## Several rows in order -/

variable {β : Type} [LE β] [DecidableLE β]

/-- `SELECT … WHERE p ORDER BY column ASC`. -/
def selectOrdered (m : HashMap κ ν) (p : κ → ν → Bool) (column : ν → β) : List (κ × ν) :=
  (m.selectAll p).insertionSort fun a b => column a.2 ≤ column b.2

theorem mem_selectOrdered {m : HashMap κ ν} {p : κ → ν → Bool} {column : ν → β} {k : κ} {v : ν} :
    (k, v) ∈ m.selectOrdered p column ↔ m.lookup k = some v ∧ p k v = true := by
  rw [selectOrdered, List.mem_insertionSort, mem_selectAll]

end Coderd.Foundation.HashMap
