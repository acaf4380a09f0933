import Coderd.Foundation.HashMap

namespace Coderd.Foundation

/-! ## Tables by key -/

namespace HashMap

variable {κ ν : Type} [DecidableEq κ]

/-- `UPDATE … SET … WHERE id = k`. -/
def modify (m : HashMap κ ν) (k : κ) (f : ν → ν) : HashMap κ ν :=
  match m.lookup k with
  | none => m
  | some v => m.insert k (f v)

theorem lookup_modify (m : HashMap κ ν) (k k' : κ) (f : ν → ν) :
    (m.modify k f).lookup k' = if k' = k then (m.lookup k').map f else m.lookup k' := by
  unfold modify
  cases hlookup : m.lookup k with
  | none =>
    show m.lookup k' = _
    split
    · rename_i hkey
      rw [hkey, hlookup]
      rfl
    · rfl
  | some v =>
    simp only [lookup_insert_ite]
    split
    · rename_i hkey
      rw [hkey, hlookup]
      rfl
    · rfl

/-- A column that the update leaves as it is. -/
theorem map_lookup_modify {β : Type} {column : ν → β} {f : ν → ν} (m : HashMap κ ν) (k k' : κ)
    (h : ∀ v, column (f v) = column v) :
    ((m.modify k f).lookup k').map column = (m.lookup k').map column := by
  rw [lookup_modify]
  split
  · rw [Option.map_map]
    congr 1
    exact funext h
  · rfl

/-- Every row that is not what it was is an own one, as it was and as it is. -/
def ChangesOnly (own : κ → ν → Prop) (m m' : HashMap κ ν) : Prop :=
  ∀ k, m'.lookup k ≠ m.lookup k →
    (∀ v, m.lookup k = some v → own k v) ∧ ∀ v, m'.lookup k = some v → own k v

namespace ChangesOnly

variable {own : κ → ν → Prop} {m m' m'' : HashMap κ ν} {k : κ} {v : ν} {f : ν → ν}

theorem refl (own : κ → ν → Prop) (m : HashMap κ ν) : ChangesOnly own m m :=
  fun _ h => absurd rfl h

theorem trans (h : ChangesOnly own m m') (h' : ChangesOnly own m' m'') :
    ChangesOnly own m m'' := by
  intro k hne
  by_cases hfirst : m'.lookup k = m.lookup k
  · have hown := h' k (hfirst ▸ hne)
    rwa [hfirst] at hown
  · refine ⟨(h k hfirst).1, ?_⟩
    by_cases hsecond : m''.lookup k = m'.lookup k
    · rw [hsecond]
      exact (h k hfirst).2
    · exact (h' k hsecond).2

theorem insert (hold : ∀ v', m.lookup k = some v' → own k v') (hnew : own k v) :
    ChangesOnly own m (m.insert k v) := by
  intro k' hne
  rw [lookup_insert_ite] at hne ⊢
  split at hne
  · rename_i hkey
    rw [if_pos hkey, hkey]
    refine ⟨hold, fun v' hv' => ?_⟩
    cases hv'
    exact hnew
  · exact absurd rfl hne

/-- An update of an own row that stays one, or of a row that is already what it should be. -/
theorem modify (h : ∀ v, m.lookup k = some v → (own k v ∧ own k (f v)) ∨ f v = v) :
    ChangesOnly own m (m.modify k f) := by
  intro k' hne
  rw [lookup_modify] at hne ⊢
  split at hne
  · rename_i hkey
    subst hkey
    cases hlookup : m.lookup k' with
    | none => simp [hlookup] at hne
    | some v =>
      obtain ⟨hold, hnew⟩ | hsame := h v hlookup
      · simp [hold, hnew]
      · simp [hlookup, hsame] at hne
  · exact absurd rfl hne

end ChangesOnly

end HashMap

/-! ## Tables that rows are added to -/

/-- Every row that is added is an own one. -/
def AppendsOnly {α : Type} (own : α → Prop) (rows rows' : List α) : Prop :=
  ∃ new, rows' = rows ++ new ∧ ∀ row ∈ new, own row

namespace AppendsOnly

variable {α : Type} {own : α → Prop} {rows : List α}

theorem refl (own : α → Prop) (rows : List α) : AppendsOnly own rows rows := ⟨[], by simp⟩

theorem append_iff {new : List α} : AppendsOnly own rows (rows ++ new) ↔ ∀ row ∈ new, own row := by
  constructor
  · rintro ⟨new', heq, hown⟩
    rwa [List.append_cancel_left heq]
  · intro hown
    exact ⟨new, rfl, hown⟩

/-- All rows of a table that was empty are own ones. -/
theorem of_nil (h : AppendsOnly own [] rows) : ∀ row ∈ rows, own row := by
  obtain ⟨new, rfl, hown⟩ := h
  exact hown

end AppendsOnly

end Coderd.Foundation
