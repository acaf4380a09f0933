import Coderd.Foundation.HashMap

namespace Coderd.Foundation

/-- A table whose rows are not changed once they are there, and whose keys are not used again.
`issued` has every row there has been, so that one can speak of a row that is deleted. -/
structure Register (κ ν : Type) [DecidableEq κ] where
  rows : HashMap κ ν
  issued : HashMap κ ν
  rows_issued : ∀ k v, rows.lookup k = some v → issued.lookup k = some v

namespace Register

variable {κ ν β : Type} [DecidableEq κ]

def empty : Register κ ν where
  rows := ∅
  issued := ∅
  rows_issued := by simp

/-- A new row, if the key is one that no row has had. -/
def insert? (r : Register κ ν) (k : κ) (v : ν) : Option (Register κ ν) :=
  if (r.issued.lookup k).isSome then none
  else
    some {
      rows := r.rows.insert k v
      issued := r.issued.insert k v
      rows_issued := by
        intro k' v' h
        rw [HashMap.lookup_insert_ite] at h ⊢
        by_cases hk : k' = k
        · rw [if_pos hk] at h ⊢
          exact h
        · rw [if_neg hk] at h ⊢
          exact r.rows_issued k' v' h }

def erase (r : Register κ ν) (k : κ) : Register κ ν where
  rows := r.rows.erase k
  issued := r.issued
  rows_issued := by
    intro k' v' h
    rw [HashMap.lookup_erase_ite] at h
    by_cases hk : k' = k
    · rw [if_pos hk] at h
      cases h
    · rw [if_neg hk] at h
      exact r.rows_issued k' v' h

def retain (r : Register κ ν) (keep : κ → ν → Bool) : Register κ ν where
  rows := r.rows.retain keep
  issued := r.issued
  rows_issued := by
    intro k v h
    rw [HashMap.lookup_retain, Option.filter_eq_some_iff] at h
    exact r.rows_issued k v h.1

@[simp] theorem rows_empty : (empty : Register κ ν).rows = ∅ := rfl

@[simp] theorem issued_empty : (empty : Register κ ν).issued = ∅ := rfl

@[simp] theorem issued_erase (r : Register κ ν) (k : κ) : (r.erase k).issued = r.issued := rfl

@[simp] theorem issued_retain (r : Register κ ν) (keep : κ → ν → Bool) :
    (r.retain keep).issued = r.issued := rfl

variable {r r' r'' : Register κ ν} {k k' : κ} {v v' : ν}

theorem lookup_erase_iff :
    (r.erase k).rows.lookup k' = some v' ↔ k' ≠ k ∧ r.rows.lookup k' = some v' := by
  rw [erase, HashMap.lookup_erase_ite]
  by_cases hk : k' = k <;> simp [hk]

theorem lookup_retain_iff {keep : κ → ν → Bool} :
    (r.retain keep).rows.lookup k' = some v' ↔
      r.rows.lookup k' = some v' ∧ keep k' v' = true := by
  rw [retain, HashMap.lookup_retain, Option.filter_eq_some_iff]

/-- All that an insert does. -/
structure Inserted (r : Register κ ν) (k : κ) (v : ν) (r' : Register κ ν) : Prop where
  fresh : r.issued.lookup k = none
  rows : ∀ k', r'.rows.lookup k' = if k' = k then some v else r.rows.lookup k'
  issued : ∀ k', r'.issued.lookup k' = if k' = k then some v else r.issued.lookup k'

theorem inserted_of_insert? (h : r.insert? k v = some r') : r.Inserted k v r' := by
  unfold insert? at h
  split at h
  · cases h
  · rename_i hfresh
    cases h
    refine ⟨by simpa using hfresh, fun k' => ?_, fun k' => ?_⟩
    · exact HashMap.lookup_insert_ite r.rows k k' v
    · exact HashMap.lookup_insert_ite r.issued k k' v

namespace Inserted

theorem issued_self (h : r.Inserted k v r') : r'.issued.lookup k = some v := by
  rw [h.issued, if_pos rfl]

theorem rows_self (h : r.Inserted k v r') : r'.rows.lookup k = some v := by
  rw [h.rows, if_pos rfl]

theorem rows_of_rows (h : r.Inserted k v r') (hrow : r.rows.lookup k' = some v') :
    r'.rows.lookup k' = some v' := by
  have hne : k' ≠ k := by
    rintro rfl
    have hfresh := h.fresh
    rw [r.rows_issued k' v' hrow] at hfresh
    cases hfresh
  rw [h.rows, if_neg hne]
  exact hrow

theorem rows_cases (h : r.Inserted k v r') (hrow : r'.rows.lookup k' = some v') :
    (k' = k ∧ v' = v) ∨ r.rows.lookup k' = some v' := by
  rw [h.rows] at hrow
  split at hrow
  · rename_i hk
    cases hrow
    exact .inl ⟨hk, rfl⟩
  · exact .inr hrow

theorem issued_cases (h : r.Inserted k v r') (hissued : r'.issued.lookup k' = some v') :
    (k' = k ∧ v' = v) ∨ r.issued.lookup k' = some v' := by
  rw [h.issued] at hissued
  split at hissued
  · rename_i hk
    cases hissued
    exact .inl ⟨hk, rfl⟩
  · exact .inr hissued

theorem ne_of_issued (h : r.Inserted k v r') (hissued : r.issued.lookup k' = some v') : k' ≠ k := by
  rintro rfl
  rw [h.fresh] at hissued
  cases hissued

end Inserted

/-! ## What a register goes through -/

/-- Rows that have been issued stay so, and those that are gone do not come back. -/
structure Later (r r' : Register κ ν) : Prop where
  issued : ∀ k v, r.issued.lookup k = some v → r'.issued.lookup k = some v
  gone : ∀ k v, r.issued.lookup k = some v → r.rows.lookup k = none → r'.rows.lookup k = none

theorem Later.refl (r : Register κ ν) : r.Later r := ⟨fun _ _ h => h, fun _ _ _ h => h⟩

theorem Later.trans (h : r.Later r') (h' : r'.Later r'') : r.Later r'' where
  issued k v hissued := h'.issued k v (h.issued k v hissued)
  gone k v hissued hnone := h'.gone k v (h.issued k v hissued) (h.gone k v hissued hnone)

theorem Inserted.later (h : r.Inserted k v r') : r.Later r' where
  issued k' v' hissued := by
    rw [h.issued, if_neg (h.ne_of_issued hissued)]
    exact hissued
  gone k' v' hissued hnone := by
    rw [h.rows, if_neg (h.ne_of_issued hissued)]
    exact hnone

theorem later_erase (r : Register κ ν) (k : κ) : r.Later (r.erase k) where
  issued _ _ h := h
  gone k' v' _ hnone := by
    rw [erase, HashMap.lookup_erase_ite, hnone]
    simp

theorem later_retain (r : Register κ ν) (keep : κ → ν → Bool) : r.Later (r.retain keep) where
  issued _ _ h := h
  gone k v _ hnone := by
    rw [retain, HashMap.lookup_retain, hnone]
    rfl

/-- No two rows that have been issued have the same value in the column. -/
def Unique (r : Register κ ν) (column : ν → β) : Prop :=
  ∀ k k' v v', r.issued.lookup k = some v → r.issued.lookup k' = some v' → column v = column v' →
    k = k'

theorem Unique.empty (column : ν → β) : (empty : Register κ ν).Unique column := by
  intro k k' v v' h
  simp at h

theorem Unique.insert {column : ν → β} (h : r.Unique column) (hinsert : r.Inserted k v r')
    (hfresh : ∀ k' v', r.issued.lookup k' = some v' → column v' ≠ column v) :
    r'.Unique column := by
  intro a b va vb ha hb heq
  obtain ⟨rfl, rfl⟩ | ha := hinsert.issued_cases ha
  · obtain ⟨rfl, rfl⟩ | hb := hinsert.issued_cases hb
    · rfl
    · exact absurd heq.symm (hfresh b vb hb)
  · obtain ⟨rfl, rfl⟩ | hb := hinsert.issued_cases hb
    · exact absurd heq (hfresh a va ha)
    · exact h a b va vb ha hb heq

end Register

end Coderd.Foundation
