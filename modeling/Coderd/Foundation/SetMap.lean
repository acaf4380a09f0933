import Mathlib.Data.List.Nodup
import Mathlib.Data.List.Dedup
import Coderd.Foundation.HashMap

namespace Coderd.Foundation

/-- A hash set as a duplicate-free list. The list order stands for the iteration order. -/
structure HashSet (α : Type) where
  toList : List α
  nodup : toList.Nodup

namespace HashSet

variable {α : Type}

instance : Membership α (HashSet α) := ⟨fun s a => a ∈ s.toList⟩

instance : EmptyCollection (HashSet α) := ⟨⟨[], List.nodup_nil⟩⟩

theorem mem_toList {s : HashSet α} {a : α} : a ∈ s.toList ↔ a ∈ s := Iff.rfl

@[simp] theorem mem_empty (a : α) : ¬ a ∈ (∅ : HashSet α) := List.not_mem_nil

variable [DecidableEq α]

instance (a : α) (s : HashSet α) : Decidable (a ∈ s) :=
  inferInstanceAs (Decidable (a ∈ s.toList))

def isEmpty (s : HashSet α) : Bool := s.toList.isEmpty

def insert (s : HashSet α) (a : α) : HashSet α where
  toList := s.toList.insert a
  nodup := s.nodup.insert

def remove (s : HashSet α) (a : α) : HashSet α where
  toList := s.toList.erase a
  nodup := s.nodup.erase a

def extend (s t : HashSet α) : HashSet α where
  toList := s.toList ∪ t.toList
  nodup := t.nodup.union _

def retain (s : HashSet α) (keep : α → Bool) : HashSet α where
  toList := s.toList.filter keep
  nodup := s.nodup.filter keep

@[simp] theorem mem_insert {s : HashSet α} {a b : α} : b ∈ s.insert a ↔ b = a ∨ b ∈ s :=
  List.mem_insert_iff

@[simp] theorem mem_remove {s : HashSet α} {a b : α} : b ∈ s.remove a ↔ b ≠ a ∧ b ∈ s :=
  s.nodup.mem_erase_iff

@[simp] theorem mem_extend {s t : HashSet α} {b : α} : b ∈ s.extend t ↔ b ∈ s ∨ b ∈ t :=
  List.mem_union_iff

omit [DecidableEq α] in
@[simp] theorem mem_retain {s : HashSet α} {keep : α → Bool} {b : α} :
    b ∈ s.retain keep ↔ b ∈ s ∧ keep b = true :=
  List.mem_filter

theorem mem_foldl_insert {s : HashSet α} {l : List α} {b : α} :
    b ∈ l.foldl insert s ↔ b ∈ s ∨ b ∈ l := by
  induction l generalizing s with
  | nil => simp
  | cons a l ih =>
    rw [List.foldl_cons, ih, mem_insert, List.mem_cons]
    tauto

omit [DecidableEq α] in
theorem not_mem_of_isEmpty {s : HashSet α} (h : s.isEmpty = true) (a : α) : ¬ a ∈ s := by
  intro ha
  rw [← mem_toList, List.isEmpty_iff.mp h] at ha
  exact List.not_mem_nil ha

end HashSet

/-- A map from keys to sets, of which no key needs to be there to have an empty set. -/
abbrev SetMap (κ α : Type) := HashMap κ (HashSet α)

namespace SetMap

variable {κ α : Type} [DecidableEq κ] [DecidableEq α]

def get (m : SetMap κ α) (k : κ) : HashSet α := (m.lookup k).getD ∅

/-- `entry(k).or_default().insert(a)`. -/
def add (m : SetMap κ α) (k : κ) (a : α) : SetMap κ α :=
  m.insert k ((m.get k).insert a)

/-- Take `a` out of the set at `k`, and the set out of the map if it becomes empty. -/
def discard (m : SetMap κ α) (k : κ) (a : α) : SetMap κ α :=
  match m.lookup k with
  | some s => if (s.remove a).isEmpty then m.erase k else m.insert k (s.remove a)
  | none => m

omit [DecidableEq α] in
@[simp] theorem mem_get_empty (k : κ) (a : α) : ¬ a ∈ get (∅ : SetMap κ α) k :=
  HashSet.mem_empty a

@[simp] theorem mem_get_add {m : SetMap κ α} {k k' : κ} {a b : α} :
    b ∈ (m.add k a).get k' ↔ b ∈ m.get k' ∨ (k' = k ∧ b = a) := by
  rw [get, add, HashMap.lookup_insert_ite]
  by_cases hk : k' = k
  · subst hk
    simp [or_comm]
  · simp [hk, get]

omit [DecidableEq α] in
@[simp] theorem mem_get_erase {m : SetMap κ α} {k k' : κ} {b : α} :
    b ∈ get (m.erase k) k' ↔ b ∈ m.get k' ∧ k' ≠ k := by
  rw [get, HashMap.lookup_erase_ite]
  by_cases hk : k' = k
  · simp [hk]
  · simp [hk, get]

@[simp] theorem mem_get_discard {m : SetMap κ α} {k k' : κ} {a b : α} :
    b ∈ (m.discard k a).get k' ↔ b ∈ m.get k' ∧ ¬ (k' = k ∧ b = a) := by
  unfold discard
  rcases hm : m.lookup k with _ | s
  · by_cases hk : k' = k
    · subst hk
      simp [get, hm]
    · simp [hk]
  · have hget : m.get k = s := by simp [get, hm]
    dsimp only
    split
    case isTrue hempty =>
      have hgone : ¬ b ∈ s.remove a := HashSet.not_mem_of_isEmpty hempty b
      rw [mem_get_erase]
      by_cases hk : k' = k
      · subst hk
        rw [HashSet.mem_remove] at hgone
        rw [hget]
        tauto
      · simp [hk]
    case isFalse =>
      rw [get, HashMap.lookup_insert_ite]
      by_cases hk : k' = k
      · subst hk
        simp [hget, and_comm]
      · simp [hk, get]

/-- Discard `a` at each of `ks` in turn. -/
theorem mem_get_foldl_discard {m : SetMap κ α} {ks : List κ} {a b : α} {k' : κ} :
    b ∈ (ks.foldl (fun m k => m.discard k a) m).get k' ↔ b ∈ m.get k' ∧ ¬ (k' ∈ ks ∧ b = a) := by
  induction ks generalizing m with
  | nil => simp
  | cons k ks ih =>
    rw [List.foldl_cons, ih, mem_get_discard, List.mem_cons]
    tauto

/-! ## Maps without empty sets -/

/-- Whatever is in the map has a member. -/
def NoEmpty (m : SetMap κ α) : Prop := ∀ k s, m.lookup k = some s → s.isEmpty = false

namespace NoEmpty

variable {m : SetMap κ α}

omit [DecidableEq α] in
theorem empty : NoEmpty (∅ : SetMap κ α) := fun _ _ h => by cases h

omit [DecidableEq α] in
theorem erase (h : NoEmpty m) (k : κ) : NoEmpty (m.erase k) := by
  intro k' s hs
  rw [HashMap.lookup_erase_ite] at hs
  split at hs
  · cases hs
  · exact h k' s hs

omit [DecidableEq α] in
theorem insert (h : NoEmpty m) (k : κ) {s : HashSet α} (hs : s.isEmpty = false) :
    NoEmpty (m.insert k s) := by
  intro k' s' hs'
  rw [HashMap.lookup_insert_ite] at hs'
  split at hs'
  · cases hs'
    exact hs
  · exact h k' s' hs'

theorem add (h : NoEmpty m) (k : κ) (a : α) : NoEmpty (m.add k a) := by
  refine h.insert k ?_
  have hmem : a ∈ (m.get k).insert a := HashSet.mem_insert.mpr (.inl rfl)
  cases hempty : ((m.get k).insert a).isEmpty with
  | false => rfl
  | true => exact absurd hmem (HashSet.not_mem_of_isEmpty hempty a)

theorem discard (h : NoEmpty m) (k : κ) (a : α) : NoEmpty (m.discard k a) := by
  unfold SetMap.discard
  split
  · split
    · exact h.erase k
    · rename_i hmember
      exact h.insert k (by simpa using hmember)
  · exact h

theorem foldl_discard (h : NoEmpty m) (ks : List κ) (a : α) :
    NoEmpty (ks.foldl (fun m k => m.discard k a) m) := by
  induction ks generalizing m with
  | nil => exact h
  | cons k ks ih => exact ih (h.discard k a)

end NoEmpty

end SetMap

end Coderd.Foundation
