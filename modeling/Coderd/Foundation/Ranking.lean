import Mathlib.Data.List.MinMax
import Mathlib.Data.List.Induction
import Coderd.Foundation.HashMap

namespace Coderd.Foundation

variable {κ ν β : Type} [DecidableEq κ] [LinearOrder β] {rank : ν → β}

/-- Lists with the same members have the same best one if no two of them tie. -/
theorem argmax_congr {l l' : List ν} (hmem : ∀ a, a ∈ l ↔ a ∈ l')
    (hties : ∀ a ∈ l, ∀ b ∈ l, rank a = rank b → a = b) : l.argmax rank = l'.argmax rank := by
  rcases h : l.argmax rank with _ | a
  · have hnil : l' = [] := by
      apply List.eq_nil_iff_forall_not_mem.mpr
      intro a ha
      rw [List.argmax_eq_none.mp h] at hmem
      exact List.not_mem_nil ((hmem a).mpr ha)
    rw [hnil, List.argmax_nil]
  · have ha : a ∈ l := List.argmax_mem h
    rcases h' : l'.argmax rank with _ | b
    · rw [List.argmax_eq_none.mp h'] at hmem
      exact absurd ((hmem a).mp ha) List.not_mem_nil
    · have hb : b ∈ l := (hmem b).mpr (List.argmax_mem h')
      have hle : rank b ≤ rank a := List.le_of_mem_argmax hb h
      have hge : rank a ≤ rank b := List.le_of_mem_argmax ((hmem a).mp ha) h'
      rw [hties a ha b hb (le_antisymm hge hle)]

theorem argmax_toList (o : Option ν) : o.toList.argmax rank = o := by
  cases o <;> rfl

namespace HashMap

/-- Put `v` under `k` unless there is a value that ranks at least as high. -/
def insertBetter (rank : ν → β) (m : HashMap κ ν) (k : κ) (v : ν) : HashMap κ ν :=
  match m.lookup k with
  | none => m.insert k v
  | some old => if rank old < rank v then m.insert k v else m

theorem lookup_insertBetter (m : HashMap κ ν) (k k' : κ) (v : ν) :
    (m.insertBetter rank k v).lookup k' =
      if k' = k then (((m.lookup k).toList ++ [v]).argmax rank) else m.lookup k' := by
  rw [List.argmax_concat]
  unfold insertBetter
  rcases h : m.lookup k with _ | old
  · rw [lookup_insert_ite]
    rfl
  · dsimp only [Option.toList_some, List.argmax_singleton]
    split
    · exact lookup_insert_ite m k k' v
    · by_cases hk : k' = k
      · rw [if_pos hk, hk, h]
      · rw [if_neg hk]

/-- What is under `k` after a number of proposals is the best of them and what was there. -/
theorem lookup_foldl_insertBetter (m : HashMap κ ν) (proposals : List (κ × ν)) (k : κ) :
    (proposals.foldl (fun m p => m.insertBetter rank p.1 p.2) m).lookup k =
      ((m.lookup k).toList ++ (proposals.filter (fun p => p.1 = k)).map Prod.snd).argmax rank := by
  induction proposals using List.reverseRecOn with
  | nil =>
    rw [List.filter_nil, List.map_nil, List.append_nil, argmax_toList]
    rfl
  | append_singleton proposals p ih =>
    rw [List.foldl_append, List.foldl_cons, List.foldl_nil, lookup_insertBetter]
    by_cases hk : k = p.1
    · subst hk
      have hkeep : [p].filter (fun p' => decide (p'.1 = p.1)) = [p] := by simp
      rw [if_pos rfl, List.filter_append, hkeep, List.map_append, ih, ← List.append_assoc,
        List.map_cons, List.map_nil, List.argmax_concat, argmax_toList, List.argmax_concat]
    · rw [if_neg hk, ih, List.filter_append]
      have hskip : [p].filter (fun p => decide (p.1 = k)) = [] := by
        simp [Ne.symm hk]
      rw [hskip, List.append_nil]

end HashMap

end Coderd.Foundation
