import Mathlib.Data.List.DropRight
import Mathlib.Data.List.TakeWhile

namespace Coderd.Foundation

/-! ## Trimming

What is trimmed is what a predicate holds of, at both ends of a list. -/

section Trim

variable {α : Type} (p : α → Bool)

def trimBy (l : List α) : List α := (l.dropWhile p).rdropWhile p

/-- Neither end is to be trimmed. -/
def Trimmed (l : List α) : Prop := (∀ a ∈ l.head?, p a = false) ∧ ∀ a ∈ l.getLast?, p a = false

variable {p} {l t u v : List α}

theorem dropWhile_append_of_trimmed (ht : Trimmed p t) (hne : t ≠ []) :
    (t ++ v).dropWhile p = t ++ v := by
  cases t with
  | nil => exact absurd rfl hne
  | cons a t =>
    have ha : p a = false := ht.1 a rfl
    rw [List.cons_append, List.dropWhile_cons_of_neg (by simp [ha])]

theorem rdropWhile_eq_of_trimmed (ht : Trimmed p t) : t.rdropWhile p = t := by
  refine List.rdropWhile_eq_self_iff.mpr fun hne => ?_
  rw [ht.2 _ (List.getLast?_eq_some_getLast hne)]
  exact Bool.false_ne_true

theorem rdropWhile_append_of_all (hv : ∀ a ∈ v, p a = true) :
    (t ++ v).rdropWhile p = t.rdropWhile p := by
  have hreverse : ∀ a ∈ v.reverse, p a = true := fun a ha => hv a (List.mem_reverse.mp ha)
  rw [List.rdropWhile, List.rdropWhile, List.reverse_append,
    List.dropWhile_append_of_pos hreverse]

/-- Whatever the ends are that are trimmed off, what is left is determined. -/
theorem trimBy_eq (hu : ∀ a ∈ u, p a = true) (ht : Trimmed p t) (hv : ∀ a ∈ v, p a = true) :
    trimBy p (u ++ t ++ v) = t := by
  rw [trimBy, List.append_assoc, List.dropWhile_append_of_pos hu]
  by_cases hne : t = []
  · subst hne
    rw [List.nil_append, List.dropWhile_eq_nil_iff.mpr hv, List.rdropWhile_nil]
  · rw [dropWhile_append_of_trimmed ht hne, rdropWhile_append_of_all hv,
      rdropWhile_eq_of_trimmed ht]

theorem trimBy_of_trimmed (ht : Trimmed p t) : trimBy p t = t := by
  have h := trimBy_eq (u := []) (v := []) (by simp) ht (by simp)
  rwa [List.nil_append, List.append_nil] at h

theorem trimmed_trimBy (l : List α) : Trimmed p (trimBy p l) := by
  constructor
  · intro a ha
    have hinit : trimBy p l <+: l.dropWhile p := List.rdropWhile_prefix p _
    have hhead : (l.dropWhile p).head? = some a := by
      obtain ⟨rest, hrest⟩ := hinit
      rw [← hrest, List.head?_append_of_ne_nil]
      · exact ha
      · rintro hnil
        rw [hnil] at ha
        cases ha
    have := List.head?_dropWhile_not p l
    rw [hhead] at this
    simpa using this
  · intro a ha
    obtain ⟨hne, rfl⟩ := List.mem_getLast?_eq_getLast ha
    exact Bool.eq_false_iff.mpr (List.rdropWhile_last_not p _ hne)

/-- The ends that are trimmed off. -/
theorem exists_eq_trimBy (p : α → Bool) (l : List α) :
    ∃ u v, l = u ++ trimBy p l ++ v ∧ (∀ a ∈ u, p a = true) ∧ ∀ a ∈ v, p a = true := by
  refine ⟨l.takeWhile p, (l.dropWhile p).rtakeWhile p, ?_, fun a ha => List.mem_takeWhile_imp ha,
    fun a ha => List.mem_rtakeWhile_imp ha⟩
  rw [trimBy, List.append_assoc, List.rdropWhile_append_rtakeWhile, List.takeWhile_append_dropWhile]

theorem trimBy_cons_of_pos {a : α} (ha : p a = true) (l : List α) :
    trimBy p (a :: l) = trimBy p l := by
  rw [trimBy, List.dropWhile_cons_of_pos ha, trimBy]

/-- Nothing but one part is trimmed off where the list begins with what is kept. -/
theorem trimBy_prefix_of_head (h : ∀ a ∈ l.head?, p a = false) : trimBy p l <+: l := by
  have hdrop : l.dropWhile p = l := by
    cases l with
    | nil => rfl
    | cons a l => exact List.dropWhile_cons_of_neg (by simp [h a rfl])
  rw [trimBy, hdrop]
  exact List.rdropWhile_prefix p l

/-- A beginning that has nothing to trim stays. -/
theorem prefix_trimBy {b : List α} (hb : ∀ a ∈ b, p a = false) (hinit : b <+: l) :
    b <+: trimBy p l := by
  obtain ⟨rest, rfl⟩ := hinit
  by_cases hne : b = []
  · rw [hne]
    exact List.nil_prefix
  have htrimmed : Trimmed p (b ++ rest.rdropWhile p) := by
    constructor
    · intro a ha
      rw [List.head?_append_of_ne_nil b hne] at ha
      exact hb a (List.mem_of_mem_head? ha)
    · intro a ha
      rw [List.getLast?_append] at ha
      obtain hrest | ⟨-, hlast⟩ := Option.or_eq_some_iff.mp ha
      · obtain ⟨hrestNe, rfl⟩ := List.mem_getLast?_eq_getLast hrest
        exact Bool.eq_false_iff.mpr (List.rdropWhile_last_not p _ hrestNe)
      · exact hb a (List.mem_of_mem_getLast? hlast)
  have htrim := trimBy_eq (u := []) (v := rest.rtakeWhile p) (by simp) htrimmed
    fun a ha => List.mem_rtakeWhile_imp ha
  rw [List.nil_append, List.append_assoc, List.rdropWhile_append_rtakeWhile] at htrim
  rw [htrim]
  exact List.prefix_append _ _

/-- What is left after trimming is left of the images too. -/
theorem trimBy_map {β : Type} {f : β → α} (l : List β) :
    trimBy p (l.map f) = (trimBy (p ∘ f) l).map f := by
  rw [trimBy, trimBy, List.rdropWhile, List.rdropWhile, List.dropWhile_map, ← List.map_reverse,
    List.dropWhile_map, List.map_reverse]

end Trim

end Coderd.Foundation
