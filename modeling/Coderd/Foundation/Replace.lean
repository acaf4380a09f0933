import Coderd.Foundation.Texts

namespace Coderd.Foundation

/-! ## Replacing a pattern

`str::replace`: the occurrences from the left that do not overlap. -/

section Replace

variable {α : Type} [DecidableEq α]

/-- The pattern is not empty; `skip` letters of an occurrence are still to pass. -/
def replaceAux (pattern value : List α) : ℕ → List α → List α
  | _, [] => []
  | skip + 1, _ :: l => replaceAux pattern value skip l
  | 0, a :: l =>
    if pattern.isPrefixOf (a :: l) then value ++ replaceAux pattern value (pattern.length - 1) l
    else a :: replaceAux pattern value 0 l

def replaceAll (pattern value l : List α) : List α := replaceAux pattern value 0 l

variable {pattern value l u v : List α} {b : α}

@[simp] theorem replaceAll_nil : replaceAll pattern value [] = [] := rfl

theorem replaceAll_cons_of_not_start {a : α} (h : ¬ pattern <+: a :: l) :
    replaceAll pattern value (a :: l) = a :: replaceAll pattern value l := by
  rw [replaceAll, replaceAux, if_neg fun hinit => h (List.isPrefixOf_iff_prefix.mp hinit)]
  rfl

theorem replaceAll_of_free (h : ¬ pattern <:+: l) : replaceAll pattern value l = l := by
  induction l with
  | nil => rfl
  | cons a l ih =>
    rw [replaceAll_cons_of_not_start fun hinit => h hinit.isInfix,
      ih fun hocc => h (hocc.trans (List.suffix_cons a l).isInfix)]

/-- What remains of an occurrence is passed. -/
theorem replaceAux_length (u l : List α) :
    replaceAux pattern value u.length (u ++ l) = replaceAll pattern value l := by
  induction u with
  | nil => rfl
  | cons a u ih => exact ih

theorem replaceAll_append_pattern (hne : pattern ≠ []) :
    replaceAll pattern value (pattern ++ l) = value ++ replaceAll pattern value l := by
  obtain ⟨a, rest, rfl⟩ := List.exists_cons_of_ne_nil hne
  rw [List.cons_append, replaceAll, replaceAux, if_pos, List.length_cons, Nat.add_sub_cancel,
    replaceAux_length]
  exact List.isPrefixOf_iff_prefix.mpr (List.prefix_append (a :: rest) l)

theorem replaceAll_pattern (hne : pattern ≠ []) : replaceAll pattern value pattern = value := by
  have h : replaceAll pattern value (pattern ++ []) = value ++ replaceAll pattern value [] :=
    replaceAll_append_pattern hne
  rwa [List.append_nil, replaceAll_nil, List.append_nil] at h

/-- A list is empty, or begins with the pattern, or with a letter that stays. -/
theorem replaceAll_induction {motive : List α → Prop} (hne : pattern ≠ []) (nil : motive [])
    (occurrence : ∀ l, motive l → motive (pattern ++ l))
    (letter : ∀ a l, ¬ pattern <+: a :: l → motive l → motive (a :: l)) (l : List α) :
    motive l := by
  induction hn : l.length using Nat.strong_induction_on generalizing l with
  | _ n ih =>
    cases l with
    | nil => exact nil
    | cons a l =>
      by_cases h : pattern <+: a :: l
      · obtain ⟨rest, hrest⟩ := h
        rw [← hrest]
        refine occurrence rest (ih rest.length ?_ rest rfl)
        have hlength := congrArg List.length hrest
        rw [List.length_append, hn] at hlength
        have hpos := List.length_pos_of_ne_nil hne
        omega
      · refine letter a l h (ih l.length ?_ l rfl)
        rw [← hn, List.length_cons]
        exact Nat.lt_succ_self _

theorem mem_replaceAll {a : α} (hne : pattern ≠ []) (h : a ∈ replaceAll pattern value l) :
    a ∈ value ∨ a ∈ l := by
  induction l using replaceAll_induction hne with
  | nil => cases h
  | occurrence l ih =>
    rw [replaceAll_append_pattern hne, List.mem_append] at h
    obtain h | h := h
    · exact .inl h
    · exact (ih h).imp_right (List.mem_append_right pattern)
  | letter c l hinit ih =>
    rw [replaceAll_cons_of_not_start hinit, List.mem_cons] at h
    obtain rfl | h := h
    · exact .inr List.mem_cons_self
    · exact (ih h).imp_right (List.mem_cons_of_mem c)

/-! ### Letters that the pattern does not have -/

section Barrier

variable (hne : pattern ≠ []) (hb : b ∉ pattern)

include hne hb

/-- No occurrence goes across such a letter. -/
theorem replaceAll_append_barrier (u v : List α) :
    replaceAll pattern value (u ++ b :: v) =
      replaceAll pattern value u ++ b :: replaceAll pattern value v := by
  induction u using replaceAll_induction hne with
  | nil =>
    refine replaceAll_cons_of_not_start fun h => ?_
    have hnil : pattern <+: [] := prefix_of_prefix_barrier (l := []) hb h
    exact hne (List.prefix_nil.mp hnil)
  | occurrence u ih =>
    rw [List.append_assoc, replaceAll_append_pattern hne, replaceAll_append_pattern hne, ih,
      List.append_assoc]
  | letter a u hinit ih =>
    have hlonger : ¬ pattern <+: a :: (u ++ b :: v) := fun h =>
      hinit (prefix_of_prefix_barrier (l := a :: u) hb h)
    rw [List.cons_append, replaceAll_cons_of_not_start hlonger,
      replaceAll_cons_of_not_start hinit, ih, List.cons_append]

theorem replaceAll_append_of_getLast? (h : u.getLast? = some b) (v : List α) :
    replaceAll pattern value (u ++ v) =
      replaceAll pattern value u ++ replaceAll pattern value v := by
  obtain ⟨w, rfl⟩ := List.getLast?_eq_some_iff.mp h
  have hone : replaceAll pattern value (w ++ [b]) =
      replaceAll pattern value w ++ b :: replaceAll pattern value [] :=
    replaceAll_append_barrier hne hb w []
  rw [List.append_assoc, List.singleton_append, replaceAll_append_barrier hne hb, hone,
    replaceAll_nil, List.append_assoc, List.singleton_append]

theorem replaceAll_append_of_head? (h : v.head? = some b) (u : List α) :
    replaceAll pattern value (u ++ v) =
      replaceAll pattern value u ++ replaceAll pattern value v := by
  obtain ⟨w, rfl⟩ := List.head?_eq_some_iff.mp h
  have hone : replaceAll pattern value (b :: w) = b :: replaceAll pattern value w :=
    replaceAll_append_barrier hne hb [] w
  rw [replaceAll_append_barrier hne hb, hone]

end Barrier

/-! ### Texts with holes

Each hole is followed by a fixed text. -/

section Holes

variable {ι : Type}

def fillHoles (content : ι → List α) (rest : List (ι × List α)) : List α :=
  rest.flatMap fun piece => content piece.1 ++ piece.2

/-- No occurrence of the pattern is in the text or reaches over its ends. -/
structure Sealed (pattern text : List α) : Prop where
  head : ∃ b, text.head? = some b ∧ b ∉ pattern
  last : ∃ b, text.getLast? = some b ∧ b ∉ pattern
  free : ¬ pattern <:+: text

/-- What is replaced is replaced within the holes. -/
theorem replaceAll_fillHoles (hne : pattern ≠ []) (content : ι → List α)
    {rest : List (ι × List α)} (h : ∀ piece ∈ rest, Sealed pattern piece.2) :
    replaceAll pattern value (fillHoles content rest) =
      fillHoles (fun i => replaceAll pattern value (content i)) rest := by
  induction rest with
  | nil => rfl
  | cons piece rest ih =>
    obtain ⟨hpiece, hrest⟩ := List.forall_mem_cons.mp h
    obtain ⟨first, hhead, hfirst⟩ := hpiece.head
    obtain ⟨last, hgetLast, hlast⟩ := hpiece.last
    have hsplit : fillHoles content (piece :: rest) =
        content piece.1 ++ (piece.2 ++ fillHoles content rest) := by
      rw [fillHoles, List.flatMap_cons, List.append_assoc, ← fillHoles]
    have hstart : (piece.2 ++ fillHoles content rest).head? = some first := by
      rw [List.head?_append, hhead, Option.some_or]
    rw [hsplit, replaceAll_append_of_head? hne hfirst hstart,
      replaceAll_append_of_getLast? hne hlast hgetLast, replaceAll_of_free hpiece.free,
      ih hrest, fillHoles, fillHoles, List.flatMap_cons, List.append_assoc]

/-- What follows tells where the one content and the other end. -/
def EndsAt (text u v : List α) : Prop :=
  ∀ rest rest', u ++ text ++ rest = v ++ text ++ rest' → u = v

omit [DecidableEq α] in
theorem eq_of_fillHoles_eq {content content' : ι → List α} {rest : List (ι × List α)}
    (hends : ∀ piece ∈ rest, EndsAt piece.2 (content piece.1) (content' piece.1))
    (h : fillHoles content rest = fillHoles content' rest) :
    ∀ piece ∈ rest, content piece.1 = content' piece.1 := by
  induction rest with
  | nil => simp
  | cons piece rest ih =>
    obtain ⟨hpiece, hrest⟩ := List.forall_mem_cons.mp hends
    rw [fillHoles, fillHoles, List.flatMap_cons, List.flatMap_cons] at h
    have heq := hpiece _ _ h
    rw [heq] at h
    exact List.forall_mem_cons.mpr ⟨heq, ih hrest (List.append_cancel_left h)⟩

/-- A letter that neither content has ends both. -/
theorem endsAt_of_head? (hu : b ∉ u) (hv : b ∉ v) (h : l.head? = some b) : EndsAt l u v := by
  obtain ⟨tail, rfl⟩ := List.head?_eq_some_iff.mp h
  intro rest rest' heq
  simp only [List.append_assoc, List.cons_append] at heq
  have htake : ∀ w rest, b ∉ w → (w ++ b :: rest).takeWhile (· ≠ b) = w := by
    intro w rest hw
    have hkept : ∀ a ∈ w, decide (a ≠ b) = true := fun a ha =>
      decide_eq_true fun heq => hw (heq ▸ ha)
    rw [List.takeWhile_append_of_pos hkept, List.takeWhile_cons_of_neg (by simp), List.append_nil]
  have hboth := congrArg (List.takeWhile (· ≠ b)) heq
  rwa [htake u _ hu, htake v _ hv] at hboth

end Holes

end Replace

end Coderd.Foundation
