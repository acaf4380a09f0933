import Mathlib.Data.List.Chain
import Coderd.Foundation.Trim

namespace Coderd.Foundation

/-! ## Letters with single separators between them -/

section Separated

variable {α : Type} (letter sep : α → Bool)

/-- Two separators do not follow each other. -/
def Apart (a b : α) : Prop := ¬ (sep a = true ∧ sep b = true)

/-- Letters and separators, with a letter at each end and no two separators in a row. -/
structure Separated (l : List α) : Prop where
  ne_nil : l ≠ []
  chars : ∀ a ∈ l, sep a = true ∨ letter a = true
  apart : l.IsChain (Apart sep)
  head : ∀ a ∈ l.head?, sep a = false
  last : ∀ a ∈ l.getLast?, sep a = false

structure IsWord (w : List α) : Prop where
  ne_nil : w ≠ []
  letters : ∀ a ∈ w, letter a = true

variable {letter sep} {l w : List α} {s : α}

theorem Separated.trimmed (h : Separated letter sep l) : Trimmed sep l := ⟨h.head, h.last⟩

theorem Separated.map_iff {β : Type} {f : β → α} {l : List β} :
    Separated letter sep (l.map f) ↔ Separated (letter ∘ f) (sep ∘ f) l := by
  constructor
  · intro h
    refine ⟨fun hnil => h.ne_nil (by rw [hnil, List.map_nil]),
      fun b hb => h.chars (f b) (List.mem_map_of_mem hb), (List.isChain_map f).mp h.apart,
      fun b hb => h.head (f b) ?_, fun b hb => h.last (f b) ?_⟩
    · rw [List.head?_map]
      exact Option.mem_map_of_mem f hb
    · rw [List.getLast?_map]
      exact Option.mem_map_of_mem f hb
  · intro h
    refine ⟨fun hnil => h.ne_nil (List.map_eq_nil_iff.mp hnil), ?_,
      (List.isChain_map f).mpr h.apart, ?_, ?_⟩
    · intro a ha
      obtain ⟨b, hb, rfl⟩ := List.mem_map.mp ha
      exact h.chars b hb
    · intro a ha
      rw [List.head?_map] at ha
      obtain ⟨b, hb, rfl⟩ := Option.map_eq_some_iff.mp ha
      exact h.head b hb
    · intro a ha
      rw [List.getLast?_map] at ha
      obtain ⟨b, hb, rfl⟩ := Option.map_eq_some_iff.mp ha
      exact h.last b hb

theorem Separated.congr {letter' sep' : α → Bool} (hletter : ∀ a ∈ l, letter a = letter' a)
    (hsep : ∀ a ∈ l, sep a = sep' a) (h : Separated letter sep l) : Separated letter' sep' l where
  ne_nil := h.ne_nil
  chars a ha := by rw [← hletter a ha, ← hsep a ha]; exact h.chars a ha
  apart := by
    refine h.apart.imp_of_mem_imp fun a b ha hb hapart => ?_
    rwa [Apart, ← hsep a ha, ← hsep b hb]
  head a ha := by rw [← hsep a (List.mem_of_mem_head? ha)]; exact h.head a ha
  last a ha := by rw [← hsep a (List.mem_of_mem_getLast? ha)]; exact h.last a ha

/-! ### Word by word -/

section Words

variable (hdisjoint : ∀ a, letter a = true → sep a = false)

include hdisjoint

theorem IsWord.separated (h : IsWord letter w) : Separated letter sep w where
  ne_nil := h.ne_nil
  chars a ha := .inr (h.letters a ha)
  apart := by
    refine List.isChain_iff_forall_rel_of_append_cons_cons.mpr ?_
    rintro a b u v rfl ⟨ha, -⟩
    have hletter := h.letters a (by simp)
    rw [hdisjoint a hletter] at ha
    cases ha
  head a ha := hdisjoint a (h.letters a (List.mem_of_mem_head? ha))
  last a ha := hdisjoint a (h.letters a (List.mem_of_mem_getLast? ha))

theorem Separated.join (hw : IsWord letter w) (hs : sep s = true) (h : Separated letter sep l) :
    Separated letter sep (w ++ s :: l) := by
  have hword := hw.separated hdisjoint
  refine ⟨by simp, ?_, ?_, ?_, ?_⟩
  · intro a ha
    obtain hmem | rfl | hmem := by simpa using ha
    · exact hword.chars a hmem
    · exact .inl hs
    · exact h.chars a hmem
  · refine hword.apart.append (h.apart.cons fun a ha => ?_) ?_
    · rintro ⟨-, hsep⟩
      rw [h.head a ha] at hsep
      cases hsep
    · rintro a ha b - ⟨hsep, -⟩
      rw [hword.last a ha] at hsep
      cases hsep
  · intro a ha
    rw [List.head?_append_of_ne_nil w hw.ne_nil] at ha
    exact hword.head a ha
  · intro a ha
    rw [List.getLast?_append_cons, List.getLast?_cons_of_ne_nil h.ne_nil] at ha
    exact h.last a ha

omit hdisjoint in
/-- What is separated is a word, or a word, a separator, and what is separated again. -/
theorem Separated.cases_words (h : Separated letter sep l) :
    IsWord letter l ∨ ∃ w s rest, l = w ++ s :: rest ∧ IsWord letter w ∧ sep s = true ∧
      Separated letter sep rest := by
  have hsplit := List.takeWhile_append_dropWhile (p := letter) (l := l)
  have hletters : ∀ a ∈ l.takeWhile letter, letter a = true := fun a ha =>
    List.mem_takeWhile_imp ha
  have hword : IsWord letter (l.takeWhile letter) := by
    refine ⟨?_, hletters⟩
    cases l with
    | nil => exact absurd rfl h.ne_nil
    | cons a l =>
      have ha : letter a = true := (h.chars a List.mem_cons_self).resolve_left (by
        rw [h.head a rfl]
        exact Bool.false_ne_true)
      rw [List.takeWhile_cons_of_pos ha]
      exact List.cons_ne_nil _ _
  cases hdrop : l.dropWhile letter with
  | nil =>
    rw [hdrop, List.append_nil] at hsplit
    exact .inl (hsplit ▸ hword)
  | cons s rest =>
    rw [hdrop] at hsplit
    have hs : sep s = true := by
      refine (h.chars s (by rw [← hsplit]; simp)).resolve_right ?_
      have hnot := List.head?_dropWhile_not letter l
      rw [hdrop] at hnot
      simpa using hnot
    have hrest : (s :: rest).IsChain (Apart sep) := by
      have hapart := h.apart
      rw [← hsplit] at hapart
      exact hapart.right_of_append
    have hne : rest ≠ [] := by
      rintro rfl
      have hlast := h.last s (by rw [← hsplit]; simp)
      rw [hs] at hlast
      cases hlast
    refine .inr ⟨_, s, rest, hsplit.symm, hword, hs, hne, ?_, hrest.tail, ?_, ?_⟩
    · exact fun a ha => h.chars a (by rw [← hsplit]; simp [ha])
    · exact fun a ha => Bool.eq_false_iff.mpr fun hsep => hrest.rel_head? ha ⟨hs, hsep⟩
    · intro a ha
      refine h.last a ?_
      rw [← hsplit, List.getLast?_append_cons, List.getLast?_cons_of_ne_nil hne]
      exact ha

omit hdisjoint in
theorem Separated.induction_words {motive : List α → Prop}
    (word : ∀ w, IsWord letter w → motive w)
    (join : ∀ w s rest, IsWord letter w → sep s = true → Separated letter sep rest →
      motive rest → motive (w ++ s :: rest))
    (h : Separated letter sep l) : motive l := by
  induction hn : l.length using Nat.strong_induction_on generalizing l with
  | _ n ih =>
    obtain hword | ⟨w, s, rest, rfl, hw, hs, hrest⟩ := h.cases_words
    · exact word l hword
    · refine join w s rest hw hs hrest (ih rest.length ?_ hrest rfl)
      rw [← hn]
      simp
      omega

end Words

/-! ### One separator -/

section Pieces

variable [DecidableEq α] {c : α} (hc : letter c = false)

include hc

theorem separated_intercalate {pieces : List (List α)} (hne : pieces ≠ [])
    (h : ∀ piece ∈ pieces, IsWord letter piece) :
    Separated letter (fun a => decide (a = c)) ([c].intercalate pieces) := by
  have hdisjoint : ∀ a, letter a = true → decide (a = c) = false := by
    rintro a ha
    refine decide_eq_false ?_
    rintro rfl
    rw [hc] at ha
    cases ha
  induction pieces with
  | nil => exact absurd rfl hne
  | cons piece pieces ih =>
    obtain ⟨hpiece, hpieces⟩ := List.forall_mem_cons.mp h
    cases pieces with
    | nil =>
      rw [List.intercalate_singleton]
      exact hpiece.separated hdisjoint
    | cons next pieces =>
      rw [List.intercalate_cons_cons, List.append_assoc]
      exact Separated.join hdisjoint hpiece (decide_eq_true rfl)
        (ih (List.cons_ne_nil _ _) hpieces)

/-- The pieces between separators are words. -/
theorem separated_iff_splitOn :
    Separated letter (fun a => decide (a = c)) l ↔ ∀ piece ∈ l.splitOn c, IsWord letter piece := by
  have hfree : ∀ {w : List α}, IsWord letter w → c ∉ w := fun hw hmem => by
    rw [hw.letters c hmem] at hc
    cases hc
  constructor
  · intro h
    refine h.induction_words (motive := fun l => ∀ piece ∈ l.splitOn c, IsWord letter piece) ?_ ?_
    · intro w hw piece hpiece
      rw [List.splitOn_eq_singleton (hfree hw), List.mem_singleton] at hpiece
      exact hpiece ▸ hw
    · intro w s rest hw hs _ ih piece hpiece
      rw [of_decide_eq_true hs, List.splitOn_append_cons_self_of_not_mem (hfree hw)] at hpiece
      obtain rfl | hmem := List.mem_cons.mp hpiece
      · exact hw
      · exact ih piece hmem
  · intro h
    have hpieces := separated_intercalate hc (List.splitOn_ne_nil c l) h
    rwa [List.intercalate_splitOn] at hpieces

end Pieces

end Separated

end Coderd.Foundation
