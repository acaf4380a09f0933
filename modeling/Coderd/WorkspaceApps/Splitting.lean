import Mathlib.Data.List.Infix
import Coderd.WorkspaceApps.Requests

namespace Coderd.WorkspaceApps

/-! ## Splitting by a separator

The text is made of blocks, each of which ends with a separator, and of what is left. -/

section Split

variable {sep piece l : List Char} {parts : List (List Char)}

/-- In the text with the separator after it, the separator does not occur before. -/
def Clear (sep piece : List Char) : Prop := ∀ q, q <:+ piece → q ≠ [] → ¬ sep <+: q ++ sep

def blocks (sep : List Char) (parts : List (List Char)) : List Char := parts.flatMap (· ++ sep)

theorem blocks_cons (sep p : List Char) (parts : List (List Char)) :
    blocks sep (p :: parts) = p ++ sep ++ blocks sep parts :=
  List.flatMap_cons

theorem clear_nil : Clear sep [] := fun _ hq hne => absurd (List.suffix_nil.mp hq) hne

theorem Clear.of_cons {c : Char} (h : Clear sep (c :: piece)) : Clear sep piece := fun q hq =>
  h q (hq.trans (List.suffix_cons c piece))

theorem Clear.cons {c : Char} (h : Clear sep piece) (hc : ¬ sep <+: c :: piece ++ sep) :
    Clear sep (c :: piece) := by
  intro q hq hne
  obtain rfl | hq := List.suffix_cons_iff.mp hq
  · exact hc
  · exact h q hq hne

/-- Whether a list begins with the separator is seen in its first characters. -/
theorem prefix_append_sep_iff (l : List Char) :
    sep <+: piece ++ sep ++ l ↔ sep <+: piece ++ sep := by
  constructor
  · intro h
    refine List.prefix_of_prefix_length_le h (List.prefix_append _ l) ?_
    rw [List.length_append]
    exact Nat.le_add_left _ _
  · exact fun h => h.trans (List.prefix_append _ l)

theorem splitAux_length (u acc l : List Char) :
    splitAux sep u.length acc (u ++ l) = splitAux sep 0 acc l := by
  induction u with
  | nil => rfl
  | cons c u ih => exact ih

theorem splitAux_letter {c : Char} (h : ¬ sep <+: c :: l) (acc : List Char) :
    splitAux sep 0 acc (c :: l) = splitAux sep 0 (c :: acc) l := by
  rw [splitAux, if_neg fun hinit => h (List.isPrefixOf_iff_prefix.mp hinit)]

theorem splitAux_sep (hne : sep ≠ []) (acc l : List Char) :
    splitAux sep 0 acc (sep ++ l) = acc.reverse :: splitAux sep 0 [] l := by
  obtain ⟨c, rest, rfl⟩ := List.exists_cons_of_ne_nil hne
  rw [List.cons_append, splitAux, if_pos, List.length_cons, Nat.add_sub_cancel, splitAux_length]
  exact List.isPrefixOf_iff_prefix.mpr (List.prefix_append (c :: rest) l)

theorem splitAux_block (hne : sep ≠ []) (h : Clear sep piece) (acc l : List Char) :
    splitAux sep 0 acc (piece ++ sep ++ l) = (acc.reverse ++ piece) :: splitAux sep 0 [] l := by
  induction piece generalizing acc with
  | nil => rw [List.nil_append, splitAux_sep hne, List.append_nil]
  | cons c piece ih =>
    have hstart : ¬ sep <+: c :: (piece ++ sep ++ l) := fun hinit =>
      h (c :: piece) List.suffix_rfl (List.cons_ne_nil _ _)
        ((@prefix_append_sep_iff sep (c :: piece) l).mp hinit)
    rw [List.cons_append, List.cons_append, splitAux_letter hstart, ih h.of_cons,
      List.reverse_cons, List.append_assoc]
    rfl

theorem splitAux_of_free (h : ¬ sep <:+: l) (acc : List Char) :
    splitAux sep 0 acc l = [acc.reverse ++ l] := by
  induction l generalizing acc with
  | nil => rw [splitAux, List.append_nil]
  | cons c l ih =>
    rw [splitAux_letter fun hinit => h hinit.isInfix,
      ih fun hocc => h (hocc.trans (List.suffix_cons c l).isInfix), List.reverse_cons,
      List.append_assoc]
    rfl

theorem splitAux_blocks (hne : sep ≠ []) (hparts : ∀ p ∈ parts, Clear sep p)
    (hlast : ¬ sep <:+: l) : splitAux sep 0 [] (blocks sep parts ++ l) = parts ++ [l] := by
  induction parts with
  | nil => exact splitAux_of_free hlast []
  | cons p parts ih =>
    obtain ⟨hp, hrest⟩ := List.forall_mem_cons.mp hparts
    rw [blocks_cons, List.append_assoc, splitAux_block hne hp, ih hrest, List.reverse_nil,
      List.nil_append, List.cons_append]

/-- Every text comes apart into blocks, from the left. -/
theorem exists_blocks (hne : sep ≠ []) (l : List Char) : ∃ parts last,
    l = blocks sep parts ++ last ∧ (∀ p ∈ parts, Clear sep p) ∧ ¬ sep <:+: last := by
  induction hn : l.length using Nat.strong_induction_on generalizing l with
  | _ n ih =>
    cases l with
    | nil => exact ⟨[], [], rfl, by simp, fun h => hne (List.infix_nil.mp h)⟩
    | cons c l =>
      by_cases h : sep <+: c :: l
      · obtain ⟨rest, hrest⟩ := h
        have hlength := congrArg List.length hrest
        rw [List.length_append, hn] at hlength
        have hpos := List.length_pos_of_ne_nil hne
        obtain ⟨parts, last, heq, hparts, hlast⟩ := ih rest.length (by omega) rest rfl
        refine ⟨[] :: parts, last, ?_, List.forall_mem_cons.mpr ⟨clear_nil, hparts⟩, hlast⟩
        rw [← hrest, heq, blocks_cons, List.nil_append, List.append_assoc]
      · obtain ⟨parts, last, heq, hparts, hlast⟩ :=
          ih l.length (by rw [← hn, List.length_cons]; omega) l rfl
        cases parts with
        | nil =>
          refine ⟨[], c :: last, by rw [heq]; rfl, hparts, fun hocc => ?_⟩
          obtain hinit | hocc := List.infix_cons_iff.mp hocc
          · exact h (by rwa [heq])
          · exact hlast hocc
        | cons p parts =>
          obtain ⟨hp, hrest⟩ := List.forall_mem_cons.mp hparts
          have hsplit : c :: l = c :: p ++ sep ++ (blocks sep parts ++ last) := by
            rw [heq, blocks_cons]
            simp
          refine ⟨(c :: p) :: parts, last, ?_, List.forall_mem_cons.mpr ⟨hp.cons ?_, hrest⟩, hlast⟩
          · rw [hsplit, blocks_cons, ← List.append_assoc]
          · rw [hsplit, prefix_append_sep_iff] at h
            exact h

theorem intercalate_append_sep (hne : parts ≠ []) :
    sep.intercalate parts ++ sep = blocks sep parts := by
  induction parts with
  | nil => exact absurd rfl hne
  | cons p parts ih =>
    cases parts with
    | nil => simp [blocks]
    | cons q parts =>
      rw [List.intercalate_cons_cons, List.append_assoc, ih (List.cons_ne_nil q parts),
        blocks_cons sep p]

end Split

/-! ## Separators of hyphens -/

/-- What has no separator and does not end with a hyphen is split off whole. -/
theorem clear_replicate {n : ℕ} {piece : List Char}
    (hfree : ¬ List.replicate n '-' <:+: piece) (hlast : ∀ c ∈ piece.getLast?, c ≠ '-') :
    Clear (List.replicate n '-') piece := by
  intro q hq hne hinit
  obtain hle | hlt := le_or_gt (List.replicate n '-').length q.length
  · have hstart := List.prefix_of_prefix_length_le hinit (List.prefix_append q _) hle
    exact hfree (hstart.isInfix.trans hq.isInfix)
  · -- The last character of the piece would be in the separator.
    have hwithin := List.prefix_of_prefix_length_le (List.prefix_append q _) hinit hlt.le
    have hmem : q.getLast hne ∈ List.replicate n '-' := hwithin.subset (List.getLast_mem hne)
    refine hlast (q.getLast hne) ?_ (List.eq_of_mem_replicate hmem)
    obtain ⟨u, rfl⟩ := hq
    rw [List.getLast?_append_of_ne_nil u hne, List.getLast?_eq_some_getLast hne]
    rfl

end Coderd.WorkspaceApps
