import Coderd.Foundation.Separated
import Coderd.WorkspaceApps.Requests

namespace Coderd.WorkspaceApps

open Coderd.Foundation

/-! ## The grammar of names -/

def isHyphen (c : Char) : Bool := decide (c = '-')

/-- ASCII letters and digits, with single hyphens between them. -/
def IsName (cs : List Char) : Prop := Separated Char.isAlphanum isHyphen cs

theorem isHyphen_of_isAlphanum (c : Char) (h : c.isAlphanum = true) : isHyphen c = false := by
  refine decide_eq_false ?_
  rintro rfl
  cases h

/-- Splitting by one character; `piece` is what was read of the first piece. -/
theorem splitAux_singleton (c : Char) (piece cs : List Char) :
    splitAux [c] 0 piece cs = (cs.splitOn c).modifyHead (piece.reverse ++ ·) := by
  induction cs generalizing piece with
  | nil => simp [splitAux, List.splitOn_nil]
  | cons d cs ih =>
    rw [List.splitOn_cons_eq_if_modifyHead, splitAux]
    by_cases hd : d = c
    · subst hd
      simp only [List.isPrefixOf, beq_self_eq_true, Bool.and_true, if_true, List.length_singleton,
        Nat.sub_self, ih, List.modifyHead_cons, List.append_nil]
      cases cs.splitOn d <;> rfl
    · have hinit : [c].isPrefixOf (d :: cs) = false := by
        simp [List.isPrefixOf, Ne.symm hd]
      have hbeq : (d == c) = false := by simpa using hd
      rw [hinit, hbeq, if_neg Bool.false_ne_true, if_neg Bool.false_ne_true, ih]
      cases hpieces : cs.splitOn c with
      | nil => exact absurd hpieces (List.splitOn_ne_nil c cs)
      | cons first pieces => simp

theorem splitText_singleton (text : String) (c : Char) :
    splitText text (String.singleton c) = (text.toList.splitOn c).map String.ofList := by
  rw [splitText, String.toList_singleton, splitAux_singleton]
  congr 1
  cases text.toList.splitOn c <;> rfl

theorem nameRegex_iff {name : String} : nameRegex name = true ↔ IsName name.toList := by
  have hname : IsName name.toList ↔
      ∀ piece ∈ name.toList.splitOn '-', IsWord Char.isAlphanum piece :=
    separated_iff_splitOn rfl
  have hsplit : splitText name "-" = (name.toList.splitOn '-').map String.ofList :=
    splitText_singleton name '-'
  rw [nameRegex, hsplit, List.all_map, List.all_eq_true, hname]
  refine forall₂_congr fun piece _ => ?_
  have hempty : (String.ofList piece).isEmpty = false ↔ piece ≠ [] := by
    cases piece with
    | nil => simp
    | cons c cs => simp
  simp only [Function.comp_apply, String.toList_ofList, Bool.and_eq_true, Bool.not_eq_true', hempty,
    List.all_eq_true]
  exact ⟨fun h => ⟨h.1, h.2⟩, fun h => ⟨h.1, h.2⟩⟩

end Coderd.WorkspaceApps
