import Coderd.Foundation.AsciiCase
import Coderd.WorkspaceApps.Names

namespace Coderd.Identity

open Coderd.Foundation
open Coderd.WorkspaceApps (IsName isHyphen)

/-! ## Validation -/

inductive PasswordError where
  | validation (message : String)
  deriving DecidableEq

def notHyphenated : PasswordError := .validation "must be alphanumeric with hyphens"

/-- The scan over the characters; the flag tells whether the last one was a hyphen. -/
def scanUsername : Bool → List Char → Except PasswordError Unit
  | _, [] => .ok ()
  | previousHyphen, character :: rest =>
    if character = '-' then
      if previousHyphen then .error notHyphenated else scanUsername true rest
    else if !character.isAlphanum then .error notHyphenated
    else scanUsername false rest

def reservedUsernames : List String := ["new", "create"]

def validateUsername (username : String) : Except PasswordError Unit :=
  let length := username.toList.length
  if length = 0 then .error (.validation "must be >= 1 character")
  else if 32 < length then .error (.validation "must be <= 32 characters")
  else if reservedUsernames.contains username then
    .error (.validation ("cannot use \"" ++ username ++ "\" as a name"))
  else
    match scanUsername false username.toList with
    | .error e => .error e
    | .ok () =>
      if username.toList.head? = some '-' || username.toList.getLast? = some '-' then
        .error notHyphenated
      else .ok ()

/-! ## What is accepted -/

theorem scanUsername_ok_iff {previousHyphen : Bool} {cs : List Char} :
    scanUsername previousHyphen cs = .ok () ↔
      (∀ c ∈ cs, isHyphen c = true ∨ c.isAlphanum = true) ∧ cs.IsChain (Apart isHyphen) ∧
        (previousHyphen = true → ∀ c ∈ cs.head?, isHyphen c = false) := by
  induction cs generalizing previousHyphen with
  | nil => simp [scanUsername]
  | cons c cs ih =>
    have hapart : (c :: cs).IsChain (Apart isHyphen) ↔
        (isHyphen c = true → ∀ d ∈ cs.head?, isHyphen d = false) ∧
          cs.IsChain (Apart isHyphen) := by
      rw [List.isChain_cons]
      refine and_congr_left fun _ => ?_
      constructor
      · intro h hc d hd
        exact Bool.eq_false_iff.mpr fun hd' => h d hd ⟨hc, hd'⟩
      · rintro h d hd ⟨hc, hd'⟩
        rw [h hc d hd] at hd'
        cases hd'
    rw [scanUsername, List.forall_mem_cons, hapart]
    by_cases hc : c = '-'
    · subst hc
      cases previousHyphen with
      | true => simp [isHyphen]
      | false =>
        rw [if_pos rfl, if_neg Bool.false_ne_true, ih]
        simp [isHyphen]
        tauto
    · have hhyphen : isHyphen c = false := decide_eq_false hc
      rw [if_neg hc]
      cases halnum : c.isAlphanum with
      | false => simp [hhyphen]
      | true =>
        rw [Bool.not_true, if_neg Bool.false_ne_true, ih]
        simp [hhyphen]

theorem edges_iff {cs : List Char} :
    ¬ ((cs.head? = some '-' || cs.getLast? = some '-') = true) ↔
      (∀ c ∈ cs.head?, isHyphen c = false) ∧ ∀ c ∈ cs.getLast?, isHyphen c = false := by
  have hedge : ∀ edge : Option Char, edge ≠ some '-' ↔ ∀ c ∈ edge, isHyphen c = false := by
    rintro (_ | c)
    · simp
    · simp [isHyphen]
  rw [Bool.or_eq_true, decide_eq_true_eq, decide_eq_true_eq, not_or, ← hedge, ← hedge]

/-- A valid user name is a name of at most 32 characters that is not reserved. -/
theorem validateUsername_ok_iff {username : String} : validateUsername username = .ok () ↔
    IsName username.toList ∧ username.toList.length ≤ 32 ∧ username ∉ reservedUsernames := by
  unfold validateUsername
  by_cases hempty : username.toList = []
  · simp only [hempty, List.length_nil, if_true, reduceCtorEq, false_iff]
    exact fun h => h.1.ne_nil rfl
  by_cases hlong : 32 < username.toList.length
  · simp [hempty, hlong]
  by_cases hreserved : username ∈ reservedUsernames
  · simp [hempty, hlong, hreserved]
  rw [if_neg (by simpa using hempty), if_neg hlong, if_neg (by simpa using hreserved)]
  have hscan := @scanUsername_ok_iff false username.toList
  cases hresult : scanUsername false username.toList with
  | error e =>
    rw [hresult] at hscan
    simp only [reduceCtorEq, false_iff] at hscan ⊢
    rintro ⟨hname, -⟩
    exact hscan ⟨hname.chars, hname.apart, fun h => by cases h⟩
  | ok u =>
    cases u
    obtain ⟨hchars, hapart, -⟩ := hscan.mp hresult
    have hedges := @edges_iff username.toList
    dsimp only
    split
    · rename_i hedge
      simp only [reduceCtorEq, false_iff]
      rintro ⟨hname, -⟩
      exact hedges.mpr ⟨hname.head, hname.last⟩ hedge
    · rename_i hedge
      obtain ⟨hhead, hlast⟩ := hedges.mp hedge
      simp only [true_iff]
      exact ⟨⟨hempty, hchars, hapart, hhead, hlast⟩, not_lt.mp hlong, hreserved⟩

/-! ## Names from other texts -/

section Mapped

variable {f : Char → Char} {cs word : List Char} (halnum : ∀ c, (f c).isAlphanum = c.isAlphanum)
  (hlower : ∀ c, c.isAlphanum = true → f c = c.toLower)

include halnum hlower

/-- Where other characters become no letters or digits, a word comes from the letters and digits
that spell it. -/
theorem map_eq_word_iff (hword : IsWord Char.isAlphanum word) :
    cs.map f = word ↔ cs.map Char.toLower = word := by
  suffices hagree : (∀ c ∈ cs, c.isAlphanum = true) → cs.map f = cs.map Char.toLower by
    constructor
    · rintro rfl
      refine (hagree fun c hc => ?_).symm
      rw [← halnum]
      exact hword.letters _ (List.mem_map_of_mem hc)
    · rintro rfl
      refine hagree fun c hc => ?_
      rw [← isAlphanum_toLower]
      exact hword.letters _ (List.mem_map_of_mem hc)
  exact fun h => List.map_congr_left fun c hc => hlower c (h c hc)

end Mapped

theorem isWord_reserved {name : String} (h : name ∈ reservedUsernames) :
    IsWord Char.isAlphanum name.toList ∧ name.toList.length + 2 ≤ 32 := by
  obtain rfl | rfl : name = "new" ∨ name = "create" := by simpa [reservedUsernames] using h
  · exact ⟨⟨by decide, List.all_eq_true.mp (by decide)⟩, by decide⟩
  · exact ⟨⟨by decide, List.all_eq_true.mp (by decide)⟩, by decide⟩

theorem mem_reserved_congr {username other : String}
    (h : ∀ name ∈ reservedUsernames, username = name ↔ other = name) :
    username ∈ reservedUsernames ↔ other ∈ reservedUsernames := by
  constructor
  · intro hmem
    rwa [(h _ hmem).mp rfl]
  · intro hmem
    rwa [(h _ hmem).mpr rfl]

end Coderd.Identity
