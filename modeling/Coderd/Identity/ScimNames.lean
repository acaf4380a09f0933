import Coderd.Identity.Usernames

namespace Coderd.Identity

open Coderd.Foundation
open Coderd.WorkspaceApps (IsName isHyphen isHyphen_of_isAlphanum nameRegex_iff)

/-! ## Sanitizing -/

/-- Everything but ASCII letters and digits becomes a hyphen. -/
def sanitizeChar (c : Char) : Char := if c.isAlphanum || c = '-' then c.toLower else '-'

/-- Runs of hyphens become one; the flag tells whether the last character was a hyphen. -/
def collapseHyphens : Bool → List Char → List Char
  | _, [] => []
  | prevHyphen, c :: cs =>
    if c = '-' then
      if prevHyphen then collapseHyphens true cs else c :: collapseHyphens true cs
    else c :: collapseHyphens false cs

/-- What comes before the first `@` of the user name, or of the address where there is none. -/
def localPart (raw email : String) : List Char :=
  (if raw.isEmpty then email else raw).toList.takeWhile (· ≠ '@')

/-- The text is ASCII when it is truncated, so that a byte is a character. -/
def sanitizeScimUsername (raw email : String) : String :=
  let sanitized := (localPart raw email).map sanitizeChar
  let trimmed := trimBy isHyphen sanitized
  let collapsed := collapseHyphens false trimmed
  let truncated := if 32 < collapsed.length then collapsed.take 32 else collapsed
  let truncated := truncated.rdropWhile isHyphen
  if truncated.isEmpty then "scim-user" else String.ofList truncated

/-! ## Collapsing -/

section Collapse

variable {prevHyphen : Bool} {cs : List Char}

theorem mem_of_mem_collapseHyphens {c : Char} (h : c ∈ collapseHyphens prevHyphen cs) : c ∈ cs := by
  induction cs generalizing prevHyphen with
  | nil => exact h
  | cons d cs ih =>
    rw [collapseHyphens] at h
    split at h
    · split at h
      · exact List.mem_cons_of_mem _ (ih h)
      · exact (List.mem_cons.mp h).elim (fun heq => heq ▸ List.mem_cons_self)
          fun hmem => List.mem_cons_of_mem _ (ih hmem)
    · exact (List.mem_cons.mp h).elim (fun heq => heq ▸ List.mem_cons_self)
        fun hmem => List.mem_cons_of_mem _ (ih hmem)

theorem apart_collapseHyphens (prevHyphen : Bool) (cs : List Char) :
    (collapseHyphens prevHyphen cs).IsChain (Apart isHyphen) ∧
      (prevHyphen = true → ∀ c ∈ (collapseHyphens prevHyphen cs).head?, isHyphen c = false) := by
  induction cs generalizing prevHyphen with
  | nil => exact ⟨.nil, by simp [collapseHyphens]⟩
  | cons c cs ih =>
    rw [collapseHyphens]
    by_cases hc : c = '-'
    · obtain ⟨hapart, hhead⟩ := ih true
      rw [if_pos hc]
      cases prevHyphen with
      | true => exact ⟨hapart, hhead⟩
      | false =>
        refine ⟨hapart.cons fun d hd hboth => ?_, by simp⟩
        rw [hhead rfl d hd] at hboth
        cases hboth.2
    · obtain ⟨hapart, -⟩ := ih false
      have hhyphen : isHyphen c = false := decide_eq_false hc
      rw [if_neg hc]
      refine ⟨hapart.cons fun d _ hboth => ?_, fun _ d hd => ?_⟩
      · rw [hhyphen] at hboth
        cases hboth.1
      · rwa [← Option.some.inj hd]

/-- Where no hyphen follows another, nothing changes. -/
theorem collapseHyphens_of_apart (h : cs.IsChain (Apart isHyphen))
    (hhead : prevHyphen = true → ∀ c ∈ cs.head?, isHyphen c = false) :
    collapseHyphens prevHyphen cs = cs := by
  induction cs generalizing prevHyphen with
  | nil => rfl
  | cons c cs ih =>
    rw [collapseHyphens]
    by_cases hc : c = '-'
    · have hnext : ∀ d ∈ cs.head?, isHyphen d = false := fun d hd =>
        Bool.eq_false_iff.mpr fun hd' => h.rel_head? hd ⟨decide_eq_true hc, hd'⟩
      have hprev : prevHyphen = false := by
        refine Bool.eq_false_iff.mpr fun hprev => ?_
        have hnot := hhead hprev c rfl
        rw [isHyphen, decide_eq_true hc] at hnot
        cases hnot
      rw [if_pos hc, hprev, if_neg Bool.false_ne_true, ih h.tail fun _ => hnext]
    · rw [if_neg hc, ih h.tail fun hfalse => by cases hfalse]

theorem collapseHyphens_of_notMem (h : '-' ∉ cs) : collapseHyphens false cs = cs := by
  refine collapseHyphens_of_apart ?_ fun hfalse => by cases hfalse
  refine List.isChain_iff_forall_rel_of_append_cons_cons.mpr ?_
  rintro a b u v rfl ⟨ha, -⟩
  rw [of_decide_eq_true ha] at h
  simp at h

/-- A hyphen that no character follows is the last one. -/
theorem getLast?_collapseHyphens (h : ∀ c ∈ cs.getLast?, isHyphen c = false) :
    (collapseHyphens prevHyphen cs).getLast? = cs.getLast? := by
  induction cs generalizing prevHyphen with
  | nil => rfl
  | cons c cs ih =>
    by_cases hcs : cs = []
    · subst hcs
      have hc : c ≠ '-' := of_decide_eq_false (h c rfl)
      rw [collapseHyphens, if_neg hc, collapseHyphens]
    · rw [List.getLast?_cons_of_ne_nil hcs] at h ⊢
      have hkept : ∀ flag : Bool, (collapseHyphens flag cs).getLast? = cs.getLast? := fun _ => ih h
      have hne : ∀ flag : Bool, collapseHyphens flag cs ≠ [] := fun flag hnil => by
        have hlast := hkept flag
        rw [hnil, List.getLast?_nil] at hlast
        exact hcs (List.getLast?_eq_none_iff.mp hlast.symm)
      rw [collapseHyphens]
      by_cases hc : c = '-'
      · cases prevHyphen with
        | true => rw [if_pos hc, if_pos rfl, hkept]
        | false =>
          rw [if_pos hc, if_neg Bool.false_ne_true, List.getLast?_cons_of_ne_nil (hne true), hkept]
      · rw [if_neg hc, List.getLast?_cons_of_ne_nil (hne false), hkept]

theorem hyphen_mem_collapseHyphens (h : '-' ∈ cs) : '-' ∈ collapseHyphens false cs := by
  induction cs with
  | nil => cases h
  | cons c cs ih =>
    rw [collapseHyphens]
    by_cases hc : c = '-'
    · rw [if_pos hc, if_neg Bool.false_ne_true, hc]
      exact List.mem_cons_self
    · rw [if_neg hc]
      exact List.mem_cons_of_mem _ (ih ((List.mem_cons.mp h).resolve_left (Ne.symm hc)))

end Collapse

/-! ## Characters -/

theorem sanitizeChar_of_alphanum {c : Char} (h : c.isAlphanum = true) :
    sanitizeChar c = c.toLower ∧ isHyphen (sanitizeChar c) = false := by
  have hlower : sanitizeChar c = c.toLower := by simp [sanitizeChar, h]
  refine ⟨hlower, ?_⟩
  rw [hlower]
  exact isHyphen_of_isAlphanum _ (by rw [isAlphanum_toLower, h])

theorem sanitizeChar_of_not {c : Char} (h : c.isAlphanum = false) : sanitizeChar c = '-' := by
  by_cases hc : c = '-'
  · subst hc
    rfl
  · simp [sanitizeChar, h, hc]

theorem isHyphen_sanitizeChar (c : Char) : isHyphen (sanitizeChar c) = !c.isAlphanum := by
  cases h : c.isAlphanum with
  | true => exact (sanitizeChar_of_alphanum h).2
  | false =>
    rw [sanitizeChar_of_not h]
    rfl

theorem isAlphanum_sanitizeChar (c : Char) : (sanitizeChar c).isAlphanum = c.isAlphanum := by
  cases h : c.isAlphanum with
  | true => rw [(sanitizeChar_of_alphanum h).1, isAlphanum_toLower, h]
  | false =>
    rw [sanitizeChar_of_not h]
    rfl

/-- What the characters of a sanitized name are: hyphens and lower-case letters and digits. -/
def IsSanitized (c : Char) : Prop := c = '-' ∨ c.isAlphanum = true ∧ c.toLower = c

instance : DecidablePred IsSanitized := fun _ => inferInstanceAs (Decidable (_ ∨ _))

theorem isSanitized_sanitizeChar (c : Char) : IsSanitized (sanitizeChar c) := by
  cases h : c.isAlphanum with
  | true =>
    rw [(sanitizeChar_of_alphanum h).1]
    exact .inr ⟨by rw [isAlphanum_toLower, h], toLower_toLower c⟩
  | false => exact .inl (sanitizeChar_of_not h)

theorem IsSanitized.sanitizeChar_eq {c : Char} (h : IsSanitized c) : sanitizeChar c = c := by
  obtain rfl | ⟨halnum, hlower⟩ := h
  · rfl
  · rw [(sanitizeChar_of_alphanum halnum).1, hlower]

/-! ## The sanitized name -/

section Sanitized

variable {cs : List Char} {raw email : String}

/-- The local part without what is not a letter or digit at its ends. -/
def coreOf (raw email : String) : List Char :=
  trimBy (fun c => !c.isAlphanum) (localPart raw email)

theorem trimBy_sanitized (raw email : String) :
    trimBy isHyphen ((localPart raw email).map sanitizeChar) =
      (coreOf raw email).map sanitizeChar := by
  have hcomp : isHyphen ∘ sanitizeChar = fun c => !c.isAlphanum := funext isHyphen_sanitizeChar
  rw [trimBy_map, hcomp, coreOf]

/-- The name in one piece: a text that is cut after 32 characters is cut there or is shorter. -/
theorem sanitizeScimUsername_eq (raw email : String) : sanitizeScimUsername raw email =
    (let name := ((collapseHyphens false ((coreOf raw email).map sanitizeChar)).take 32).rdropWhile
      isHyphen
     if name.isEmpty then "scim-user" else String.ofList name) := by
  have htake : ∀ cs : List Char, (if 32 < cs.length then cs.take 32 else cs) = cs.take 32 := by
    intro cs
    split
    · rfl
    · exact (List.take_of_length_le (by omega)).symm
  rw [sanitizeScimUsername, trimBy_sanitized]
  simp only [htake]

/-- What is left of characters that start with a letter or digit is a name. -/
theorem isName_of_collapsed (hne : cs ≠ []) (hchars : ∀ c ∈ cs, IsSanitized c)
    (hhead : ∀ c ∈ cs.head?, isHyphen c = false) :
    IsName (((collapseHyphens false cs).take 32).rdropWhile isHyphen) ∧
      ∀ c ∈ ((collapseHyphens false cs).take 32).rdropWhile isHyphen, IsSanitized c := by
  have hinit : ((collapseHyphens false cs).take 32).rdropWhile isHyphen <+:
      collapseHyphens false cs :=
    (List.rdropWhile_prefix isHyphen _).trans (List.take_prefix 32 _)
  have hsanitized : ∀ c ∈ ((collapseHyphens false cs).take 32).rdropWhile isHyphen,
      IsSanitized c := fun c hc => hchars c (mem_of_mem_collapseHyphens (hinit.subset hc))
  -- The first character is no hyphen, so it is never dropped.
  obtain ⟨first, rest, rfl⟩ := List.exists_cons_of_ne_nil hne
  have hfirst : isHyphen first = false := hhead first rfl
  have hcollapsed :
      collapseHyphens false (first :: rest) = first :: collapseHyphens false rest := by
    rw [collapseHyphens, if_neg (of_decide_eq_false hfirst)]
  have hkept :
      [first] <+: ((collapseHyphens false (first :: rest)).take 32).rdropWhile isHyphen := by
    rw [hcollapsed, List.take_succ_cons]
    have hlast := prefix_trimBy (p := isHyphen) (b := [first])
      (l := first :: (collapseHyphens false rest).take 31) (by simpa using hfirst)
      (by simp)
    rwa [trimBy, List.dropWhile_cons_of_neg (by simp [hfirst])] at hlast
  obtain ⟨others, hothers⟩ := hkept
  refine ⟨⟨?_, ?_, List.IsChain.prefix (apart_collapseHyphens false _).1 hinit,
    ?_, ?_⟩, hsanitized⟩
  · rw [← hothers]
    exact List.cons_ne_nil _ _
  · intro c hc
    obtain rfl | ⟨halnum, -⟩ := hsanitized c hc
    · exact .inl rfl
    · exact .inr halnum
  · intro c hc
    rw [← hothers] at hc
    rwa [← Option.some.inj hc]
  · intro c hc
    obtain ⟨hne', rfl⟩ := List.mem_getLast?_eq_getLast hc
    exact Bool.eq_false_iff.mpr (List.rdropWhile_last_not isHyphen _ hne')

/-- A name of at most 32 sanitized characters is its own sanitized name. -/
theorem sanitizeScimUsername_of_isName {name : String} (hname : IsName name.toList)
    (hchars : ∀ c ∈ name.toList, IsSanitized c) (hlength : name.toList.length ≤ 32)
    (email : String) : sanitizeScimUsername name email = name := by
  have hnonempty : name.isEmpty = false := by
    refine Bool.eq_false_iff.mpr fun hempty => hname.ne_nil ?_
    rw [String.isEmpty_iff.mp hempty]
    rfl
  have hlocal : localPart name email = name.toList := by
    rw [localPart, hnonempty, if_neg Bool.false_ne_true]
    refine List.takeWhile_eq_self_iff.mpr fun c hc => decide_eq_true ?_
    rintro rfl
    obtain h | ⟨h, -⟩ := hchars '@' hc
    · cases h
    · cases h
  have hmap : name.toList.map sanitizeChar = name.toList := by
    conv_rhs => rw [← List.map_id name.toList]
    exact List.map_congr_left fun c hc => (hchars c hc).sanitizeChar_eq
  have hcollapse : collapseHyphens false name.toList = name.toList :=
    collapseHyphens_of_apart hname.apart fun h => by cases h
  rw [sanitizeScimUsername, hlocal, hmap, trimBy_of_trimmed hname.trimmed, hcollapse]
  simp only [if_neg (not_lt.mpr hlength), rdropWhile_eq_of_trimmed hname.trimmed]
  have hempty : name.toList.isEmpty = false := by simpa using hname.ne_nil
  rw [hempty, if_neg Bool.false_ne_true, String.ofList_toList]

/-- Whatever the texts are, the result is a name of at most 32 sanitized characters. -/
theorem sanitizeScimUsername_isName (raw email : String) :
    IsName (sanitizeScimUsername raw email).toList ∧
      (∀ c ∈ (sanitizeScimUsername raw email).toList, IsSanitized c) ∧
      (sanitizeScimUsername raw email).toList.length ≤ 32 := by
  by_cases hcore : coreOf raw email = []
  · have hfallback : sanitizeScimUsername raw email = "scim-user" := by
      rw [sanitizeScimUsername_eq, hcore]
      rfl
    rw [hfallback]
    have hsanitized : "scim-user".toList.all (fun c => IsSanitized c) = true := by decide
    exact ⟨nameRegex_iff.mp (by decide), fun c hc =>
      of_decide_eq_true (List.all_eq_true.mp hsanitized c hc), by decide⟩
  · have hne : (coreOf raw email).map sanitizeChar ≠ [] := fun h => hcore (List.map_eq_nil_iff.mp h)
    have hchars : ∀ c ∈ (coreOf raw email).map sanitizeChar, IsSanitized c := by
      intro c hc
      obtain ⟨d, -, rfl⟩ := List.mem_map.mp hc
      exact isSanitized_sanitizeChar d
    have hhead : ∀ c ∈ ((coreOf raw email).map sanitizeChar).head?, isHyphen c = false := by
      intro c hc
      rw [List.head?_map] at hc
      obtain ⟨d, hd, rfl⟩ := Option.map_eq_some_iff.mp hc
      rw [isHyphen_sanitizeChar]
      exact (trimmed_trimBy _).1 d hd
    obtain ⟨hname, hsanitized⟩ := isName_of_collapsed hne hchars hhead
    have hempty := List.isEmpty_eq_false_iff.mpr hname.ne_nil
    have hresult := sanitizeScimUsername_eq raw email
    simp only [hempty, if_neg Bool.false_ne_true] at hresult
    rw [hresult, String.toList_ofList]
    refine ⟨hname, hsanitized, ?_⟩
    calc _ ≤ _ := (List.rdropWhile_prefix isHyphen _).length_le
      _ ≤ 32 := List.length_take_le 32 _

/-! ## Reserved names -/

/-- What is shorter than the limit is the result of no longer text: what is dropped after it
would be more than one hyphen. -/
theorem collapsed_eq_of_short {word : List Char} (hshort : word.length + 2 ≤ 32)
    (hlast : ∀ c ∈ cs.getLast?, isHyphen c = false)
    (h : ((collapseHyphens false cs).take 32).rdropWhile isHyphen = word) :
    collapseHyphens false cs = word := by
  have hsplit := List.rdropWhile_append_rtakeWhile (p := isHyphen)
    (l := (collapseHyphens false cs).take 32)
  rw [h] at hsplit
  have hdropped : ∀ c ∈ ((collapseHyphens false cs).take 32).rtakeWhile isHyphen,
      isHyphen c = true := fun c hc => List.mem_rtakeWhile_imp hc
  have hapart : (word ++ ((collapseHyphens false cs).take 32).rtakeWhile isHyphen).IsChain
      (Apart isHyphen) := by
    rw [hsplit]
    exact List.IsChain.prefix (apart_collapseHyphens false cs).1 (List.take_prefix 32 _)
  have hlength := congrArg List.length hsplit
  rw [List.length_append, List.length_take] at hlength
  match hrest : ((collapseHyphens false cs).take 32).rtakeWhile isHyphen with
  | [] =>
    rw [hrest, List.append_nil] at hsplit
    rw [hrest, List.length_nil] at hlength
    rw [hsplit, List.take_of_length_le (by omega)]
  | [c] =>
    -- The text is not cut, and its last character would be the hyphen.
    rw [hrest] at hsplit hdropped
    rw [hrest, List.length_singleton] at hlength
    rw [List.take_of_length_le (by omega)] at hsplit
    have hkept : (collapseHyphens false cs).getLast? = cs.getLast? :=
      getLast?_collapseHyphens hlast
    rw [← hsplit, List.getLast?_concat] at hkept
    have hc := hlast c hkept.symm
    rw [hdropped c List.mem_cons_self] at hc
    cases hc
  | c :: d :: rest =>
    rw [hrest] at hapart hdropped
    have hboth := List.isChain_iff_forall_rel_of_append_cons_cons.mp hapart rfl
    exact absurd ⟨hdropped c (by simp), hdropped d (by simp)⟩ hboth

theorem sanitizeScimUsername_eq_word_iff {word : List Char} (hword : IsWord Char.isAlphanum word)
    (hshort : word.length + 2 ≤ 32) : sanitizeScimUsername raw email = String.ofList word ↔
      (coreOf raw email).map Char.toLower = word := by
  have hhyphen : '-' ∉ word := fun h => by cases hword.letters _ h
  have hseparated : IsName word := hword.separated isHyphen_of_isAlphanum
  rw [← map_eq_word_iff isAlphanum_sanitizeChar (fun c hc => (sanitizeChar_of_alphanum hc).1) hword,
    sanitizeScimUsername_eq]
  dsimp only
  constructor
  · intro h
    split at h
    · have hmem : '-' ∈ "scim-user".toList := by decide
      rw [h, String.toList_ofList] at hmem
      exact absurd hmem hhyphen
    · have hlast : ∀ c ∈ ((coreOf raw email).map sanitizeChar).getLast?, isHyphen c = false := by
        rw [← trimBy_sanitized]
        exact (trimmed_trimBy _).2
      have hcollapsed := collapsed_eq_of_short hshort hlast (String.ofList_injective h)
      have hfree : '-' ∉ (coreOf raw email).map sanitizeChar := fun hmem => by
        have hkept := hyphen_mem_collapseHyphens hmem
        rw [hcollapsed] at hkept
        exact hhyphen hkept
      rwa [collapseHyphens_of_notMem hfree] at hcollapsed
  · intro h
    have hkept : ((collapseHyphens false word).take 32).rdropWhile isHyphen = word := by
      rw [collapseHyphens_of_notMem hhyphen, List.take_of_length_le (by omega),
        rdropWhile_eq_of_trimmed hseparated.trimmed]
    rw [h, hkept, List.isEmpty_eq_false_iff.mpr hword.ne_nil, if_neg Bool.false_ne_true]

/-- The local part, without what is not a letter or digit at its ends, is a reserved name in any
case. -/
def SpellsReserved (raw email : String) : Prop :=
  String.ofList ((coreOf raw email).map Char.toLower) ∈ reservedUsernames

theorem sanitizeScimUsername_reserved_iff (raw email : String) :
    sanitizeScimUsername raw email ∈ reservedUsernames ↔ SpellsReserved raw email := by
  refine mem_reserved_congr fun name hname => ?_
  obtain ⟨hword, hshort⟩ := isWord_reserved hname
  have hiff : sanitizeScimUsername raw email = String.ofList name.toList ↔
      (coreOf raw email).map Char.toLower = name.toList :=
    sanitizeScimUsername_eq_word_iff hword hshort
  rwa [String.ofList_toList, ← String.toList_ofList (l := (coreOf raw email).map Char.toLower),
    String.toList_inj] at hiff

/-- The result is a valid user name, and its own sanitized name, unless a reserved name is
spelled. -/
theorem sanitizeScimUsername_accepted_iff (raw email : String) :
    (validateUsername (sanitizeScimUsername raw email) = .ok () ∧
      ∀ email', sanitizeScimUsername (sanitizeScimUsername raw email) email' =
        sanitizeScimUsername raw email) ↔ ¬ SpellsReserved raw email := by
  obtain ⟨hname, hchars, hlength⟩ := sanitizeScimUsername_isName raw email
  rw [validateUsername_ok_iff, sanitizeScimUsername_reserved_iff]
  constructor
  · rintro ⟨⟨-, -, hreserved⟩, -⟩
    exact hreserved
  · exact fun hreserved => ⟨⟨hname, hlength, hreserved⟩,
      sanitizeScimUsername_of_isName hname hchars hlength⟩

theorem sanitizeScimUsername_new :
    validateUsername (sanitizeScimUsername "new" "ann@example.com") =
      .error (.validation "cannot use \"new\" as a name") := by
  decide

end Sanitized

end Coderd.Identity
