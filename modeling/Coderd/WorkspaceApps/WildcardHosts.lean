import Coderd.WorkspaceApps.HostnamePatterns

namespace Coderd.WorkspaceApps

open Coderd.Foundation

/-! ## Hosts of a wildcard -/

section Hosts

variable [DecimalDigits]

def withoutPort (host : List Char) : List Char :=
  let front := host.rdropWhile DecimalDigits.isDecimal
  if front.length < host.length ∧ front.getLast? = some ':' then front.dropLast else host

def withoutPeriod (host : List Char) : List Char :=
  if host.getLast? = some '.' then host.dropLast else host

/-- A host without white space around it, a port, and a period at the end. -/
def bareHost (host : String) : List Char :=
  withoutPeriod (withoutPort (trimBy isWhiteSpace host.toList))

/-- What may stand after a hostname: a period, and a port. -/
inductive HostEnd : List Char → Prop where
  | empty : HostEnd []
  | period : HostEnd ['.']
  | port {digits : List Char} (hne : digits ≠ [])
      (hdigits : ∀ c ∈ digits, DecimalDigits.isDecimal c = true) : HostEnd (':' :: digits)
  | both {digits : List Char} (hne : digits ≠ [])
      (hdigits : ∀ c ∈ digits, DecimalDigits.isDecimal c = true) : HostEnd ('.' :: ':' :: digits)

variable {t x ending rest host : List Char} {c : Char}

theorem isDecimal_eq_false (hc : c.toNat < 128) (hdigit : c.isDigit = false) :
    DecimalDigits.isDecimal c = false := by
  rw [DecimalDigits.isDecimal_of_ascii c hc, hdigit]

theorem withoutPort_append_port {digits : List Char} (hne : digits ≠ [])
    (hdigits : ∀ c ∈ digits, DecimalDigits.isDecimal c = true) :
    withoutPort (host ++ ':' :: digits) = host := by
  have hcolon : DecimalDigits.isDecimal ':' = false := isDecimal_eq_false (by decide) (by decide)
  have hfront : (host ++ ':' :: digits).rdropWhile DecimalDigits.isDecimal = host ++ [':'] := by
    rw [show host ++ ':' :: digits = (host ++ [':']) ++ digits by simp,
      rdropWhile_append_of_all hdigits, List.rdropWhile_concat_neg _ _ _ (by simp [hcolon])]
  have hlength : 0 < digits.length := List.length_pos_iff.mpr hne
  rw [withoutPort, hfront, if_pos ⟨by simp; omega, by simp⟩, List.dropLast_concat]

/-- What ends with a letter that is no digit has no port. -/
theorem withoutPort_of_last (hc : DecimalDigits.isDecimal c = false) :
    withoutPort (host ++ [c]) = host ++ [c] := by
  rw [withoutPort, List.rdropWhile_concat_neg _ _ _ (by simp [hc]), if_neg fun h => by
    exact absurd h.1 (lt_irrefl _)]

theorem withoutPort_cases (host : List Char) : withoutPort host = host ∨
    ∃ digits, digits ≠ [] ∧ (∀ c ∈ digits, DecimalDigits.isDecimal c = true) ∧
      host = withoutPort host ++ ':' :: digits := by
  have hsplit := List.rdropWhile_append_rtakeWhile (p := DecimalDigits.isDecimal) (l := host)
  rw [withoutPort]
  split
  · rename_i h
    obtain ⟨before, hfront⟩ := List.getLast?_eq_some_iff.mp h.2
    refine .inr ⟨host.rtakeWhile DecimalDigits.isDecimal, ?_, fun c hc =>
      List.mem_rtakeWhile_imp hc, ?_⟩
    · intro hnil
      rw [hnil, List.append_nil] at hsplit
      exact absurd h.1 (by rw [hsplit]; exact lt_irrefl _)
    · rw [hfront, List.dropLast_concat, ← List.singleton_append, ← List.append_assoc, ← hfront,
        hsplit]
  · exact .inl rfl

omit [DecimalDigits] in
theorem withoutPeriod_cases (host : List Char) :
    withoutPeriod host = host ∨ host = withoutPeriod host ++ ['.'] := by
  rw [withoutPeriod]
  split
  · rename_i h
    obtain ⟨before, rfl⟩ := List.getLast?_eq_some_iff.mp h
    exact .inr (by rw [List.dropLast_concat])
  · exact .inl rfl

section Suffix

variable (ht : HostSuffix t)

include ht

omit [DecimalDigits] in
theorem HostSuffix.ne_nil : t ≠ [] := List.ne_nil_of_mem ht.period

/-- No digits at the end of a suffix stand after a colon. -/
theorem HostSuffix.withoutPort_append (x : List Char) : withoutPort (x ++ t) = x ++ t := by
  have hperiod : DecimalDigits.isDecimal '.' = false := isDecimal_eq_false (by decide) (by decide)
  have hfront : (x ++ t).rdropWhile DecimalDigits.isDecimal =
      x ++ t.rdropWhile DecimalDigits.isDecimal := by
    rw [List.rdropWhile, List.reverse_append, List.dropWhile_append, if_neg]
    · simp [List.rdropWhile]
    · rw [List.isEmpty_iff, List.dropWhile_eq_nil_iff]
      intro hall
      have hdecimal := hall '.' (List.mem_reverse.mpr ht.period)
      rw [hperiod] at hdecimal
      cases hdecimal
  have hne : t.rdropWhile DecimalDigits.isDecimal ≠ [] := by
    rw [Ne, List.rdropWhile_eq_nil_iff]
    intro hall
    have hdecimal := hall '.' ht.period
    rw [hperiod] at hdecimal
    cases hdecimal
  rw [withoutPort, hfront, if_neg]
  rintro ⟨-, hcolon⟩
  rw [List.getLast?_append_of_ne_nil _ hne] at hcolon
  have hmem := (List.rdropWhile_prefix _ t).subset (List.mem_of_getLast? hcolon)
  exact absurd (ht.chars ':' hmem) (by decide)

omit [DecimalDigits] in
theorem HostSuffix.withoutPeriod_append (x : List Char) : withoutPeriod (x ++ t) = x ++ t := by
  rw [withoutPeriod, if_neg]
  rw [List.getLast?_append_of_ne_nil x ht.ne_nil]
  exact fun h => ht.last '.' h rfl

theorem HostSuffix.bare_iff : withoutPeriod (withoutPort host) = x ++ t ↔
    ∃ ending, HostEnd ending ∧ host = x ++ t ++ ending := by
  constructor
  · intro h
    obtain hport | ⟨digits, hne, hdigits, hport⟩ := withoutPort_cases host
    · rw [hport] at h
      obtain hperiod | hperiod := withoutPeriod_cases host
      · exact ⟨[], .empty, by rw [← h, hperiod, List.append_nil]⟩
      · exact ⟨['.'], .period, by rw [← h]; exact hperiod⟩
    · obtain hperiod | hperiod := withoutPeriod_cases (withoutPort host)
      · rw [hperiod] at h
        exact ⟨_, .port hne hdigits, by rw [← h]; exact hport⟩
      · rw [hperiod, h] at hport
        exact ⟨_, .both hne hdigits, by rw [hport]; simp⟩
  · rintro ⟨ending, hending, rfl⟩
    cases hending with
    | empty => rw [List.append_nil, ht.withoutPort_append, ht.withoutPeriod_append]
    | period =>
      rw [withoutPort_of_last (isDecimal_eq_false (by decide) (by decide)), withoutPeriod,
        if_pos (by simp), List.dropLast_concat]
    | port hne hdigits =>
      rw [withoutPort_append_port hne hdigits, ht.withoutPeriod_append]
    | @both digits hne hdigits =>
      have hassoc : x ++ t ++ '.' :: ':' :: digits = x ++ t ++ ['.'] ++ ':' :: digits := by simp
      rw [hassoc, withoutPort_append_port hne hdigits, withoutPeriod, if_pos (by simp),
        List.dropLast_concat]

omit [DecimalDigits] in
theorem HostSuffix.not_isWhiteSpace (hc : c ∈ t) : isWhiteSpace c = false := by
  obtain rfl | hlabel := ht.chars c hc
  · rfl
  · exact isWhiteSpace_of_isLabelChar hlabel

omit ht in
theorem HostEnd.not_isWhiteSpace (h : HostEnd ending) :
    ∀ c ∈ ending, isWhiteSpace c = false := by
  have hport : ∀ {digits : List Char}, (∀ c ∈ digits, DecimalDigits.isDecimal c = true) →
      ∀ c ∈ ':' :: digits, isWhiteSpace c = false := fun hdigits =>
    List.forall_mem_cons.mpr ⟨rfl, fun c hc => DecimalDigits.not_isWhiteSpace c (hdigits c hc)⟩
  cases h with
  | empty => simp
  | period => simp [isWhiteSpace]
  | port _ hdigits => exact hport hdigits
  | both _ hdigits => exact List.forall_mem_cons.mpr ⟨rfl, hport hdigits⟩

theorem HostSuffix.trimmed (hending : HostEnd ending)
    (hhead : ∀ c ∈ (x ++ t).head?, isWhiteSpace c = false) :
    Trimmed isWhiteSpace (x ++ t ++ ending) := by
  have hne : x ++ t ≠ [] := fun h => ht.ne_nil (List.append_eq_nil_iff.mp h).2
  constructor
  · intro c hc
    rw [List.head?_append_of_ne_nil _ hne] at hc
    exact hhead c hc
  · intro c hc
    rw [List.append_assoc, List.getLast?_append_of_ne_nil x fun h =>
      ht.ne_nil (List.append_eq_nil_iff.mp h).1] at hc
    obtain hmem | hmem := List.mem_append.mp (List.mem_of_getLast? hc)
    · exact ht.not_isWhiteSpace hmem
    · exact hending.not_isWhiteSpace c hmem

/-- A host is bare after the white space, the port and the period are gone. -/
theorem HostSuffix.bareHost_iff {host : String} : bareHost host = x ++ t ↔
    ∃ before ending after, HostEnd ending ∧ host.toList = before ++ (x ++ t ++ ending) ++ after ∧
      (∀ c ∈ before, isWhiteSpace c = true) ∧ (∀ c ∈ after, isWhiteSpace c = true) ∧
      ∀ c ∈ (x ++ t).head?, isWhiteSpace c = false := by
  have hne : x ++ t ≠ [] := fun h => ht.ne_nil (List.append_eq_nil_iff.mp h).2
  constructor
  · intro h
    obtain ⟨before, after, hhost, hbefore, hafter⟩ := exists_eq_trimBy isWhiteSpace host.toList
    obtain ⟨ending, hending, hbare⟩ := ht.bare_iff.mp h
    have htrimmed := trimmed_trimBy (p := isWhiteSpace) host.toList
    rw [hbare] at hhost htrimmed
    refine ⟨before, ending, after, hending, hhost, hbefore, hafter, fun c hc => htrimmed.1 c ?_⟩
    rwa [List.head?_append_of_ne_nil _ hne]
  · rintro ⟨before, ending, after, hending, hhost, hbefore, hafter, hhead⟩
    refine ht.bare_iff.mpr ⟨ending, hending, ?_⟩
    rw [hhost, trimBy_eq hbefore (ht.trimmed hending hhead) hafter]

end Suffix

end Hosts

/-! ### What the expression of a pattern finds -/

section Finding

variable [DecimalDigits] {t x x' u u' y : List Char} {s s' : Cursor}

theorem mem_language_spaces {w : List Char} :
    w ∈ spaces.language ↔ ∀ c ∈ w, isWhiteSpace c = true := by
  rw [spaces, mem_language_star_set]
  simp [CharClass.has, ClassItem.has]

theorem mem_language_wildcard {w : List Char} :
    w ∈ wildcard.language ↔ w ≠ [] ∧ '.' ∉ w := by
  have hlanguage : wildcard.language = (Regex.plus (.set ⟨true, [.range '.' '.']⟩)).language :=
    mul_one _
  have hhas : ∀ c, CharClass.has ⟨true, [.range '.' '.']⟩ c = true ↔ c ≠ '.' := fun c => by
    have hbounds : ('.' ≤ c ∧ c ≤ '.') ↔ c = '.' :=
      ⟨fun h => Char.le_antisymm h.2 h.1, by rintro rfl; decide⟩
    have hrange : ClassItem.has (.range '.' '.') c = decide (c = '.') := by
      rw [Bool.eq_iff_iff]
      simp [ClassItem.has, ← hbounds]
    simp [CharClass.has, hrange]
  rw [hlanguage, mem_language_plus_set]
  refine and_congr_right fun _ => ⟨fun h hmem => (hhas '.').mp (h '.' hmem) rfl, fun h c hc => ?_⟩
  exact (hhas c).mpr fun heq => h (heq ▸ hc)

theorem mem_language_port {w : List Char} : w ∈ port.language ↔ (∃ digits, digits ≠ [] ∧
    (∀ c ∈ digits, DecimalDigits.isDecimal c = true) ∧ ':' :: digits = w) ∨ w = [] := by
  have hdecimal : ∀ c, CharClass.has ⟨false, [.decimal]⟩ c = DecimalDigits.isDecimal c := by
    intro c
    simp [CharClass.has, ClassItem.has]
  rw [port, Regex.language, language_seqOf_cons, language_seqOf_cons, language_seqOf_nil, mul_one,
    language_literal, Language.mem_add, Language.mem_mul]
  refine or_congr ⟨?_, ?_⟩ Iff.rfl
  · rintro ⟨_, rfl, digits, hdigits, rfl⟩
    obtain ⟨hne, hall⟩ := mem_language_plus_set.mp hdigits
    exact ⟨digits, hne, fun c hc => hdecimal c ▸ hall c hc, rfl⟩
  · rintro ⟨digits, hne, hall, rfl⟩
    refine ⟨[':'], rfl, digits, mem_language_plus_set.mpr ⟨hne, fun c hc => ?_⟩, rfl⟩
    exact (hdecimal c).trans (hall c hc)

theorem mem_language_hostEnd {w : List Char} :
    w ∈ period.language * port.language ↔ HostEnd w := by
  rw [period, Regex.language, language_literal, Language.mem_mul]
  constructor
  · rintro ⟨_, hperiod, w, hw, rfl⟩
    obtain rfl | rfl := hperiod
    · obtain ⟨digits, hne, hdigits, rfl⟩ | rfl := mem_language_port.mp hw
      · exact .both hne hdigits
      · exact .period
    · obtain ⟨digits, hne, hdigits, rfl⟩ | rfl := mem_language_port.mp hw
      · exact .port hne hdigits
      · exact .empty
  · intro h
    cases h with
    | empty => exact ⟨[], .inr rfl, [], mem_language_port.mpr (.inr rfl), rfl⟩
    | period => exact ⟨['.'], .inl rfl, [], mem_language_port.mpr (.inr rfl), rfl⟩
    | @port digits hne hdigits =>
      exact ⟨[], .inr rfl, _, mem_language_port.mpr (.inl ⟨digits, hne, hdigits, rfl⟩), rfl⟩
    | @both digits hne hdigits =>
      exact ⟨['.'], .inl rfl, _, mem_language_port.mpr (.inl ⟨digits, hne, hdigits, rfl⟩), rfl⟩

theorem mem_language_rest {t w : List Char} :
    w ∈ (Regex.seqOf (t.map .literal ++ [period, port, spaces])).language ↔
      ∃ ending after, HostEnd ending ∧ (∀ c ∈ after, isWhiteSpace c = true) ∧
        t ++ (ending ++ after) = w := by
  rw [language_seqOf_literals, language_seqOf_cons, language_seqOf_cons, language_seqOf_cons,
    language_seqOf_nil, mul_one, ← mul_assoc period.language, Language.mem_mul]
  constructor
  · rintro ⟨_, rfl, _, hrest, rfl⟩
    obtain ⟨ending, hending, after, hafter, rfl⟩ := Language.mem_mul.mp hrest
    exact ⟨ending, after, mem_language_hostEnd.mp hending, mem_language_spaces.mp hafter, rfl⟩
  · rintro ⟨ending, after, hending, hafter, rfl⟩
    exact ⟨t, rfl, _, Language.append_mem_mul (mem_language_hostEnd.mpr hending)
      (mem_language_spaces.mpr hafter), rfl⟩

omit [DecimalDigits] in
theorem isPlain_rest (t : List Char) :
    (Regex.seqOf (t.map .literal ++ [period, port, spaces])).IsPlain := by
  refine Regex.isPlain_seqOf fun item hitem => ?_
  obtain hliteral | hending := List.mem_append.mp hitem
  · obtain ⟨c, -, rfl⟩ := List.mem_map.mp hliteral
    trivial
  · obtain rfl | rfl | rfl := by simpa using hending
    · trivial
    · exact ⟨trivial, ⟨trivial, trivial⟩, trivial⟩
    · trivial

/-- Every way in which the items match, from some place in the host on. -/
theorem hostItems_matches {n : ℕ} :
    (Regex.seqOf (hostItems t ++ [.endOfText])).Matches ⟨n, y, []⟩ s' ↔
      ∃ x ending after, x ≠ [] ∧ '.' ∉ x ∧ HostEnd ending ∧
        (∀ c ∈ after, isWhiteSpace c = true) ∧ y = x ++ t ++ ending ++ after ∧
          s' = ⟨n + y.length, [], [(1, x)]⟩ := by
  have hplain : (Regex.seqOf [.plus (.set ⟨true, [.range '.' '.']⟩)]).IsPlain :=
    ⟨⟨trivial, trivial⟩, trivial⟩
  rw [matches_seqOf_end]
  constructor
  · rintro ⟨⟨_, hwildcard, hrest⟩, hend⟩
    obtain ⟨x, rest, hx, hy, rfl⟩ := hplain.matches_group_iff.mp hwildcard
    obtain ⟨w, rest', hw, hrest', rfl⟩ := (isPlain_rest t).matches_iff.mp hrest
    obtain ⟨hne, hperiod⟩ := mem_language_wildcard.mp hx
    obtain ⟨ending, after, hending, hafter, rfl⟩ := mem_language_rest.mp hw
    obtain rfl : rest' = [] := hend
    obtain rfl : rest = t ++ (ending ++ after) ++ [] := hrest'
    obtain rfl : y = x ++ (t ++ (ending ++ after) ++ []) := hy
    refine ⟨x, ending, after, hne, hperiod, hending, hafter, by simp, ?_⟩
    simp [Nat.add_assoc]
  · rintro ⟨x, ending, after, hne, hperiod, hending, hafter, rfl, rfl⟩
    refine ⟨⟨⟨n + x.length, t ++ (ending ++ after), [(1, x)]⟩, ?_, ?_⟩, rfl⟩
    · exact hplain.matches_group_iff.mpr ⟨x, t ++ (ending ++ after),
        mem_language_wildcard.mpr ⟨hne, hperiod⟩, by simp, rfl⟩
    · exact (isPlain_rest t).matches_iff.mpr ⟨t ++ (ending ++ after), [],
        mem_language_rest.mpr ⟨ending, after, hending, hafter, rfl⟩, by simp,
        by simp [Nat.add_assoc]⟩

omit [DecimalDigits] in
/-- The text before the first period of a suffix ends the part before the first period of a host. -/
theorem HostSuffix.unique (ht : HostSuffix t) (hx : '.' ∉ x) (hx' : '.' ∉ x')
    (h : x ++ t ++ u = x' ++ t ++ u') : x = x' := by
  obtain ⟨first, others, rfl, hfirst⟩ := List.eq_append_cons_of_mem ht.period
  have hspan : ∀ {x u : List Char}, '.' ∉ x →
      ((x ++ (first ++ '.' :: others) ++ u).span (· ≠ '.')).1 = x ++ first := by
    intro x u hx
    have hnot : '.' ∉ x ++ first := fun h => (List.mem_append.mp h).elim hx hfirst
    have hassoc : x ++ (first ++ '.' :: others) ++ u = x ++ first ++ '.' :: (others ++ u) := by simp
    rw [hassoc, span_ne_append hnot]
  have hfront : x ++ first = x' ++ first := by rw [← hspan (u := u) hx, h, hspan hx']
  exact List.append_cancel_right hfront

variable {host : String} {groups : List (ℕ × List Char)}

theorem captures_eq : (Regex.anchored (spaces :: hostItems t)).captures host =
    (spaces.run ((Regex.seqOf (hostItems t ++ [.endOfText])).run some) ⟨0, host.toList, []⟩).map
      Cursor.groups := captures_anchored

/-- What is found stands before the suffix, after white space. -/
theorem captures_sound (h : (Regex.anchored (spaces :: hostItems t)).captures host = some groups) :
    ∃ before x ending after, (∀ c ∈ before, isWhiteSpace c = true) ∧ x ≠ [] ∧ '.' ∉ x ∧
      HostEnd ending ∧ (∀ c ∈ after, isWhiteSpace c = true) ∧
        host.toList = before ++ (x ++ t ++ ending ++ after) ∧ groups = [(1, x)] := by
  rw [captures_eq] at h
  obtain ⟨s', hrun, rfl⟩ := Option.map_eq_some_iff.mp h
  obtain ⟨m, hm, hitems⟩ := spaces.run_sound hrun
  obtain ⟨before, hbefore, hreads⟩ := hm.reads
  have hgroups : m.groups = [] := Regex.IsPlain.groups_eq (r := spaces) trivial hm
  obtain ⟨n, y, groups⟩ := m
  obtain rfl : groups = [] := hgroups
  obtain ⟨x, ending, after, hne, hperiod, hending, hafter, rfl, rfl⟩ :=
    hostItems_matches.mp (Regex.run_some hitems)
  exact ⟨before, x, ending, after, mem_language_spaces.mp hbefore, hne, hperiod, hending, hafter,
    hreads.rest, rfl⟩

theorem captures_complete {before ending after : List Char}
    (hbefore : ∀ c ∈ before, isWhiteSpace c = true) (hne : x ≠ []) (hperiod : '.' ∉ x)
    (hending : HostEnd ending) (hafter : ∀ c ∈ after, isWhiteSpace c = true)
    (hhost : host.toList = before ++ (x ++ t ++ ending ++ after)) :
    ∃ groups, (Regex.anchored (spaces :: hostItems t)).captures host = some groups := by
  have hspaces := Regex.IsPlain.matches_of_mem (r := spaces) trivial
    (mem_language_spaces.mpr hbefore) 0 (x ++ t ++ ending ++ after) []
  have hitems := (hostItems_matches (t := t) (n := 0 + before.length)).mpr
    ⟨x, ending, after, hne, hperiod, hending, hafter, rfl, rfl⟩
  rw [← hhost] at hspaces
  obtain ⟨s', hrun⟩ := Regex.exists_run_some
    (r := .seq spaces (.seqOf (hostItems t ++ [.endOfText]))) ⟨_, hspaces, hitems⟩
  refine ⟨s'.groups, ?_⟩
  rw [captures_eq]
  exact congrArg (Option.map Cursor.groups) hrun

/-- All white space at the start is passed if the rest is a host of the wildcard. -/
theorem captures_bare (ht : HostSuffix t) (hne : x ≠ []) (hperiod : '.' ∉ x)
    (hbare : bareHost host = x ++ t) :
    (Regex.anchored (spaces :: hostItems t)).captures host = some [(1, x)] := by
  obtain ⟨before, ending, after, hending, hhost, hbefore, hafter, hhead⟩ := ht.bareHost_iff.mp hbare
  rw [List.append_assoc] at hhost
  have hitems := (hostItems_matches (t := t) (n := 0 + before.length)).mpr
    ⟨x, ending, after, hne, hperiod, hending, hafter, rfl, rfl⟩
  obtain ⟨s', hrun⟩ := Regex.exists_run_some hitems
  obtain ⟨x', ending', after', -, hperiod', -, -, hy, rfl⟩ :=
    hostItems_matches.mp (Regex.run_some hrun)
  obtain rfl : x = x' := by
    rw [List.append_assoc _ ending, List.append_assoc _ ending'] at hy
    exact ht.unique hperiod hperiod' hy
  have hspaces : ∀ c ∈ before, CharClass.has ⟨false, [.whiteSpace]⟩ c = true := fun c hc => by
    simpa [CharClass.has, ClassItem.has] using hbefore c hc
  have hnext : ∀ c ∈ (x ++ t ++ ending ++ after).head?,
      CharClass.has ⟨false, [.whiteSpace]⟩ c = false := by
    intro c hc
    rw [List.append_assoc _ ending, List.head?_append_of_ne_nil _ fun h =>
      hne (List.append_eq_nil_iff.mp h).1] at hc
    simpa [CharClass.has, ClassItem.has] using hhead c hc
  rw [captures_eq, hhost]
  exact congrArg (Option.map Cursor.groups) (starRun_set hspaces hnext le_rfl hrun)

end Finding

/-! ### Subdomains -/

section Subdomains

variable [DecimalDigits]

/-- What a pattern is to find: text without periods, with the suffix after it. -/
structure IsSubdomain (suffix : List Char) (host x : String) : Prop where
  ne_empty : x ≠ ""
  no_period : '.' ∉ x.toList
  bare : bareHost host = x.toList ++ suffix

/-- The white space before a host that is nothing but the suffix. -/
def OnlySuffix (suffix : List Char) (host : String) : Prop :=
  (∃ c ∈ host.toList.head?, isWhiteSpace c = true) ∧ bareHost host = suffix

variable {t : List Char} {re : Regex} {host x : String}

theorem execute_of_captures {text : List Char} (h : re.captures host = some [(1, text)]) :
    executeHostnamePattern re host = some (String.ofList text) := by
  rw [executeHostnamePattern, h]
  rfl

theorem IsSubdomain.execute (ht : HostSuffix t) (h : IsSubdomain t host x) :
    executeHostnamePattern (.anchored (spaces :: hostItems t)) host = some x := by
  have hne : x.toList ≠ [] := fun hnil => h.ne_empty (String.toList_eq_nil_iff.mp hnil)
  rw [execute_of_captures (captures_bare ht hne h.no_period h.bare), String.ofList_toList]

theorem exists_execute_of_onlySuffix (ht : HostSuffix t) (h : OnlySuffix t host) :
    ∃ x, executeHostnamePattern (.anchored (spaces :: hostItems t)) host = some x := by
  obtain ⟨⟨c, hc, hwhite⟩, hbare⟩ := h
  obtain ⟨before, ending, after, hending, hhost, hbefore, hafter, hhead⟩ :=
    (ht.bareHost_iff (x := [])).mp hbare
  obtain rfl | ⟨u, d, rfl⟩ := List.eq_nil_or_concat before
  · rw [hhost, List.nil_append, List.append_assoc, List.append_assoc, List.nil_append,
      List.head?_append_of_ne_nil t ht.ne_nil] at hc
    rw [hhead c hc] at hwhite
    cases hwhite
  · -- the last of the white space is taken for the text of the wildcard
    have hd : '.' ∉ [d] := by
      rw [List.mem_singleton]
      rintro rfl
      exact absurd (hbefore '.' (by simp)) (by decide)
    have hu : ∀ c ∈ u, isWhiteSpace c = true := fun c hc => hbefore c (by simp [hc])
    have hsplit : host.toList = u ++ ([d] ++ t ++ ending ++ after) := by
      rw [hhost]
      simp
    obtain ⟨groups, hcaptures⟩ := captures_complete hu (by simp) hd hending hafter hsplit
    obtain ⟨_, x, _, _, -, -, -, -, -, -, rfl⟩ := captures_sound hcaptures
    exact ⟨_, execute_of_captures hcaptures⟩

theorem exists_isSubdomain_or_onlySuffix (ht : HostSuffix t)
    (h : executeHostnamePattern (.anchored (spaces :: hostItems t)) host = some x) :
    (∃ x', IsSubdomain t host x') ∨ OnlySuffix t host := by
  obtain ⟨groups, hcaptures, -⟩ := Option.bind_eq_some_iff.mp h
  obtain ⟨before, text, ending, after, hbefore, hne, hperiod, hending, hafter, hhost, -⟩ :=
    captures_sound hcaptures
  by_cases hall : ∀ c ∈ text, isWhiteSpace c = true
  · have hwhite : ∀ c ∈ before ++ text, isWhiteSpace c = true := fun c hc =>
      (List.mem_append.mp hc).elim (hbefore c) (hall c)
    have hspace : before ++ text ≠ [] := fun hnil => hne (List.append_eq_nil_iff.mp hnil).2
    obtain ⟨c, hc⟩ := Option.ne_none_iff_exists'.mp (mt List.head?_eq_none_iff.mp hspace)
    refine .inr ⟨⟨c, ?_, hwhite c (List.mem_of_mem_head? hc)⟩, ?_⟩
    · rw [hhost, List.append_assoc, List.append_assoc, ← List.append_assoc before,
        List.head?_append_of_ne_nil _ hspace]
      exact hc
    · refine (ht.bareHost_iff (x := [])).mpr ⟨before ++ text, ending, after, hending,
        by rw [hhost]; simp, hwhite, hafter, fun c hc => ?_⟩
      exact ht.not_isWhiteSpace (List.mem_of_mem_head? hc)
  · have hsplit := List.takeWhile_append_dropWhile (p := isWhiteSpace) (l := text)
    have hrest : text.dropWhile isWhiteSpace ≠ [] := fun hnil =>
      hall (List.dropWhile_eq_nil_iff.mp hnil)
    have hbare : bareHost host = text.dropWhile isWhiteSpace ++ t := by
      refine ht.bareHost_iff.mpr ⟨before ++ text.takeWhile isWhiteSpace, ending, after, hending, ?_,
        ?_, hafter, fun c hc => ?_⟩
      · rw [hhost]
        simp only [List.append_assoc]
        rw [← List.append_assoc (text.takeWhile _), hsplit]
      · intro c hc
        exact (List.mem_append.mp hc).elim (hbefore c) List.mem_takeWhile_imp
      · rw [List.head?_append_of_ne_nil _ hrest] at hc
        have hnot := List.head?_dropWhile_not isWhiteSpace text
        rw [show _ = some c from hc] at hnot
        exact hnot
    refine .inl ⟨String.ofList (text.dropWhile isWhiteSpace), ?_, ?_, ?_⟩
    · intro hempty
      exact hrest (by rw [← String.toList_ofList (l := text.dropWhile _), hempty]; rfl)
    · rw [String.toList_ofList]
      exact fun hmem => hperiod ((List.dropWhile_suffix _).subset hmem)
    · rwa [String.toList_ofList]

end Subdomains

section Exact

variable [DebugText] [DecimalDigits] {lowercase syntaxError : String → String} {pattern : String}
  {re : Regex}

/-- A pattern finds exactly its own subdomains in a host, unless the host is the bare suffix after
white space. -/
theorem executeHostnamePattern_exact_iff
    (h : compileHostnamePattern lowercase syntaxError pattern = .ok re) (host : String) :
    (∀ x, executeHostnamePattern re host = some x ↔
      IsSubdomain (patternSuffix lowercase pattern) host x) ↔
        ¬ OnlySuffix (patternSuffix lowercase pattern) host := by
  obtain ⟨ht, rfl⟩ := compileHostnamePattern_eq_ok h
  constructor
  · intro hexact honly
    obtain ⟨x, hx⟩ := exists_execute_of_onlySuffix ht honly
    have hsub := (hexact x).mp hx
    have hnil := hsub.bare.symm.trans honly.2
    exact hsub.ne_empty (String.toList_eq_nil_iff.mp (List.append_left_eq_self.mp hnil))
  · intro honly x
    constructor
    · intro hx
      obtain ⟨x', hsub⟩ := (exists_isSubdomain_or_onlySuffix ht hx).resolve_right honly
      have heq : x = x' := Option.some.inj (hx.symm.trans (hsub.execute ht))
      rwa [heq]
    · exact fun hsub => hsub.execute ht

end Exact

section Example

@[reducible] def asciiDigits : DecimalDigits where
  isDecimal := Char.isDigit
  isDecimal_of_ascii _ _ := rfl
  not_isWhiteSpace _ hc := isWhiteSpace_of_isLabelChar (by simp [isLabelChar, hc])

/-- The expression of `*.example.com`. -/
def exampleWildcard : Regex := .anchored (spaces :: hostItems ".example.com".toList)

theorem compileHostnamePattern_example :
    @compileHostnamePattern ⟨String.quote⟩ asciiDigits String.toLower id "*.example.com" =
      .ok exampleWildcard := by
  decide +kernel

theorem executeHostnamePattern_exact_iff_dean :
    @executeHostnamePattern asciiDigits exampleWildcard " myapp--dev--dean.example.com.:8080" =
      some "myapp--dev--dean" := by
  have hexact := @executeHostnamePattern_exact_iff ⟨String.quote⟩ asciiDigits String.toLower id
    "*.example.com" exampleWildcard compileHostnamePattern_example
    " myapp--dev--dean.example.com.:8080"
  have hbare : @bareHost asciiDigits " myapp--dev--dean.example.com.:8080" ≠
      patternSuffix String.toLower "*.example.com" := by
    decide +kernel
  have hfinds := hexact.mpr fun h => hbare h.2
  exact (hfinds "myapp--dev--dean").mpr
    (@IsSubdomain.mk asciiDigits _ _ _ (by decide) (by decide +kernel) (by decide +kernel))

/-- A host that is white space and the suffix has no subdomain, but a space is found. -/
theorem executeHostnamePattern_space :
    @compileHostnamePattern ⟨String.quote⟩ asciiDigits String.toLower id "*.example.com" =
        .ok exampleWildcard ∧
      @executeHostnamePattern asciiDigits exampleWildcard " .example.com" = some " " ∧
      ¬ @IsSubdomain asciiDigits (patternSuffix String.toLower "*.example.com") " .example.com"
        " " := by
  refine ⟨compileHostnamePattern_example, by decide +kernel, fun h => ?_⟩
  exact absurd (@IsSubdomain.bare asciiDigits _ _ _ h) (by decide +kernel)

end Example

end Coderd.WorkspaceApps
