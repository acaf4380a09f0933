import Coderd.Foundation.AsciiCase
import Coderd.Foundation.RegexMatches
import Coderd.Foundation.Replace
import Coderd.Foundation.Texts
import Coderd.Foundation.Trim
import Coderd.WorkspaceApps.Names

namespace Coderd.WorkspaceApps

open Coderd.Foundation

/-! ## Wildcard hostnames -/

/-- `VALID_HOSTNAME_LABEL`. -/
def validHostnameLabelPattern : String := "^[a-z0-9]([-a-z0-9]*[a-z0-9])?$"

theorem validHostnameLabelPattern_compiles :
    (Regex.parse validHostnameLabelPattern).isSome = true := by
  decide +kernel

def validHostnameLabel : Regex :=
  (Regex.parse validHostnameLabelPattern).get validHostnameLabelPattern_compiles

def containsText (text part : String) : Bool := part.toList <:+: text.toList

def startsWith (text start : String) : Bool := start.toList.isPrefixOf text.toList

/-- `str::replacen` with the count 1. -/
def replaceFirst (c : Char) (value : List Char) : List Char → List Char
  | [] => []
  | d :: cs => if d = c then value ++ cs else d :: replaceFirst c value cs

/-- The pattern without a colon and the digits after it, of which there may be none. -/
def stripPort (pattern : String) : String :=
  match rsplitOnce pattern ':' with
  | some (host, port) => if port.toList.all Char.isDigit then host else pattern
  | none => pattern

/-- The asterisk stands for any text, such as a letter. -/
def checkLabel (label : String) (i : ℕ) : String :=
  if i = 0 then "a" ++ (stripStart "*" label).getD label else label

def hostnameRegexPattern (hostname : String) : String :=
  let escaped := replaceAll ['.'] ['\\', '.'] hostname.toList
  "^\\s*" ++ String.ofList (replaceFirst '*' "([^.]+)".toList escaped) ++ "\\.?(?::\\d+)?\\s*$"

def invalidPattern (message : String) : String := "invalid hostname pattern: " ++ message

section Compile

variable [DebugText] [DecimalDigits]

/-- `lowercase` is `str::to_lowercase`, and `syntaxError` the text of the error of `Regex::new`. -/
def compileHostnamePattern (lowercase syntaxError : String → String) (pattern : String) :
    Except String Regex :=
  let pattern := lowercase pattern
  if containsText pattern "http:" || containsText pattern "https:" then
    .error (invalidPattern ("hostname pattern must not contain a scheme: " ++ debug pattern))
  else if startsWith pattern "." || endsWith pattern "." then
    .error (invalidPattern
      ("hostname pattern must not start or end with a period: " ++ debug pattern))
  else if pattern.toList.count '.' < 1 then
    .error (invalidPattern
      ("hostname pattern must contain at least two labels/segments: " ++ debug pattern))
  else if pattern.toList.count '*' ≠ 1 then
    .error (invalidPattern
      ("hostname pattern must contain exactly one asterisk: " ++ debug pattern))
  else if !startsWith pattern "*" then
    .error (invalidPattern
      ("hostname pattern must only contain an asterisk at the beginning: " ++ debug pattern))
  else
    let hostname := stripPort pattern
    let checked := (splitText hostname ".").mapIdx fun i label => checkLabel label i
    match checked.find? fun label => !validHostnameLabel.isMatch label with
    | some label =>
      .error (invalidPattern
        ("hostname pattern contains invalid label " ++ debug label ++ ": " ++ debug pattern))
    | none =>
      match Regex.parse (hostnameRegexPattern hostname) with
      | some regex => .ok regex
      | none =>
        .error (invalidPattern
          ("failed to compile regex: " ++ syntaxError (hostnameRegexPattern hostname)))

end Compile

section Execute

variable [DecimalDigits]

def executeHostnamePattern (pattern : Regex) (hostname : String) : Option String :=
  (pattern.captures hostname).bind fun caps => (caps.lookup 1).map String.ofList

end Execute

/-! ### The expression of a pattern -/

/-- The letters of the labels of a hostname. -/
def isLabelChar (c : Char) : Bool := c = '-' || c.isLower || c.isDigit

/-- What may stand after the asterisk: labels with periods between them, and one period at least. -/
structure HostSuffix (t : List Char) : Prop where
  chars : ∀ c ∈ t, c = '.' ∨ isLabelChar c = true
  period : '.' ∈ t
  last : ∀ c ∈ t.getLast?, c ≠ '.'

/-- The letters and digits, with the hyphen or without it. -/
def labelClass (hyphen : Bool) : CharClass :=
  ⟨false, [.range '0' '9', .range 'a' 'z'] ++ if hyphen then [.range '-' '-'] else []⟩

def labelItems : List Regex :=
  [.set (labelClass false),
    .opt (.group 1 (.seqOf [.star (.set (labelClass true)), .set (labelClass false)]))]

def spaces : Regex := .star (.set ⟨false, [.whiteSpace]⟩)

def wildcard : Regex := .group 1 (.seqOf [.plus (.set ⟨true, [.range '.' '.']⟩)])

def period : Regex := .opt (.literal '.')

def port : Regex := .opt (.seqOf [.literal ':', .plus (.set ⟨false, [.decimal]⟩)])

/-- What stands between the white space at the start and the end of a host. -/
def hostItems (t : List Char) : List Regex :=
  wildcard :: (t.map .literal ++ [period, port, spaces])

theorem validHostnameLabel_eq : validHostnameLabel = Regex.anchored labelItems := by
  have h : Regex.parse validHostnameLabelPattern = some (Regex.anchored labelItems) := by
    decide +kernel
  simp only [validHostnameLabel, h, Option.get_some]

theorem isWhiteSpace_of_isLabelChar {c : Char} (hc : isLabelChar c = true) :
    isWhiteSpace c = false := by
  have hcases : c.toNat = 45 ∨ (97 ≤ c.toNat ∧ c.toNat ≤ 122) ∨ 48 ≤ c.toNat ∧ c.toNat ≤ 57 := by
    rw [isLabelChar, Bool.or_eq_true, Bool.or_eq_true, isLower_iff, isDigit_iff] at hc
    obtain (hc | hc) | hc := hc
    · rw [of_decide_eq_true hc]
      exact .inl rfl
    · exact .inr (.inl hc)
    · exact .inr (.inr hc)
  simp only [isWhiteSpace, Bool.or_eq_false_iff, Bool.and_eq_false_iff, decide_eq_false_iff_not]
  omega

section Parsing

variable {c : Char} {t : List Char} {items : List Regex}

theorem plainStep_of_isLabelChar (hc : isLabelChar c = true) (r : RegexReader) :
    r.plainStep c = r.push (.literal c) := by
  unfold RegexReader.plainStep
  split
  all_goals first
    | rfl
    | exact absurd hc (by decide)

/-- Letters of labels stand for themselves, and so does a period after a backslash. -/
theorem foldlM_replaceAll (ht : ∀ c ∈ t, c = '.' ∨ isLabelChar c = true) (n : ℕ) :
    (replaceAll ['.'] ['\\', '.'] t).foldlM RegexReader.step ⟨.plain, [⟨none, items⟩], n, []⟩ =
      some ⟨.plain, [⟨none, (t.map Regex.literal).reverse ++ items⟩], n, []⟩ := by
  induction t generalizing items with
  | nil => rfl
  | cons c t ih =>
    obtain ⟨hc, hrest⟩ := List.forall_mem_cons.mp ht
    have hitems : ((c :: t).map Regex.literal).reverse ++ items =
        (t.map Regex.literal).reverse ++ Regex.literal c :: items := by
      simp
    rw [hitems]
    obtain rfl | hc := hc
    · rw [show '.' :: t = ['.'] ++ t from rfl, replaceAll_append_pattern (by simp)]
      exact ih hrest
    · have hne : ¬ ['.'] <+: c :: t := by
        rintro ⟨rest, hrest⟩
        rw [← (List.cons.inj hrest).1] at hc
        exact absurd hc (by decide)
      rw [replaceAll_cons_of_not_start hne, List.foldlM_cons]
      simp only [RegexReader.step, plainStep_of_isLabelChar hc]
      exact ih hrest

theorem parse_hostnameRegexPattern (ht : ∀ c ∈ t, c = '.' ∨ isLabelChar c = true) :
    Regex.parse (hostnameRegexPattern (String.ofList ('*' :: t))) =
      some (.anchored (spaces :: hostItems t)) := by
  have hpattern : (hostnameRegexPattern (String.ofList ('*' :: t))).toList =
      "^\\s*([^.]+)".toList ++
        (replaceAll ['.'] ['\\', '.'] t ++ "\\.?(?::\\d+)?\\s*$".toList) := by
    have hasterisk : ¬ ['.'] <+: '*' :: t := fun h =>
      absurd (List.cons_prefix_cons.mp h).1 (by decide)
    simp [hostnameRegexPattern, replaceAll_cons_of_not_start hasterisk, replaceFirst]
  have hstart : "^\\s*([^.]+)".toList.foldlM RegexReader.step RegexReader.init =
      some ⟨.plain, [⟨none, [wildcard, spaces, .startOfText]⟩], 2, []⟩ := by
    decide +kernel
  have hend : ∀ items, "\\.?(?::\\d+)?\\s*$".toList.foldlM RegexReader.step
      ⟨.plain, [⟨none, items⟩], 2, []⟩ =
        some ⟨.plain, [⟨none, .endOfText :: spaces :: port :: period :: items⟩], 2, []⟩ :=
    fun _ => rfl
  rw [Regex.parse, Regex.read, hpattern, List.foldlM_append, hstart, Option.bind_eq_bind,
    Option.bind_some, List.foldlM_append, foldlM_replaceAll ht, Option.bind_eq_bind,
    Option.bind_some, hend]
  simp [RegexReader.finish, RegexFrame.regex, Regex.anchored, hostItems]

end Parsing

/-! ### Accepted patterns -/

section Labels

variable [DecimalDigits] {c : Char} {hyphen : Bool} {label : String}

theorem isLabelChar_of_has (h : (labelClass hyphen).has c = true) : isLabelChar c = true := by
  have hany : (ClassItem.range '0' '9').has c = true ∨ (ClassItem.range 'a' 'z').has c = true ∨
      (ClassItem.range '-' '-').has c = true := by
    rw [CharClass.has, labelClass, Bool.false_bne] at h
    cases hyphen with
    | false => exact (by simpa using h : _ ∨ _).imp_right .inl
    | true => simpa using h
  rw [isLabelChar, Bool.or_eq_true, Bool.or_eq_true, isLower_iff, isDigit_iff, decide_eq_true_iff]
  obtain h | h | h := hany
  · exact .inr (ClassItem.has_range.mp h)
  · exact .inl (.inr (ClassItem.has_range.mp h))
  · have hbounds := ClassItem.has_range.mp h
    exact .inl (.inl (Char.toNat_inj.mp (Nat.le_antisymm hbounds.2 hbounds.1)))

theorem isWord_of_isMatch (h : validHostnameLabel.isMatch label = true) :
    IsWord isLabelChar label.toList := by
  rw [validHostnameLabel_eq] at h
  have hmem := mem_language_of_isMatch h
  rw [labelItems, language_seqOf_cons, language_seqOf_cons, language_seqOf_nil, mul_one] at hmem
  obtain ⟨_, ⟨c, hc, rfl⟩, w, hw, hlabel⟩ := Language.mem_mul.mp hmem
  have hletters : ∀ a ∈ w, isLabelChar a = true := by
    intro a ha
    obtain hw | hw := hw
    · obtain ⟨u, hu, v, hv, rfl⟩ := Language.mem_mul.mp hw
      obtain ⟨_, ⟨d, hd, rfl⟩, _, rfl, rfl⟩ := Language.mem_mul.mp hv
      obtain ha | ha := List.mem_append.mp ha
      · exact isLabelChar_of_has (mem_language_star_set.mp hu a ha)
      · obtain rfl : a = d := by simpa using ha
        exact isLabelChar_of_has hd
    · obtain rfl : w = [] := hw
      cases ha
  rw [← hlabel]
  exact ⟨by simp, List.forall_mem_cons.mpr ⟨isLabelChar_of_has hc, hletters⟩⟩

omit [DecimalDigits] in
/-- The labels that are checked are those of the hostname with a letter for the asterisk. -/
theorem checkLabel_pieces (t : List Char) :
    (((splitText (String.ofList ('*' :: t)) ".").mapIdx fun i label => checkLabel label i).map
      String.toList) = ('a' :: t).splitOn '.' := by
  have hsplit : splitText (String.ofList ('*' :: t)) "." =
      (('*' :: t).splitOn '.').map String.ofList := by
    have h := splitText_singleton (String.ofList ('*' :: t)) '.'
    rwa [String.toList_ofList] at h
  rw [hsplit, List.splitOn_cons_eq_if_modifyHead, List.splitOn_cons_eq_if_modifyHead]
  cases hpieces : t.splitOn '.' with
  | nil => exact absurd hpieces (List.splitOn_ne_nil '.' t)
  | cons first pieces =>
    have hrest : ∀ labels : List String, labels.mapIdx (fun _ label => label) = labels :=
      fun labels => List.mapIdx_eq_iff.mpr fun i => by simp
    simp [checkLabel, stripStart, hrest, Function.comp_def]

end Labels

section Accepted

variable {lowercase syntaxError : String → String} {s pattern : String}
  {t : List Char} {re : Regex}

/-- The text after the asterisk of a pattern, without the port. -/
def patternSuffix (lowercase : String → String) (pattern : String) : List Char :=
  (stripPort (lowercase pattern)).toList.tail

theorem startsWith_iff {text start : String} :
    startsWith text start = true ↔ start.toList <+: text.toList := List.isPrefixOf_iff_prefix

/-- Neither the asterisk at the start nor a period goes with the port. -/
theorem stripPort_toList (hstart : startsWith s "*" = true) (hperiod : '.' ∈ s.toList) :
    (stripPort s).toList = '*' :: (stripPort s).toList.tail ∧ '.' ∈ (stripPort s).toList.tail := by
  obtain ⟨rest, hrest⟩ := startsWith_iff.mp hstart
  have hlist : s.toList = '*' :: rest := hrest.symm
  rw [hlist, List.mem_cons] at hperiod
  have hmem : '.' ∈ rest := hperiod.resolve_left (by decide)
  unfold stripPort
  cases hsplit : rsplitOnce s ':' with
  | none =>
    simp only [hlist, List.tail_cons, hmem, and_self]
  | some parts =>
    obtain ⟨host, port⟩ := parts
    dsimp only
    by_cases hdigits : port.toList.all Char.isDigit = true
    · rw [if_pos hdigits]
      have htext := rsplitOnce_eq_some hsplit
      rw [hlist] at htext
      cases hhost : host.toList with
      | nil =>
        rw [hhost] at htext
        exact absurd (List.cons.inj htext).1 (by decide)
      | cons c cs =>
        rw [hhost] at htext
        obtain ⟨rfl, rfl⟩ := List.cons.inj htext
        refine ⟨rfl, ?_⟩
        obtain h | h := List.mem_append.mp hmem
        · exact h
        · obtain h | h := List.mem_cons.mp h
          · exact absurd h (by decide)
          · exact absurd (List.all_eq_true.mp hdigits _ h) (by decide)
    · rw [if_neg hdigits]
      simp only [hlist, List.tail_cons, hmem, and_self]

variable [DecimalDigits]

theorem hostSuffix_of_labels (hperiod : '.' ∈ t)
    (h : ∀ label ∈ (splitText (String.ofList ('*' :: t)) ".").mapIdx
      (fun i label => checkLabel label i), validHostnameLabel.isMatch label = true) :
    HostSuffix t := by
  have hwords : ∀ piece ∈ ('a' :: t).splitOn '.', IsWord isLabelChar piece := by
    rw [← checkLabel_pieces]
    intro piece hpiece
    obtain ⟨label, hlabel, rfl⟩ := List.mem_map.mp hpiece
    exact isWord_of_isMatch (h label hlabel)
  have hseparated := (separated_iff_splitOn (by decide)).mpr hwords
  have hne : t ≠ [] := List.ne_nil_of_mem hperiod
  refine ⟨fun c hc => ?_, hperiod, fun c hc => ?_⟩
  · exact (hseparated.chars c (List.mem_cons_of_mem _ hc)).imp_left of_decide_eq_true
  · refine of_decide_eq_false (hseparated.last c ?_)
    rwa [List.getLast?_cons_of_ne_nil hne]

variable [DebugText]

/-- An accepted pattern is an asterisk with a suffix, and its expression is what it looks like. -/
theorem compileHostnamePattern_eq_ok
    (h : compileHostnamePattern lowercase syntaxError pattern = .ok re) :
    HostSuffix (patternSuffix lowercase pattern) ∧
      re = .anchored (spaces :: hostItems (patternSuffix lowercase pattern)) := by
  unfold compileHostnamePattern at h
  dsimp only at h
  split at h
  · cases h
  split at h
  · cases h
  split at h
  · cases h
  split at h
  · cases h
  split at h
  · cases h
  rename_i hperiod _ hstart
  have hmem : '.' ∈ (lowercase pattern).toList := List.count_pos_iff.mp (by omega)
  obtain ⟨hhost, hsuffix⟩ := stripPort_toList (by simpa using hstart) hmem
  have hstring : stripPort (lowercase pattern) =
      String.ofList ('*' :: patternSuffix lowercase pattern) := by
    rw [patternSuffix, ← hhost, String.ofList_toList]
  rw [hstring] at h
  cases hfind : ((splitText (String.ofList ('*' :: patternSuffix lowercase pattern)) ".").mapIdx
      fun i label => checkLabel label i).find? fun label => !validHostnameLabel.isMatch label with
  | some label =>
    rw [hfind] at h
    cases h
  | none =>
    have hlabels : HostSuffix (patternSuffix lowercase pattern) :=
      hostSuffix_of_labels hsuffix fun label hlabel => by
        simpa using List.find?_eq_none.mp hfind label hlabel
    rw [hfind, parse_hostnameRegexPattern hlabels.chars] at h
    exact ⟨hlabels, (Except.ok.inj h).symm⟩

end Accepted

end Coderd.WorkspaceApps
