import Coderd.Foundation.AsciiCase
import Coderd.Foundation.RegexMatches
import Coderd.WorkspaceApps.Subdomains

namespace Coderd.WorkspaceApps

open Coderd.Foundation

/-! ## The expressions of hostnames -/

namespace Expressions

def nameRegex : String := "[a-zA-Z0-9]+(?:-[a-zA-Z0-9]+)*"

def portPattern : String := "^\\d\x7b4,5\x7ds?$"

def appUrlPattern : String :=
  "^(?P<AppSlug>" ++ nameRegex ++ ")(?:--(?P<AgentName>" ++ nameRegex ++
    "))?--(?P<WorkspaceName>" ++ nameRegex ++ ")--(?P<Username>" ++ nameRegex ++ ")$"

/-! ### What the expressions are -/

def letters : CharClass := ⟨false, [.range '0' '9', .range 'A' 'Z', .range 'a' 'z']⟩

def nameItem : Regex :=
  .seqOf [.plus (.set letters), .star (.seqOf [.literal '-', .plus (.set letters)])]

def part (index : ℕ) : Regex := .group index nameItem

def hyphens (items : List Regex) : List Regex := .literal '-' :: .literal '-' :: items

def appUrlItems : List Regex :=
  part 1 :: .opt (.seqOf (hyphens [part 2])) :: hyphens (part 3 :: hyphens [part 4])

def portItems : List Regex :=
  [.between (.set ⟨false, [.decimal]⟩) 4 1, .opt (.literal 's')]

theorem parse_portPattern : Regex.parse portPattern = some (Regex.anchored portItems) := by
  decide +kernel

theorem read_appUrlPattern : Regex.read appUrlPattern =
    some ⟨.plain, [⟨none, (.startOfText :: (appUrlItems ++ [.endOfText])).reverse⟩], 5,
      [("Username", 4), ("WorkspaceName", 3), ("AgentName", 2), ("AppSlug", 1)]⟩ := by
  decide +kernel

theorem parse_appUrlPattern : Regex.parse appUrlPattern = some (Regex.anchored appUrlItems) := by
  rw [Regex.parse, read_appUrlPattern]
  rfl

theorem names_appUrlPattern : Regex.names appUrlPattern =
    [("Username", 4), ("WorkspaceName", 3), ("AgentName", 2), ("AppSlug", 1)] := by
  rw [Regex.names, read_appUrlPattern]
  rfl

theorem portPattern_compiles : (Regex.parse portPattern).isSome = true := by
  rw [parse_portPattern]
  rfl

theorem appUrlPattern_compiles : (Regex.parse appUrlPattern).isSome = true := by
  rw [parse_appUrlPattern]
  rfl

/-! ### The parser -/

def portRegex : Regex := (Regex.parse portPattern).get portPattern_compiles

def appUrlRegex : Regex := (Regex.parse appUrlPattern).get appUrlPattern_compiles

/-- `caps.name(..)`; a group that took no part in the match is empty. -/
def named (caps : List (ℕ × List Char)) (name : String) : String :=
  let captured := ((Regex.names appUrlPattern).lookup name).bind fun index => caps.lookup index
  (captured.map String.ofList).getD ""

def parseSubdomainAppUrl [DebugText] [DecimalDigits] (subdomain : String) :
    Except String ApplicationUrl :=
  let (appPrefix, rest) := splitAppPrefix subdomain
  match appUrlRegex.captures rest with
  | none => .error ("invalid application URL format: " ++ debug subdomain)
  | some caps =>
    let appSlug := named caps "AppSlug"
    let agentName := named caps "AgentName"
    let workspaceName := named caps "WorkspaceName"
    let username := named caps "Username"
    if portRegex.isMatch appSlug then
      if agentName.isEmpty then
        .error ("agent name is required for port-based URLs: " ++ debug subdomain)
      else .ok ⟨appPrefix, appSlug, agentName, workspaceName, username⟩
    else .ok ⟨appPrefix, appSlug, "", workspaceName, username⟩

theorem portRegex_eq : portRegex = Regex.anchored portItems := by
  simp only [portRegex, parse_portPattern, Option.get_some]

theorem appUrlRegex_eq : appUrlRegex = Regex.anchored appUrlItems := by
  simp only [appUrlRegex, parse_appUrlPattern, Option.get_some]

/-! ### Names -/

section Names

variable [DecimalDigits] {w : List Char} {s s' : Cursor} {items : List Regex} {index : ℕ}

theorem letters_has (c : Char) : letters.has c = c.isAlphanum := by
  rw [Bool.eq_iff_iff, isAlphanum_eq]
  simp only [CharClass.has, letters, Bool.false_bne, List.any_cons, List.any_nil, Bool.or_false,
    Bool.or_eq_true, ClassItem.has_range, isUpper_iff, isLower_iff, isDigit_iff]
  show _ ↔ ((65 ≤ c.toNat ∧ c.toNat ≤ 90) ∨ 97 ≤ c.toNat ∧ c.toNat ≤ 122) ∨ _
  constructor
  · rintro (h | h | h)
    · exact .inr h
    · exact .inl (.inl h)
    · exact .inl (.inr h)
  · rintro ((h | h) | h)
    · exact .inr (.inl h)
    · exact .inr (.inr h)
    · exact .inl h

theorem mem_language_word :
    w ∈ (Regex.plus (.set letters)).language ↔ IsWord Char.isAlphanum w := by
  simp only [mem_language_plus_set, letters_has]
  exact ⟨fun h => ⟨h.1, h.2⟩, fun h => ⟨h.ne_nil, h.letters⟩⟩

theorem mem_language_nameItem : w ∈ nameItem.language ↔ IsName w := by
  have hdisjoint := isHyphen_of_isAlphanum
  have hpiece : ∀ {v : List Char},
      v ∈ (Regex.seqOf [.literal '-', .plus (.set letters)]).language ↔
        ∃ u, v = '-' :: u ∧ IsWord Char.isAlphanum u := by
    intro v
    rw [language_seqOf_cons, language_seqOf_cons, language_seqOf_nil, mul_one, language_literal,
      Language.mem_mul]
    constructor
    · rintro ⟨_, rfl, u, hu, rfl⟩
      exact ⟨u, rfl, mem_language_word.mp hu⟩
    · rintro ⟨u, rfl, hu⟩
      exact ⟨['-'], rfl, u, mem_language_word.mpr hu, rfl⟩
  rw [nameItem, language_seqOf_cons, language_seqOf_cons, language_seqOf_nil, mul_one,
    Language.mem_mul]
  constructor
  · rintro ⟨u, hu, v, hv, rfl⟩
    obtain ⟨pieces, rfl, hpieces⟩ := Language.mem_kstar.mp hv
    clear hv
    induction pieces generalizing u with
    | nil =>
      rw [List.flatten_nil, List.append_nil]
      exact (mem_language_word.mp hu).separated hdisjoint
    | cons piece pieces ih =>
      obtain ⟨hfirst, hrest⟩ := List.forall_mem_cons.mp hpieces
      obtain ⟨next, rfl, hnext⟩ := hpiece.mp hfirst
      have hname := ih next (mem_language_word.mpr hnext) hrest
      exact Separated.join hdisjoint (mem_language_word.mp hu) rfl hname
  · intro h
    refine h.induction_words (motive := fun w => ∃ u ∈ (Regex.plus (.set letters)).language,
      ∃ v ∈ (Regex.star (.seqOf [.literal '-', .plus (.set letters)])).language, u ++ v = w) ?_ ?_
    · intro u hu
      exact ⟨u, mem_language_word.mpr hu, [], Language.nil_mem_kstar _, List.append_nil u⟩
    · rintro u c rest hu hc - ⟨next, hnext, v, hv, rfl⟩
      obtain rfl : c = '-' := of_decide_eq_true hc
      obtain ⟨pieces, rfl, hpieces⟩ := Language.mem_kstar.mp hv
      refine ⟨u, mem_language_word.mpr hu, _, Language.mem_kstar.mpr
        ⟨('-' :: next) :: pieces, rfl, List.forall_mem_cons.mpr ⟨?_, hpieces⟩⟩, rfl⟩
      exact hpiece.mpr ⟨next, rfl, mem_language_word.mp hnext⟩

omit [DecimalDigits] in
theorem isPlain_nameItem : nameItem.IsPlain := by
  simp [nameItem, Regex.seqOf, Regex.plus, Regex.literal, Regex.IsPlain]

theorem matches_part_iff : (Regex.seqOf (part index :: items)).Matches s s' ↔
    ∃ w rest, IsName w ∧ s.rest = w ++ rest ∧
      (Regex.seqOf items).Matches ⟨s.before + w.length, rest, (index, w) :: s.groups⟩ s' := by
  constructor
  · rintro ⟨m, hm, h⟩
    obtain ⟨w, rest, hw, hrest, rfl⟩ := isPlain_nameItem.matches_group_iff.mp hm
    exact ⟨w, rest, mem_language_nameItem.mp hw, hrest, h⟩
  · rintro ⟨w, rest, hw, hrest, h⟩
    exact ⟨_, isPlain_nameItem.matches_group_iff.mpr
      ⟨w, rest, mem_language_nameItem.mpr hw, hrest, rfl⟩, h⟩

theorem matches_hyphens_iff : (Regex.seqOf (hyphens items)).Matches s s' ↔
    ∃ rest, s.rest = twoHyphens ++ rest ∧
      (Regex.seqOf items).Matches ⟨s.before + 2, rest, s.groups⟩ s' := by
  constructor
  · rintro ⟨m, hm, m', hm', h⟩
    obtain ⟨rest, hrest, rfl⟩ := matches_literal_iff.mp hm
    obtain ⟨rest', hrest', rfl⟩ := matches_literal_iff.mp hm'
    exact ⟨rest', by rw [hrest, show rest = '-' :: rest' from hrest']; rfl, h⟩
  · rintro ⟨rest, hrest, h⟩
    exact ⟨_, matches_literal_iff.mpr ⟨'-' :: rest, hrest, rfl⟩, _,
      matches_literal_iff.mpr ⟨rest, rfl, rfl⟩, h⟩

end Names

/-! ### Captures -/

section Captures

variable {u : ApplicationUrl} {rest : String}

def agentText (agent : List Char) : List Char :=
  if agent.isEmpty then [] else twoHyphens ++ agent

def agentGroup (agent : List Char) : List (ℕ × List Char) :=
  if agent.isEmpty then [] else [(2, agent)]

theorem agentText_of_isName {agent : List Char} (h : IsName agent) :
    agentText agent = twoHyphens ++ agent :=
  if_neg (by simpa using h.ne_nil)

theorem agentGroup_of_isName {agent : List Char} (h : IsName agent) :
    agentGroup agent = [(2, agent)] :=
  if_neg (by simpa using h.ne_nil)

/-- The groups of a match, the last one first. -/
def groups (u : ApplicationUrl) : List (ℕ × List Char) :=
  (4, u.username.toList) :: (3, u.workspaceName.toList) ::
    (agentGroup u.agentName.toList ++ [(1, u.appSlugOrPort.toList)])

theorem named_groups (u : ApplicationUrl) :
    named (groups u) "AppSlug" = u.appSlugOrPort ∧ named (groups u) "AgentName" = u.agentName ∧
      named (groups u) "WorkspaceName" = u.workspaceName ∧
      named (groups u) "Username" = u.username := by
  simp only [named, names_appUrlPattern, groups, agentGroup]
  cases hagent : u.agentName.toList with
  | nil =>
    have hempty : u.agentName = "" := String.toList_inj.mp hagent
    simp [hempty, List.lookup_cons]
  | cons c agent =>
    have hname : u.agentName = String.ofList (c :: agent) := by
      rw [← hagent, String.ofList_toList]
    simp [hname, List.lookup_cons]

theorem rest_eq (u : ApplicationUrl) : u.rest =
    u.appSlugOrPort.toList ++ (agentText u.agentName.toList ++
      (twoHyphens ++ (u.workspaceName.toList ++ (twoHyphens ++ u.username.toList)))) := by
  rw [ApplicationUrl.rest, ApplicationUrl.names, agentText]
  cases hempty : u.agentName.isEmpty with
  | true =>
    have hagent : u.agentName = "" := String.isEmpty_iff.mp hempty
    simp [blocks, hagent]
  | false =>
    have hagent : u.agentName ≠ "" := fun hnil => by
      rw [hnil] at hempty
      cases hempty
    simp [blocks, hagent]

variable [DecimalDigits]

theorem matches_agent_iff {s s' : Cursor} :
    (Regex.opt (.seqOf (hyphens [part 2]))).Matches s s' ↔
      ∃ agent rest, (agent = [] ∨ IsName agent) ∧ s.rest = agentText agent ++ rest ∧
        s' = ⟨s.before + (agentText agent).length, rest, agentGroup agent ++ s.groups⟩ := by
  show (Regex.seqOf (hyphens [part 2])).Matches s s' ∨ s' = s ↔ _
  simp only [matches_hyphens_iff, matches_part_iff]
  constructor
  · rintro (⟨_, hrest, agent, rest, hagent, rfl, rfl⟩ | rfl)
    · refine ⟨agent, rest, .inr hagent, ?_, ?_⟩
      · rw [agentText_of_isName hagent, List.append_assoc, hrest]
      · rw [agentText_of_isName hagent, agentGroup_of_isName hagent, List.length_append,
          ← Nat.add_assoc]
        rfl
    · exact ⟨[], s'.rest, .inl rfl, rfl, rfl⟩
  · rintro ⟨agent, rest, rfl | hagent, hrest, rfl⟩
    · refine .inr ?_
      rw [← show s.rest = rest from hrest]
      rfl
    · rw [agentText_of_isName hagent, List.append_assoc] at hrest
      refine .inl ⟨agent ++ rest, hrest, agent, rest, hagent, rfl, ?_⟩
      rw [agentText_of_isName hagent, agentGroup_of_isName hagent, List.length_append,
        ← Nat.add_assoc]
      rfl

theorem matches_ending_iff {s s' : Cursor} :
    (Regex.seqOf (hyphens (part 3 :: hyphens [part 4]))).Matches s s' ↔
      ∃ workspace username rest, IsName workspace ∧ IsName username ∧
        s.rest = twoHyphens ++ (workspace ++ (twoHyphens ++ (username ++ rest))) ∧
        s' = ⟨s.before + 2 + workspace.length + 2 + username.length, rest,
          (4, username) :: (3, workspace) :: s.groups⟩ := by
  simp only [matches_hyphens_iff, matches_part_iff]
  constructor
  · rintro ⟨_, hrest, workspace, _, hworkspace, rfl, _, rfl, username, rest, husername, rfl, rfl⟩
    exact ⟨workspace, username, rest, hworkspace, husername, hrest, rfl⟩
  · rintro ⟨workspace, username, rest, hworkspace, husername, hrest, rfl⟩
    exact ⟨_, hrest, workspace, _, hworkspace, rfl, _, rfl, username, rest, husername, rfl, rfl⟩

/-- What the expression captures is a reading. -/
theorem exists_reading_of_captures {caps : List (ℕ × List Char)}
    (h : appUrlRegex.captures rest = some caps) :
    ∃ u, Reading u ∧ rest = String.ofList u.rest ∧ caps = groups u := by
  rw [appUrlRegex_eq] at h
  obtain ⟨s', hmatches, hend, rfl⟩ := exists_matches_of_captures h
  obtain ⟨slug, _, hslug, hrest, m, hm, hending⟩ := matches_part_iff.mp hmatches
  obtain ⟨agent, _, hagent, rfl, rfl⟩ := matches_agent_iff.mp hm
  obtain ⟨workspace, username, ending, hworkspace, husername, rfl, rfl⟩ :=
    matches_ending_iff.mp hending
  obtain rfl : ending = [] := hend
  rw [List.append_nil] at hrest
  refine ⟨⟨"", .ofList slug, .ofList agent, .ofList workspace, .ofList username⟩,
    ⟨.inl rfl, ?_, ?_, ?_, ?_⟩, ?_, ?_⟩
  · rwa [String.toList_ofList]
  · rw [String.toList_ofList]
    exact hagent.imp_left fun hnil => by rw [hnil]
  · rwa [String.toList_ofList]
  · rwa [String.toList_ofList]
  · simp only [rest_eq, String.toList_ofList, ← hrest, String.ofList_toList]
  · simp only [groups, String.toList_ofList]

theorem isMatch_of_reading (h : Reading u) :
    appUrlRegex.isMatch (String.ofList u.rest) = true := by
  have hagent : u.agentName.toList = [] ∨ IsName u.agentName.toList :=
    h.agent.imp_left fun hnil => by rw [hnil]; rfl
  rw [appUrlRegex_eq, isMatch_anchored_iff, String.toList_ofList, rest_eq,
    ← List.append_nil u.username.toList]
  exact ⟨_, matches_part_iff.mpr ⟨_, _, h.slug, rfl, _,
    matches_agent_iff.mpr ⟨_, _, hagent, rfl, rfl⟩,
    matches_ending_iff.mpr ⟨_, _, [], h.workspace, h.username, rfl, rfl⟩⟩, rfl⟩

theorem captures_named (rest : String) :
    (appUrlRegex.captures rest).map (fun caps => (named caps "AppSlug", named caps "AgentName",
      named caps "WorkspaceName", named caps "Username")) = WorkspaceApps.appUrlRegex rest := by
  cases hcaps : appUrlRegex.captures rest with
  | some caps =>
    obtain ⟨u, hu, rfl, rfl⟩ := exists_reading_of_captures hcaps
    obtain ⟨hslug, hagent, hworkspace, husername⟩ := named_groups u
    rw [appUrlRegex_rest hu, Option.map_some, hslug, hagent, hworkspace, husername]
  | none =>
    cases hnames : WorkspaceApps.appUrlRegex rest with
    | none => rfl
    | some names =>
      obtain ⟨hu, hrest⟩ := exists_reading_of_appUrlRegex hnames "" (.inl rfl)
      have hmatch := isMatch_of_reading hu
      rw [← hrest, Regex.isMatch, hcaps] at hmatch
      cases hmatch

/-! ### Ports -/

theorem mem_language_portItems {w : List Char} : w ∈ (Regex.seqOf portItems).language ↔
    ∃ digits ending, w = digits ++ ending ∧ (∀ c ∈ digits, DecimalDigits.isDecimal c = true) ∧
      (digits.length = 4 ∨ digits.length = 5) ∧ (ending = ['s'] ∨ ending = []) := by
  have hdigits : ∀ {v : List Char},
      v ∈ (Regex.between (.set ⟨false, [.decimal]⟩) 4 1).language ↔
        (∀ c ∈ v, DecimalDigits.isDecimal c = true) ∧ (v.length = 4 ∨ v.length = 5) := by
    intro v
    rw [mem_language_between_set]
    have hlength : (4 ≤ v.length ∧ v.length ≤ 4 + 1) ↔ v.length = 4 ∨ v.length = 5 := by omega
    simp only [CharClass.has, ClassItem.has, Bool.false_bne, List.any_cons, List.any_nil,
      Bool.or_false, hlength]
  have hending : ∀ {v : List Char},
      v ∈ (Regex.opt (.literal 's')).language ↔ v = ['s'] ∨ v = [] := by
    intro v
    rw [Regex.language, language_literal, Language.mem_add, Language.mem_one]
    rfl
  rw [portItems, language_seqOf_cons, language_seqOf_cons, language_seqOf_nil, mul_one,
    Language.mem_mul]
  constructor
  · rintro ⟨digits, hd, ending, he, rfl⟩
    obtain ⟨hdecimal, hlength⟩ := hdigits.mp hd
    exact ⟨digits, ending, rfl, hdecimal, hlength, hending.mp he⟩
  · rintro ⟨digits, ending, rfl, hdecimal, hlength, he⟩
    exact ⟨digits, hdigits.mpr ⟨hdecimal, hlength⟩, ending, hending.mpr he, rfl⟩

omit [DecimalDigits] in
theorem portRegex_iff {slug : String} : WorkspaceApps.portRegex slug = true ↔
    ∃ digits ending, slug.toList = digits ++ ending ∧ (∀ c ∈ digits, c.isDigit = true) ∧
      (digits.length = 4 ∨ digits.length = 5) ∧ (ending = ['s'] ∨ ending = []) := by
  have hends : endsWith slug "s" = true ↔ ∃ digits, slug.toList = digits ++ ['s'] := by
    rw [endsWith, List.isSuffixOf_iff_suffix]
    exact ⟨fun ⟨digits, h⟩ => ⟨digits, h.symm⟩, fun ⟨digits, h⟩ => ⟨digits, h.symm⟩⟩
  rw [WorkspaceApps.portRegex]
  simp only [Bool.and_eq_true, List.all_eq_true, Bool.or_eq_true, decide_eq_true_iff]
  by_cases h : endsWith slug "s" = true
  · obtain ⟨digits, hslug⟩ := hends.mp h
    rw [if_pos h, hslug, List.dropLast_concat]
    constructor
    · exact fun ⟨hdigits, hlength⟩ => ⟨digits, ['s'], rfl, hdigits, hlength, .inl rfl⟩
    · rintro ⟨digits', ending, heq, hdigits, hlength, rfl | rfl⟩
      · rw [List.append_cancel_right heq]
        exact ⟨hdigits, hlength⟩
      · -- A digit would be the letter at the end.
        rw [List.append_nil] at heq
        exact absurd (hdigits 's' (by rw [← heq]; simp)) (by decide)
  · rw [if_neg h]
    constructor
    · exact fun ⟨hdigits, hlength⟩ =>
        ⟨slug.toList, [], (List.append_nil _).symm, hdigits, hlength, .inr rfl⟩
    · rintro ⟨digits, ending, heq, hdigits, hlength, rfl | rfl⟩
      · exact absurd (hends.mpr ⟨digits, heq⟩) h
      · rw [heq, List.append_nil]
        exact ⟨hdigits, hlength⟩

/-- Of a text in ASCII, the digits are the decimal ones. -/
theorem portRegex_isMatch {slug : String} (hascii : ∀ c ∈ slug.toList, c.toNat < 128) :
    portRegex.isMatch slug = WorkspaceApps.portRegex slug := by
  have hplain : ∀ item ∈ portItems, item.IsPlain := by
    intro item hitem
    obtain rfl | hitem := List.mem_cons.mp hitem
    · have hset : (Regex.set ⟨false, [.decimal]⟩).IsPlain := trivial
      exact hset.between 4 1
    · rw [List.mem_singleton.mp hitem]
      trivial
  rw [Bool.eq_iff_iff, portRegex_eq, isMatch_anchored_iff_of_isPlain hplain,
    mem_language_portItems, portRegex_iff]
  refine exists₂_congr fun digits ending => and_congr_right fun heq => and_congr_left' ?_
  refine forall₂_congr fun c hc => ?_
  rw [DecimalDigits.isDecimal_of_ascii c (hascii c (by rw [heq]; simp [hc]))]

omit [DecimalDigits] in
theorem ascii_of_isName {cs : List Char} (h : IsName cs) : ∀ c ∈ cs, c.toNat < 128 := by
  intro c hc
  obtain hhyphen | hletter := h.chars c hc
  · rw [of_decide_eq_true hhyphen]
    decide
  · rw [isAlphanum_eq, Bool.or_eq_true, Bool.or_eq_true, isUpper_iff, isLower_iff,
      isDigit_iff] at hletter
    omega

/-! ### Parsing -/

/-- Splitting by hyphens finds the names that the expression captures. -/
theorem parseSubdomainAppUrl_eq [DebugText] (subdomain : String) :
    parseSubdomainAppUrl subdomain = WorkspaceApps.parseSubdomainAppUrl subdomain := by
  rw [parseSubdomainAppUrl, WorkspaceApps.parseSubdomainAppUrl]
  have hnames := captures_named (splitAppPrefix subdomain).2
  cases hcaps : appUrlRegex.captures (splitAppPrefix subdomain).2 with
  | none =>
    rw [hcaps] at hnames
    simp only [hcaps, ← hnames, Option.map_none]
  | some caps =>
    rw [hcaps, Option.map_some] at hnames
    obtain ⟨u, hu, -, rfl⟩ := exists_reading_of_captures hcaps
    have hslug : ∀ c ∈ (named (groups u) "AppSlug").toList, c.toNat < 128 := by
      rw [(named_groups u).1]
      exact ascii_of_isName hu.slug
    simp only [hcaps, ← hnames, portRegex_isMatch hslug]

/-- Hostnames are parsed exactly. -/
theorem parseSubdomainAppUrl_exact [DebugText] :
    (∀ u, WellFormed u → parseSubdomainAppUrl u.toSubdomain = .ok u) ∧
    (∀ subdomain u, parseSubdomainAppUrl subdomain = .ok u →
      parseSubdomainAppUrl u.toSubdomain = .ok u ∧
        (u.toSubdomain = subdomain ∨
          WorkspaceApps.portRegex u.appSlugOrPort = false ∧ ∃ agent, IsName agent.toList ∧
            subdomain = ApplicationUrl.toSubdomain { u with agentName := agent })) ∧
    ∀ u v, Reading u → Reading v → u.toSubdomain = v.toSubdomain → u = v := by
  simp only [parseSubdomainAppUrl_eq]
  exact ⟨fun u h => parseSubdomainAppUrl_of_wellFormed h,
    fun subdomain u h => parseSubdomainAppUrl_back h,
    fun u v hu hv h => hu.eq_of_toSubdomain_eq hv h⟩

end Captures

end Expressions

end Coderd.WorkspaceApps
