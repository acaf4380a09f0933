import Coderd.Foundation.Texts
import Coderd.WorkspaceApps.Names
import Coderd.WorkspaceApps.Splitting

namespace Coderd.WorkspaceApps

open Coderd.Foundation

/-! ## Hostnames -/

def ApplicationUrl.toSubdomain (u : ApplicationUrl) : String :=
  u.appPrefix ++ u.appSlugOrPort ++
    (if !u.agentName.isEmpty then "--" ++ u.agentName else "") ++
    "--" ++ u.workspaceName ++ "--" ++ u.username

/-- What a hostname may be read as: names, before which a prefix may stand that ends with three
hyphens. -/
structure Reading (u : ApplicationUrl) : Prop where
  appPrefix : u.appPrefix = "" ∨ endsWith u.appPrefix "---" = true
  slug : IsName u.appSlugOrPort.toList
  agent : u.agentName = "" ∨ IsName u.agentName.toList
  workspace : IsName u.workspaceName.toList
  username : IsName u.username.toList

/-- A reading in which the prefix has no run of four hyphens, and there is an agent exactly for a
port. -/
structure WellFormed (u : ApplicationUrl) : Prop extends Reading u where
  runs : ¬ List.replicate 4 '-' <:+: u.appPrefix.toList
  port : u.agentName ≠ "" ↔ portRegex u.appSlugOrPort = true

/-! ## Names between hyphens -/

abbrev twoHyphens : List Char := List.replicate 2 '-'

abbrev threeHyphens : List Char := List.replicate 3 '-'

section Joined

variable {cs last : List Char} {parts : List (List Char)}

theorem IsName.no_two (h : IsName cs) : ¬ twoHyphens <:+: cs := by
  rintro ⟨u, v, rfl⟩
  have hapart : (u ++ '-' :: '-' :: v).IsChain (Apart isHyphen) := by
    have hchain := h.apart
    rw [List.append_assoc] at hchain
    exact hchain
  have hboth := List.isChain_iff_forall_rel_of_append_cons_cons.mp hapart rfl
  exact hboth ⟨rfl, rfl⟩

theorem IsName.no_three (h : IsName cs) : ¬ threeHyphens <:+: cs := fun hocc =>
  h.no_two (List.IsInfix.trans ⟨[], ['-'], rfl⟩ hocc)

theorem IsName.clear (h : IsName cs) : Clear twoHyphens cs :=
  clear_replicate h.no_two fun c hc => of_decide_eq_false (h.last c hc)

theorem IsName.head_ne (h : IsName cs) : ∃ c rest, cs = c :: rest ∧ c ≠ '-' := by
  obtain ⟨c, rest, rfl⟩ := List.exists_cons_of_ne_nil h.ne_nil
  exact ⟨c, rest, rfl, of_decide_eq_false (h.head c rfl)⟩

theorem IsName.last_ne (h : IsName cs) : ∃ rest c, cs = rest ++ [c] ∧ c ≠ '-' := by
  have hlast := List.getLast?_eq_some_getLast h.ne_nil
  exact ⟨_, _, (List.dropLast_append_getLast h.ne_nil).symm,
    of_decide_eq_false (h.last _ hlast)⟩

/-- Names and the hyphens between them have no three hyphens in a row, and begin with none. -/
theorem no_three_of_names (hparts : ∀ p ∈ parts, IsName p) (hlast : IsName last) :
    ¬ threeHyphens <:+: blocks twoHyphens parts ++ last ∧
      ∃ c rest, blocks twoHyphens parts ++ last = c :: rest ∧ c ≠ '-' := by
  induction parts with
  | nil => exact ⟨hlast.no_three, hlast.head_ne⟩
  | cons p parts ih =>
    obtain ⟨hp, hrest⟩ := List.forall_mem_cons.mp hparts
    obtain ⟨hfree, first, tail, htail, hfirst⟩ := ih hrest
    obtain ⟨start, c, hstart, hc⟩ := hp.last_ne
    have hne : threeHyphens ≠ [] := by decide
    have hnotMem : ∀ {d : Char}, d ≠ '-' → d ∉ threeHyphens := fun hd hmem =>
      hd (List.eq_of_mem_replicate hmem)
    have hsplit : blocks twoHyphens (p :: parts) ++ last =
        start ++ c :: (twoHyphens ++ first :: tail) := by
      rw [blocks_cons, List.append_assoc, htail, hstart]
      simp
    refine ⟨fun hocc => ?_, ?_⟩
    · -- The hyphens stand between two characters that are none.
      rw [hsplit] at hocc
      obtain hocc | hocc := infix_append_barrier (hnotMem hc) hne hocc
      · refine hp.no_three (hocc.trans ?_)
        rw [hstart]
        exact (List.prefix_append start [c]).isInfix
      · obtain hocc | hocc := infix_append_barrier (hnotMem hfirst) hne hocc
        · have hlength := hocc.length_le
          simp at hlength
        · refine hfree (hocc.trans ?_)
          rw [htail]
          exact (List.suffix_cons first tail).isInfix
    · obtain ⟨d, rest, hd, hdne⟩ := hp.head_ne
      rw [blocks_cons, hd]
      exact ⟨d, _, rfl, hdne⟩

end Joined

/-! ## Splitting hostnames -/

section Splitting

variable {parts : List (List Char)} {last : List Char}

theorem splitText_blocks {sep : String} (hne : sep.toList ≠ [])
    (hparts : ∀ p ∈ parts, Clear sep.toList p) (hlast : ¬ sep.toList <:+: last) :
    splitText (String.ofList (blocks sep.toList parts ++ last)) sep =
      (parts ++ [last]).map String.ofList := by
  rw [splitText, String.toList_ofList, splitAux_blocks hne hparts hlast]

theorem splitAppPrefix_blocks (hparts : ∀ p ∈ parts, Clear threeHyphens p)
    (hlast : ¬ threeHyphens <:+: last) :
    splitAppPrefix (String.ofList (blocks threeHyphens parts ++ last)) =
      (String.ofList (blocks threeHyphens parts), String.ofList last) := by
  have hsep : "---".toList = threeHyphens := rfl
  have hsplit := splitText_blocks (by decide : "---".toList ≠ []) hparts hlast
  rw [hsep] at hsplit
  rw [splitAppPrefix, hsplit, List.map_append, List.reverse_append]
  cases hrest : parts with
  | nil => rfl
  | cons p rest =>
    have hreverse : (parts.map String.ofList).reverse ≠ [] := by
      rw [hrest]
      simp
    obtain ⟨q, others, hcons⟩ := List.exists_cons_of_ne_nil hreverse
    rw [← hrest, hcons]
    show ("---".intercalate (q :: others).reverse ++ "---", String.ofList last) = _
    rw [← hcons, List.reverse_reverse, ← intercalate_append_sep (by simp [hrest])]
    have hmap : (parts.map String.ofList).map String.toList = parts := by
      simp [Function.comp_def]
    congr 1
    rw [← String.toList_inj, String.toList_append, String.toList_intercalate, hmap, hsep,
      String.toList_ofList]

end Splitting

/-! ## The names of a hostname -/

section Names

variable {u : ApplicationUrl} {text slug agent workspace username : String}

/-- The names before the last one. -/
def ApplicationUrl.names (u : ApplicationUrl) : List (List Char) :=
  if u.agentName.isEmpty then [u.appSlugOrPort.toList, u.workspaceName.toList]
  else [u.appSlugOrPort.toList, u.agentName.toList, u.workspaceName.toList]

/-- What stands after the prefix. -/
def ApplicationUrl.rest (u : ApplicationUrl) : List Char :=
  blocks twoHyphens u.names ++ u.username.toList

theorem toSubdomain_toList (u : ApplicationUrl) :
    u.toSubdomain.toList = u.appPrefix.toList ++ u.rest := by
  have htwo : "--".toList = twoHyphens := rfl
  rw [ApplicationUrl.toSubdomain, ApplicationUrl.rest, ApplicationUrl.names]
  cases hempty : u.agentName.isEmpty with
  | true => simp [blocks, htwo]
  | false => simp [blocks, htwo]

theorem Reading.names_isName (h : Reading u) : ∀ p ∈ u.names, IsName p := by
  have hslug := h.slug
  have hworkspace := h.workspace
  rw [ApplicationUrl.names]
  split
  · simp [hslug, hworkspace]
  · rename_i hnonempty
    have hagent := h.agent.resolve_left fun hnil => hnonempty (by rw [hnil]; rfl)
    simp [hslug, hagent, hworkspace]

theorem Reading.rest_free (h : Reading u) :
    ¬ threeHyphens <:+: u.rest ∧ ∃ c tail, u.rest = c :: tail ∧ c ≠ '-' :=
  no_three_of_names h.names_isName h.username

theorem appUrlRegex_rest (h : Reading u) : appUrlRegex (String.ofList u.rest) =
    some (u.appSlugOrPort, u.agentName, u.workspaceName, u.username) := by
  have hsplit := splitText_blocks (by decide : "--".toList ≠ [])
    (fun p hp => (h.names_isName p hp).clear) h.username.no_two
  have htwo : "--".toList = twoHyphens := rfl
  rw [htwo] at hsplit
  rw [appUrlRegex, ApplicationUrl.rest, hsplit, ApplicationUrl.names]
  cases hempty : u.agentName.isEmpty with
  | true =>
    have hagent : u.agentName = "" := String.isEmpty_iff.mp hempty
    simp [nameRegex_iff, h.slug, h.workspace, h.username, hagent]
  | false =>
    have hagent : IsName u.agentName.toList := h.agent.resolve_left fun hnil => by
      rw [hnil] at hempty
      cases hempty
    simp [nameRegex_iff, h.slug, h.workspace, h.username, hagent]

/-- The pieces of a text are what it is made of. -/
theorem eq_blocks_of_splitText {pieces : List (List Char)} {last : String}
    (h : splitText text "--" = pieces.map String.ofList ++ [last]) :
    text = String.ofList (blocks twoHyphens pieces ++ last.toList) := by
  obtain ⟨parts, tail, htext, hparts, htail⟩ :=
    exists_blocks (by decide : twoHyphens ≠ []) text.toList
  have hsplit := splitText_blocks (by decide : "--".toList ≠ []) hparts htail
  have htwo : "--".toList = twoHyphens := rfl
  rw [htwo, ← htext, String.ofList_toList, h, List.map_append] at hsplit
  obtain ⟨hpieces, hlast⟩ := List.append_inj' hsplit rfl
  have hinj : Function.Injective String.ofList := fun _ _ heq => String.ofList_injective heq
  have hlastEq : last = String.ofList tail := by simpa using hlast
  rw [List.map_injective_iff.mpr hinj hpieces, hlastEq, String.toList_ofList, ← htext,
    String.ofList_toList]

theorem exists_reading_of_appUrlRegex
    (h : appUrlRegex text = some (slug, agent, workspace, username)) (appPrefix : String)
    (hinit : appPrefix = "" ∨ endsWith appPrefix "---" = true) :
    Reading ⟨appPrefix, slug, agent, workspace, username⟩ ∧
      text = String.ofList (ApplicationUrl.rest ⟨appPrefix, slug, agent, workspace, username⟩) := by
  unfold appUrlRegex at h
  split at h
  · rename_i slug' workspace' username' hpieces
    split at h
    · rename_i hnames
      cases h
      simp only [List.all_cons, List.all_nil, Bool.and_true, Bool.and_eq_true,
        nameRegex_iff] at hnames
      obtain ⟨hslug, hworkspace, husername⟩ := hnames
      refine ⟨⟨hinit, hslug, .inl rfl, hworkspace, husername⟩, ?_⟩
      have hsplit : splitText text "--" =
          [slug.toList, workspace.toList].map String.ofList ++ [username] := by
        rw [hpieces]
        simp
      exact eq_blocks_of_splitText hsplit
    · cases h
  · rename_i slug' agent' workspace' username' hpieces
    split at h
    · rename_i hnames
      cases h
      simp only [List.all_cons, List.all_nil, Bool.and_true, Bool.and_eq_true,
        nameRegex_iff] at hnames
      obtain ⟨hslug, hagent, hworkspace, husername⟩ := hnames
      refine ⟨⟨hinit, hslug, .inr hagent, hworkspace, husername⟩, ?_⟩
      have hnonempty : agent.isEmpty = false := by
        refine Bool.eq_false_iff.mpr fun hempty => hagent.ne_nil ?_
        rw [String.isEmpty_iff.mp hempty]
        rfl
      rw [ApplicationUrl.rest, ApplicationUrl.names, hnonempty, if_neg Bool.false_ne_true]
      refine eq_blocks_of_splitText ?_
      rw [hpieces]
      simp
    · cases h
  · cases h

end Names

/-! ## Parsing -/

section Parsing

variable [DebugText] {u v : ApplicationUrl} {subdomain : String}

/-- A prefix that is found again: its parts are split off as they are. -/
def IsPrefix (appPrefix : String) : Prop :=
  ∃ parts, (∀ p ∈ parts, Clear threeHyphens p) ∧ appPrefix.toList = blocks threeHyphens parts

/-- What is made of a reading. -/
theorem parseSubdomainAppUrl_toSubdomain (h : Reading u) (hinit : IsPrefix u.appPrefix) :
    parseSubdomainAppUrl u.toSubdomain =
      if portRegex u.appSlugOrPort then
        if u.agentName.isEmpty then
          .error ("agent name is required for port-based URLs: " ++ debug u.toSubdomain)
        else .ok u
      else .ok { u with agentName := "" } := by
  obtain ⟨parts, hparts, hparts'⟩ := hinit
  have hsplit := splitAppPrefix_blocks hparts h.rest_free.1
  rw [← hparts', ← toSubdomain_toList, String.ofList_toList, String.ofList_toList] at hsplit
  rw [parseSubdomainAppUrl, hsplit]
  simp only [appUrlRegex_rest h]

omit [DebugText] in
theorem IsPrefix.ends {appPrefix : String} (h : IsPrefix appPrefix) :
    appPrefix = "" ∨ endsWith appPrefix "---" = true := by
  obtain ⟨parts, -, hparts⟩ := h
  cases parts with
  | nil => exact .inl (String.toList_inj.mp hparts)
  | cons p parts =>
    refine .inr (List.isSuffixOf_iff_suffix.mpr ?_)
    rw [hparts, ← intercalate_append_sep (List.cons_ne_nil p parts)]
    exact List.suffix_append _ _

/-- Every text that is accepted is a reading. -/
theorem exists_reading (h : parseSubdomainAppUrl subdomain = .ok u) :
    ∃ v, Reading v ∧ IsPrefix v.appPrefix ∧ subdomain = v.toSubdomain := by
  obtain ⟨parts, last, hsubdomain, hparts, hlast⟩ :=
    exists_blocks (by decide : threeHyphens ≠ []) subdomain.toList
  have hsplit := splitAppPrefix_blocks hparts hlast
  rw [← hsubdomain, String.ofList_toList] at hsplit
  have hinit : IsPrefix (String.ofList (blocks threeHyphens parts)) :=
    ⟨parts, hparts, String.toList_ofList⟩
  rw [parseSubdomainAppUrl, hsplit] at h
  cases hregex : appUrlRegex (String.ofList last) with
  | none =>
    simp only [hregex] at h
    cases h
  | some names =>
    obtain ⟨slug, agent, workspace, username⟩ := names
    obtain ⟨hreading, hrest⟩ := exists_reading_of_appUrlRegex hregex _ hinit.ends
    refine ⟨_, hreading, hinit, ?_⟩
    rw [← String.toList_inj, toSubdomain_toList, String.toList_ofList, hsubdomain,
      String.ofList_injective hrest]

omit [DebugText] in
/-- The end of a text that ends with three hyphens has three hyphens, or is one or two of them. -/
theorem hyphens_of_suffix {cs q : List Char} (h : threeHyphens <:+ cs ++ q) (hne : q ≠ []) :
    threeHyphens <:+: q ∨ ∃ rest, q = '-' :: rest := by
  obtain hle | hlt := le_or_gt threeHyphens.length q.length
  · exact .inl (List.suffix_of_suffix_length_le h (List.suffix_append cs q) hle).isInfix
  · have hwithin := List.suffix_of_suffix_length_le (List.suffix_append cs q) h hlt.le
    obtain ⟨c, rest, rfl⟩ := List.exists_cons_of_ne_nil hne
    have hc : c = '-' := List.eq_of_mem_replicate (hwithin.subset List.mem_cons_self)
    exact .inr ⟨rest, by rw [hc]⟩

omit [DebugText] in
/-- A prefix that ends with three hyphens, but has no run of four, is found again. -/
theorem isPrefix_of_runs {appPrefix : String}
    (hinit : appPrefix = "" ∨ endsWith appPrefix "---" = true)
    (hruns : ¬ List.replicate 4 '-' <:+: appPrefix.toList) : IsPrefix appPrefix := by
  obtain rfl | hends := hinit
  · exact ⟨[], by simp, rfl⟩
  obtain ⟨parts, last, hsplit, hparts, hlast⟩ :=
    exists_blocks (by decide : threeHyphens ≠ []) appPrefix.toList
  suffices hnil : last = [] by
    rw [hnil, List.append_nil] at hsplit
    exact ⟨parts, hparts, hsplit⟩
  by_contra hne
  have hsuffix : threeHyphens <:+ blocks threeHyphens parts ++ last := by
    rw [← hsplit]
    exact List.isSuffixOf_iff_suffix.mp hends
  obtain hocc | ⟨rest, rfl⟩ := hyphens_of_suffix hsuffix hne
  · exact hlast hocc
  · -- The hyphens of the last block make a run with the one that is left.
    by_cases hblocks : parts = []
    · rw [hblocks] at hsuffix
      exact hlast hsuffix.isInfix
    · rw [hsplit, ← intercalate_append_sep hblocks] at hruns
      exact hruns ⟨threeHyphens.intercalate parts, rest, by simp [List.replicate]⟩

omit [DebugText] in
theorem Reading.no_longer_start (hu : Reading u) (hv : Reading v) {q : List Char}
    (hinit : v.appPrefix.toList = u.appPrefix.toList ++ q) (hrest : u.rest = q ++ v.rest) :
    q = [] := by
  by_contra hne
  have hends : endsWith v.appPrefix "---" = true := hv.appPrefix.resolve_left fun hnil => by
    rw [hnil] at hinit
    exact hne (List.append_eq_nil_iff.mp hinit.symm).2
  have hsuffix : threeHyphens <:+ u.appPrefix.toList ++ q := by
    rw [← hinit]
    exact List.isSuffixOf_iff_suffix.mp hends
  obtain ⟨hfree, c, tail, hhead, hc⟩ := hu.rest_free
  obtain hocc | ⟨rest, rfl⟩ := hyphens_of_suffix hsuffix hne
  · rw [hrest] at hfree
    exact hfree (hocc.trans (List.prefix_append q _).isInfix)
  · rw [hrest] at hhead
    exact hc (List.cons.inj hhead).1.symm

omit [DebugText] in
/-- Two readings of one text are the same. -/
theorem Reading.eq_of_toSubdomain_eq (hu : Reading u) (hv : Reading v)
    (h : u.toSubdomain = v.toSubdomain) : u = v := by
  have hchars : u.appPrefix.toList ++ u.rest = v.appPrefix.toList ++ v.rest := by
    rw [← toSubdomain_toList, ← toSubdomain_toList, h]
  have hsame : u.appPrefix.toList = v.appPrefix.toList ∧ u.rest = v.rest := by
    obtain ⟨q, hinit, hrest⟩ | ⟨q, hinit, hrest⟩ := List.append_eq_append_iff.mp hchars
    · obtain rfl := hu.no_longer_start hv hinit hrest
      rw [hinit, hrest, List.append_nil, List.nil_append]
      exact ⟨rfl, rfl⟩
    · obtain rfl := hv.no_longer_start hu hinit hrest
      rw [hinit, hrest, List.append_nil, List.nil_append]
      exact ⟨rfl, rfl⟩
  have hnames := (appUrlRegex_rest hu).symm
  rw [hsame.2, appUrlRegex_rest hv] at hnames
  have hinit := String.toList_inj.mp hsame.1
  cases u
  cases v
  simp only [Option.some.injEq, Prod.mk.injEq] at hnames hinit
  obtain ⟨rfl, rfl, rfl, rfl⟩ := hnames
  rw [hinit]

theorem parseSubdomainAppUrl_of_wellFormed (h : WellFormed u) :
    parseSubdomainAppUrl u.toSubdomain = .ok u := by
  rw [parseSubdomainAppUrl_toSubdomain h.toReading (isPrefix_of_runs h.appPrefix h.runs)]
  cases hport : portRegex u.appSlugOrPort with
  | true =>
    have hagent : u.agentName.isEmpty = false := by
      refine Bool.eq_false_iff.mpr fun hempty => ?_
      exact h.port.mpr hport (String.isEmpty_iff.mp hempty)
    rw [if_pos rfl, hagent, if_neg Bool.false_ne_true]
  | false =>
    have hagent : u.agentName = "" := by
      by_contra hne
      rw [h.port.mp hne] at hport
      cases hport
    rw [if_neg Bool.false_ne_true, ← hagent]

/-- What is accepted is found again; only an agent before a slug that is no port is lost. -/
theorem parseSubdomainAppUrl_back (h : parseSubdomainAppUrl subdomain = .ok u) :
    parseSubdomainAppUrl u.toSubdomain = .ok u ∧
      (u.toSubdomain = subdomain ∨
        portRegex u.appSlugOrPort = false ∧ ∃ agent, IsName agent.toList ∧
          subdomain = ApplicationUrl.toSubdomain { u with agentName := agent }) := by
  obtain ⟨v, hv, hinit, rfl⟩ := exists_reading h
  have hparsed := parseSubdomainAppUrl_toSubdomain hv hinit
  rw [h] at hparsed
  cases hport : portRegex v.appSlugOrPort with
  | true =>
    rw [hport, if_pos rfl] at hparsed
    split at hparsed
    · cases hparsed
    · cases hparsed
      exact ⟨h, .inl rfl⟩
  | false =>
    rw [hport, if_neg Bool.false_ne_true] at hparsed
    cases hparsed
    refine ⟨?_, ?_⟩
    · -- Without its agent the reading is still one.
      have hagentless : Reading { v with agentName := "" } :=
        ⟨hv.appPrefix, hv.slug, .inl rfl, hv.workspace, hv.username⟩
      rw [parseSubdomainAppUrl_toSubdomain hagentless hinit, hport, if_neg Bool.false_ne_true]
    · obtain hempty | hagent := hv.agent
      · left
        rw [← hempty]
      · exact .inr ⟨hport, v.agentName, hagent, rfl⟩

end Parsing

end Coderd.WorkspaceApps
