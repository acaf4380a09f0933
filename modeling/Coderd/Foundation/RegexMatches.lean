import Mathlib.Computability.Language
import Coderd.Foundation.Regex

namespace Coderd.Foundation

/-! ## What a regular expression matches

Backtracking finds a match where there is one: `run` succeeds exactly if one of the ends of a match
is a place that suits the rest. -/

/-- An iteration that reads something. -/
def Iteration (R : Cursor → Cursor → Prop) (s m : Cursor) : Prop :=
  R s m ∧ m.rest.length < s.rest.length

def Regex.Matches [DecimalDigits] : Regex → Cursor → Cursor → Prop
  | .empty, s, s' => s' = s
  | .set cls, s, s' =>
    ∃ c cs, s.rest = c :: cs ∧ cls.has c = true ∧ s' = { s with before := s.before + 1, rest := cs }
  | .startOfText, s, s' => s.before = 0 ∧ s' = s
  | .endOfText, s, s' => s.rest = [] ∧ s' = s
  | .seq a b, s, s' => ∃ m, a.Matches s m ∧ b.Matches m s'
  | .opt a, s, s' => a.Matches s s' ∨ s' = s
  | .star a, s, s' => Relation.ReflTransGen (Iteration a.Matches) s s'
  | .group index a, s, s' => ∃ m, a.Matches s m ∧ s' = m.close index s

/-! ### Backtracking -/

section Backtracking

variable {β : Type} {step : (Cursor → Option β) → Cursor → Option β} {k : Cursor → Option β}
  {R : Cursor → Cursor → Prop} {s s' : Cursor} {b : β}

theorem starRun_sound (hstep : ∀ {k s b}, step k s = some b → ∃ m, R s m ∧ k m = some b) (n : ℕ)
    (h : starRun step k n s = some b) :
    ∃ s', Relation.ReflTransGen (Iteration R) s s' ∧ k s' = some b := by
  induction n generalizing s with
  | zero => exact ⟨s, .refl, h⟩
  | succ n ih =>
    rw [starRun, Option.or_eq_some_iff] at h
    obtain h | ⟨-, h⟩ := h
    · obtain ⟨m, hm, hrest⟩ := hstep h
      by_cases hlength : m.rest.length < s.rest.length
      · rw [if_pos hlength] at hrest
        obtain ⟨s', hs', hk⟩ := ih hrest
        exact ⟨s', .head ⟨hm, hlength⟩ hs', hk⟩
      · rw [if_neg hlength] at hrest
        cases hrest
    · exact ⟨s, .refl, h⟩

/-- Each iteration makes the rest shorter, so there is enough fuel. -/
theorem starRun_complete (hstep : ∀ {k s m}, R s m → step k s = none → k m = none) {n : ℕ}
    (hn : s.rest.length ≤ n) (hs : Relation.ReflTransGen (Iteration R) s s')
    (h : starRun step k n s = none) : k s' = none := by
  induction n generalizing s with
  | zero =>
    obtain rfl | ⟨m, ⟨-, hlength⟩, -⟩ := hs.cases_head
    · exact h
    · omega
  | succ n ih =>
    rw [starRun, Option.or_eq_none_iff] at h
    obtain rfl | ⟨m, ⟨hm, hlength⟩, hrest⟩ := hs.cases_head
    · exact h.2
    · have hstar := hstep hm h.1
      rw [if_pos hlength] at hstar
      exact ih (by omega) hrest hstar

variable [DecimalDigits]

theorem Regex.run_sound (r : Regex) (h : r.run k s = some b) :
    ∃ s', r.Matches s s' ∧ k s' = some b := by
  induction r generalizing k s b with
  | empty => exact ⟨s, rfl, h⟩
  | set cls =>
    cases hrest : s.rest with
    | nil => simp [Regex.run, hrest] at h
    | cons c cs =>
      simp only [Regex.run, hrest] at h
      by_cases hc : cls.has c = true
      · rw [if_pos hc] at h
        exact ⟨_, ⟨c, cs, hrest, hc, rfl⟩, h⟩
      · rw [if_neg hc] at h
        cases h
  | startOfText =>
    rw [Regex.run] at h
    by_cases hstart : s.before = 0
    · rw [if_pos hstart] at h
      exact ⟨s, ⟨hstart, rfl⟩, h⟩
    · rw [if_neg hstart] at h
      cases h
  | endOfText =>
    rw [Regex.run] at h
    by_cases hend : s.rest.isEmpty = true
    · rw [if_pos hend] at h
      exact ⟨s, ⟨List.isEmpty_iff.mp hend, rfl⟩, h⟩
    · rw [if_neg hend] at h
      cases h
  | seq a c iha ihc =>
    obtain ⟨m, hm, hrest⟩ := iha h
    obtain ⟨s', hs', hk⟩ := ihc hrest
    exact ⟨s', ⟨m, hm, hs'⟩, hk⟩
  | opt a iha =>
    rw [Regex.run, Option.or_eq_some_iff] at h
    obtain h | ⟨-, h⟩ := h
    · obtain ⟨s', hs', hk⟩ := iha h
      exact ⟨s', .inl hs', hk⟩
    · exact ⟨s, .inr rfl, h⟩
  | star a iha => exact starRun_sound iha s.rest.length h
  | group index a iha =>
    obtain ⟨m, hm, hk⟩ := iha h
    exact ⟨m.close index s, ⟨m, hm, rfl⟩, hk⟩

theorem Regex.run_complete {r : Regex} (hs : r.Matches s s') (h : r.run k s = none) :
    k s' = none := by
  induction r generalizing k s s' with
  | empty =>
    subst hs
    exact h
  | set cls =>
    obtain ⟨c, cs, hrest, hc, rfl⟩ := hs
    simpa only [Regex.run, hrest, if_pos hc] using h
  | startOfText =>
    obtain ⟨hstart, rfl⟩ := hs
    simpa only [Regex.run, if_pos hstart] using h
  | endOfText =>
    obtain ⟨hend, rfl⟩ := hs
    simpa [Regex.run, hend] using h
  | seq a c iha ihc =>
    obtain ⟨m, hm, hrest⟩ := hs
    exact ihc hrest (iha hm h)
  | opt a iha =>
    rw [Regex.run, Option.or_eq_none_iff] at h
    obtain hs | rfl := hs
    · exact iha hs h.1
    · exact h.2
  | star a iha => exact starRun_complete (R := a.Matches) iha le_rfl hs h
  | group index a iha =>
    obtain ⟨m, hm, rfl⟩ := hs
    exact iha (k := fun m => k (m.close index s)) hm h

theorem Regex.run_some {r : Regex} (h : r.run some s = some s') : r.Matches s s' := by
  obtain ⟨m, hm, heq⟩ := r.run_sound h
  cases heq
  exact hm

theorem Regex.exists_run_some {r : Regex} (h : r.Matches s s') : ∃ m, r.run some s = some m := by
  cases hrun : r.run some s with
  | none => cases Regex.run_complete h hrun
  | some m => exact ⟨m, rfl⟩

/-- The greedy repetition of a class tries first to read all letters of the class. -/
theorem starRun_set {cls : CharClass} {w y : List Char} {n before : ℕ}
    {groups : List (ℕ × List Char)} (hw : ∀ c ∈ w, cls.has c = true)
    (hy : ∀ c ∈ y.head?, cls.has c = false) (hn : (w ++ y).length ≤ n)
    (hk : k ⟨before + w.length, y, groups⟩ = some b) :
    starRun (Regex.set cls).run k n ⟨before, w ++ y, groups⟩ = some b := by
  induction w generalizing before n with
  | nil =>
    cases n with
    | zero => exact hk
    | succ n =>
      rw [starRun, Option.or_eq_some_iff]
      refine .inr ⟨?_, hk⟩
      cases y with
      | nil => rfl
      | cons c y => simp [Regex.run, hy c rfl]
  | cons c w ih =>
    obtain ⟨hc, hw⟩ := List.forall_mem_cons.mp hw
    obtain ⟨n, rfl⟩ := Nat.exists_eq_add_of_lt (Nat.lt_of_lt_of_le (by simp) hn : 0 < n)
    rw [Nat.zero_add, starRun, Option.or_eq_some_iff]
    refine .inl ?_
    simp only [Regex.run, List.cons_append, hc, if_true, List.length_cons, Nat.lt_succ_self]
    refine ih hw (by simpa using hn) ?_
    rwa [List.length_cons, Nat.add_comm w.length, ← Nat.add_assoc] at hk

end Backtracking

/-! ### Searching -/

section Searching

variable [DecimalDigits] {r : Regex} {text : List Char}

theorem Regex.search_startOfText_of_pos {before : ℕ} (h : 0 < before) :
    (Regex.seq .startOfText r).search before text = none := by
  induction text generalizing before with
  | nil => simp [Regex.search, Regex.run, h.ne']
  | cons c cs ih => simp [Regex.search, Regex.run, h.ne', ih]

/-- An anchored expression matches at the start or not at all. -/
theorem Regex.search_startOfText :
    (Regex.seq .startOfText r).search 0 text = r.run some ⟨0, text, []⟩ := by
  cases text with
  | nil => rfl
  | cons c cs =>
    rw [Regex.search, Regex.search_startOfText_of_pos (by omega), Option.or_none]
    rfl

end Searching

/-! ### Languages -/

theorem ClassItem.has_range [DecimalDigits] {lo hi c : Char} :
    (ClassItem.range lo hi).has c = true ↔ lo.toNat ≤ c.toNat ∧ c.toNat ≤ hi.toNat := by
  rw [ClassItem.has, Bool.and_eq_true, decide_eq_true_iff, decide_eq_true_iff]
  exact and_congr UInt32.le_iff_toNat_le UInt32.le_iff_toNat_le

/-- What a match may read, if the anchors hold. -/
def Regex.language [DecimalDigits] : Regex → Language Char
  | .empty | .startOfText | .endOfText => 1
  | .set cls => {w | ∃ c, cls.has c = true ∧ w = [c]}
  | .seq a b => a.language * b.language
  | .opt a => a.language + 1
  | .star a => KStar.kstar a.language
  | .group _ a => a.language

/-- No anchors and no groups. -/
def Regex.IsPlain : Regex → Prop
  | .empty | .set _ => True
  | .startOfText | .endOfText | .group _ _ => False
  | .seq a b => a.IsPlain ∧ b.IsPlain
  | .opt a | .star a => a.IsPlain

theorem Regex.isPlain_seqOf {items : List Regex} (h : ∀ item ∈ items, item.IsPlain) :
    (Regex.seqOf items).IsPlain := by
  induction items with
  | nil => trivial
  | cons item items ih =>
    obtain ⟨hitem, hitems⟩ := List.forall_mem_cons.mp h
    exact ⟨hitem, ih hitems⟩

theorem Regex.IsPlain.upTo {a : Regex} (ha : a.IsPlain) (more : ℕ) : (a.upTo more).IsPlain := by
  induction more with
  | zero => trivial
  | succ more ih => exact ⟨ha, ih⟩

theorem Regex.IsPlain.between {a : Regex} (ha : a.IsPlain) (n more : ℕ) :
    (a.between n more).IsPlain := by
  refine isPlain_seqOf fun item hitem => ?_
  obtain hmem | hmem := List.mem_append.mp hitem
  · rwa [List.eq_of_mem_replicate hmem]
  · rw [List.mem_singleton.mp hmem]
    exact ha.upTo more

/-- From `s` to `s'`, the text `w` is read. -/
structure Cursor.Reads (w : List Char) (s s' : Cursor) : Prop where
  rest : s.rest = w ++ s'.rest
  before : s'.before = s.before + w.length

namespace Cursor.Reads

variable {u v w : List Char} {s m s' opened : Cursor}

theorem refl (s : Cursor) : Reads [] s s := ⟨rfl, rfl⟩

theorem trans (hu : Reads u s m) (hv : Reads v m s') : Reads (u ++ v) s s' where
  rest := by rw [hu.rest, hv.rest, List.append_assoc]
  before := by rw [hv.before, hu.before, List.length_append, Nat.add_assoc]

theorem close (h : Reads w opened s) (index : ℕ) :
    s.close index opened = ⟨s.before, s.rest, (index, w) :: s.groups⟩ := by
  rw [Cursor.close, h.rest, h.before, Nat.add_sub_cancel_left, List.take_left]

end Cursor.Reads

section Languages

variable [DecimalDigits] {r a b : Regex} {s s' : Cursor} {w : List Char} {cls : CharClass}

theorem Regex.Matches.reads (h : r.Matches s s') : ∃ w ∈ r.language, s.Reads w s' := by
  induction r generalizing s s' with
  | empty =>
    subst h
    exact ⟨[], rfl, .refl s'⟩
  | set cls =>
    obtain ⟨c, cs, hrest, hc, rfl⟩ := h
    exact ⟨[c], ⟨c, hc, rfl⟩, hrest, rfl⟩
  | startOfText =>
    obtain ⟨-, rfl⟩ := h
    exact ⟨[], rfl, .refl s'⟩
  | endOfText =>
    obtain ⟨-, rfl⟩ := h
    exact ⟨[], rfl, .refl s'⟩
  | seq a b iha ihb =>
    obtain ⟨m, hm, hs'⟩ := h
    obtain ⟨u, hu, hreadsU⟩ := iha hm
    obtain ⟨v, hv, hreadsV⟩ := ihb hs'
    exact ⟨u ++ v, Language.append_mem_mul hu hv, hreadsU.trans hreadsV⟩
  | opt a iha =>
    obtain h | rfl := h
    · obtain ⟨w, hw, hreads⟩ := iha h
      exact ⟨w, .inl hw, hreads⟩
    · exact ⟨[], .inr rfl, .refl s'⟩
  | star a iha =>
    induction h using Relation.ReflTransGen.head_induction_on with
    | refl => exact ⟨[], Language.nil_mem_kstar _, .refl s'⟩
    | head hm _ ih =>
      obtain ⟨u, hu, hreadsU⟩ := iha hm.1
      obtain ⟨v, hv, hreadsV⟩ := ih
      obtain ⟨pieces, rfl, hpieces⟩ := Language.mem_kstar.mp hv
      exact ⟨u ++ pieces.flatten,
        Language.mem_kstar.mpr ⟨u :: pieces, rfl, List.forall_mem_cons.mpr ⟨hu, hpieces⟩⟩,
        hreadsU.trans hreadsV⟩
  | group index a iha =>
    obtain ⟨m, hm, rfl⟩ := h
    obtain ⟨w, hw, hreads⟩ := iha hm
    exact ⟨w, hw, hreads.rest, hreads.before⟩

theorem Regex.IsPlain.groups_eq (hr : r.IsPlain) (h : r.Matches s s') : s'.groups = s.groups := by
  induction r generalizing s s' with
  | empty => rw [show s' = s from h]
  | set cls =>
    obtain ⟨c, cs, -, -, rfl⟩ := h
    rfl
  | startOfText => exact hr.elim
  | endOfText => exact hr.elim
  | seq a b iha ihb =>
    obtain ⟨m, hm, hs'⟩ := h
    rw [ihb hr.2 hs', iha hr.1 hm]
  | opt a iha =>
    obtain h | rfl := h
    · exact iha hr h
    · rfl
  | star a iha =>
    induction h using Relation.ReflTransGen.head_induction_on with
    | refl => rfl
    | head hm _ ih => rw [ih, iha hr hm.1]
  | group index a iha => exact hr.elim

theorem matches_star_of_flatten
    (ha : ∀ {w before rest groups}, w ∈ a.language →
      a.Matches ⟨before, w ++ rest, groups⟩ ⟨before + w.length, rest, groups⟩)
    {pieces : List (List Char)} (hpieces : ∀ w ∈ pieces, w ∈ a.language ∧ w ≠ []) (before : ℕ)
    (rest : List Char) (groups : List (ℕ × List Char)) :
    (Regex.star a).Matches ⟨before, pieces.flatten ++ rest, groups⟩
      ⟨before + pieces.flatten.length, rest, groups⟩ := by
  induction pieces generalizing before with
  | nil => exact .refl
  | cons w pieces ih =>
    obtain ⟨⟨hw, hne⟩, hpieces⟩ := List.forall_mem_cons.mp hpieces
    have hrest := ih hpieces (before + w.length)
    rw [Nat.add_assoc, ← List.length_append, ← List.flatten_cons] at hrest
    rw [List.flatten_cons, List.append_assoc] at *
    have hlength : 0 < w.length := List.length_pos_iff.mpr hne
    exact .head ⟨ha hw, by simp; omega⟩ hrest

theorem Regex.IsPlain.matches_of_mem (hr : r.IsPlain) (hw : w ∈ r.language) (before : ℕ)
    (rest : List Char) (groups : List (ℕ × List Char)) :
    r.Matches ⟨before, w ++ rest, groups⟩ ⟨before + w.length, rest, groups⟩ := by
  induction r generalizing w before rest groups with
  | empty =>
    obtain rfl : w = [] := hw
    rfl
  | set cls =>
    obtain ⟨c, hc, rfl⟩ := hw
    exact ⟨c, rest, rfl, hc, rfl⟩
  | startOfText => exact hr.elim
  | endOfText => exact hr.elim
  | seq a b iha ihb =>
    obtain ⟨u, hu, v, hv, rfl⟩ := Language.mem_mul.mp hw
    rw [List.append_assoc, List.length_append, ← Nat.add_assoc]
    exact ⟨_, iha hr.1 hu before (v ++ rest) groups, ihb hr.2 hv _ rest groups⟩
  | opt a iha =>
    obtain hw | hw := hw
    · exact .inl (iha hr hw before rest groups)
    · obtain rfl : w = [] := hw
      exact .inr rfl
  | star a iha =>
    -- Iterations that read nothing are left out.
    obtain ⟨pieces, rfl, hpieces⟩ := Language.mem_kstar_iff_exists_nonempty.mp hw
    exact matches_star_of_flatten (fun hw => iha hr hw _ _ _) hpieces before rest groups
  | group index a iha => exact hr.elim

theorem Regex.IsPlain.matches_iff (hr : r.IsPlain) : r.Matches s s' ↔ ∃ w rest,
    w ∈ r.language ∧ s.rest = w ++ rest ∧ s' = ⟨s.before + w.length, rest, s.groups⟩ := by
  constructor
  · intro h
    obtain ⟨w, hw, hreads⟩ := h.reads
    have hgroups := hr.groups_eq h
    refine ⟨w, s'.rest, hw, hreads.rest, ?_⟩
    rw [← hreads.before, ← hgroups]
  · rintro ⟨w, rest, hw, hrest, rfl⟩
    have h := hr.matches_of_mem hw s.before rest s.groups
    rwa [← hrest] at h

theorem Regex.IsPlain.matches_group_iff (hr : r.IsPlain) {index : ℕ} :
    (Regex.group index r).Matches s s' ↔ ∃ w rest, w ∈ r.language ∧ s.rest = w ++ rest ∧
      s' = ⟨s.before + w.length, rest, (index, w) :: s.groups⟩ := by
  have hclose : ∀ {w rest : List Char}, s.rest = w ++ rest →
      Cursor.close ⟨s.before + w.length, rest, s.groups⟩ index s =
        ⟨s.before + w.length, rest, (index, w) :: s.groups⟩ := fun hrest =>
    Cursor.Reads.close ⟨hrest, rfl⟩ index
  constructor
  · rintro ⟨m, hm, rfl⟩
    obtain ⟨w, rest, hw, hrest, rfl⟩ := hr.matches_iff.mp hm
    exact ⟨w, rest, hw, hrest, hclose hrest⟩
  · rintro ⟨w, rest, hw, hrest, rfl⟩
    exact ⟨_, hr.matches_iff.mpr ⟨w, rest, hw, hrest, rfl⟩, (hclose hrest).symm⟩

@[simp] theorem language_literal (c : Char) : (Regex.literal c).language = {[c]} := by
  ext w
  refine ⟨?_, ?_⟩
  · rintro ⟨d, hd, rfl⟩
    have hbounds : c ≤ d ∧ d ≤ c := by simpa [CharClass.has, ClassItem.has] using hd
    rw [Char.le_antisymm hbounds.1 hbounds.2]
    rfl
  · rintro rfl
    exact ⟨c, by simp [CharClass.has, ClassItem.has], rfl⟩

theorem matches_literal_iff {c : Char} : (Regex.literal c).Matches s s' ↔
    ∃ rest, s.rest = c :: rest ∧ s' = ⟨s.before + 1, rest, s.groups⟩ := by
  have hplain : (Regex.literal c).IsPlain := trivial
  rw [hplain.matches_iff, language_literal]
  constructor
  · rintro ⟨_, rest, rfl, hrest, rfl⟩
    exact ⟨rest, hrest, rfl⟩
  · rintro ⟨rest, hrest, rfl⟩
    exact ⟨[c], rest, rfl, hrest, rfl⟩

theorem mem_language_star_set :
    w ∈ (Regex.star (.set cls)).language ↔ ∀ c ∈ w, cls.has c = true := by
  rw [Regex.language, Language.mem_kstar]
  constructor
  · rintro ⟨pieces, rfl, hpieces⟩ c hc
    obtain ⟨piece, hpiece, hmem⟩ := List.mem_flatten.mp hc
    obtain ⟨d, hd, rfl⟩ := hpieces piece hpiece
    rwa [List.mem_singleton.mp hmem]
  · intro hw
    refine ⟨w.map fun c => [c], by simp [← List.flatMap_def], fun piece hpiece => ?_⟩
    obtain ⟨c, hc, rfl⟩ := List.mem_map.mp hpiece
    exact ⟨c, hw c hc, rfl⟩

theorem mem_language_set_mul {L : Language Char} : w ∈ (Regex.set cls).language * L ↔
    ∃ c v, w = c :: v ∧ cls.has c = true ∧ v ∈ L := by
  rw [Language.mem_mul]
  constructor
  · rintro ⟨_, ⟨c, hc, rfl⟩, v, hv, rfl⟩
    exact ⟨c, v, rfl, hc, hv⟩
  · rintro ⟨c, v, rfl, hc, hv⟩
    exact ⟨[c], ⟨c, hc, rfl⟩, v, hv, rfl⟩

theorem mem_language_plus_set :
    w ∈ (Regex.plus (.set cls)).language ↔ w ≠ [] ∧ ∀ c ∈ w, cls.has c = true := by
  rw [Regex.plus, Regex.language, mem_language_set_mul]
  constructor
  · rintro ⟨c, v, rfl, hc, hv⟩
    exact ⟨by simp, List.forall_mem_cons.mpr ⟨hc, mem_language_star_set.mp hv⟩⟩
  · rintro ⟨hne, hw⟩
    obtain ⟨c, v, rfl⟩ := List.exists_cons_of_ne_nil hne
    obtain ⟨hc, hv⟩ := List.forall_mem_cons.mp hw
    exact ⟨c, v, rfl, hc, mem_language_star_set.mpr hv⟩

theorem mem_language_upTo_set {more : ℕ} :
    w ∈ (Regex.upTo (.set cls) more).language ↔
      (∀ c ∈ w, cls.has c = true) ∧ w.length ≤ more := by
  induction more generalizing w with
  | zero =>
    show w = [] ↔ _
    rw [Nat.le_zero, List.length_eq_zero_iff]
    exact ⟨fun h => ⟨by simp [h], h⟩, fun h => h.2⟩
  | succ more ih =>
    show w ∈ (Regex.set cls).language * (Regex.upTo (.set cls) more).language + 1 ↔ _
    rw [Language.mem_add, mem_language_set_mul, Language.mem_one]
    constructor
    · rintro (⟨c, v, rfl, hc, hv⟩ | rfl)
      · obtain ⟨hletters, hlength⟩ := ih.mp hv
        exact ⟨List.forall_mem_cons.mpr ⟨hc, hletters⟩, Nat.succ_le_succ hlength⟩
      · exact ⟨by simp, Nat.zero_le _⟩
    · rintro ⟨hletters, hlength⟩
      cases w with
      | nil => exact .inr rfl
      | cons c v =>
        obtain ⟨hc, hv⟩ := List.forall_mem_cons.mp hletters
        exact .inl ⟨c, v, rfl, hc, ih.mpr ⟨hv, Nat.le_of_succ_le_succ hlength⟩⟩

theorem mem_language_between_set {n more : ℕ} :
    w ∈ (Regex.between (.set cls) n more).language ↔
      (∀ c ∈ w, cls.has c = true) ∧ n ≤ w.length ∧ w.length ≤ n + more := by
  induction n generalizing w with
  | zero =>
    show w ∈ (Regex.upTo (.set cls) more).language * 1 ↔ _
    rw [mul_one, mem_language_upTo_set, Nat.zero_add]
    simp
  | succ n ih =>
    show w ∈ (Regex.set cls).language * (Regex.between (.set cls) n more).language ↔ _
    rw [mem_language_set_mul]
    constructor
    · rintro ⟨c, v, rfl, hc, hv⟩
      obtain ⟨hletters, hlow, hhigh⟩ := ih.mp hv
      refine ⟨List.forall_mem_cons.mpr ⟨hc, hletters⟩, ?_⟩
      rw [List.length_cons]
      omega
    · rintro ⟨hletters, hlow, hhigh⟩
      obtain ⟨c, v, rfl⟩ := List.exists_cons_of_length_pos (by omega : 0 < w.length)
      obtain ⟨hc, hv⟩ := List.forall_mem_cons.mp hletters
      rw [List.length_cons] at hlow hhigh
      exact ⟨c, v, rfl, hc, ih.mpr ⟨hv, by omega⟩⟩

@[simp] theorem language_seqOf_nil : (Regex.seqOf []).language = 1 := rfl

@[simp] theorem language_seqOf_cons (items : List Regex) :
    (Regex.seqOf (a :: items)).language = a.language * (Regex.seqOf items).language := rfl

theorem language_seqOf_literals (text : List Char) (items : List Regex) :
    (Regex.seqOf (text.map .literal ++ items)).language =
      {text} * (Regex.seqOf items).language := by
  induction text with
  | nil => rw [List.map_nil, List.nil_append, show ({[]} : Language Char) = 1 from rfl, one_mul]
  | cons c text ih =>
    rw [List.map_cons, List.cons_append, language_seqOf_cons, ih, language_literal, ← mul_assoc]
    congr 1
    ext w
    rw [Language.mem_mul]
    exact ⟨fun ⟨_, rfl, _, rfl, h⟩ => h.symm, fun h => ⟨[c], rfl, text, rfl, h.symm⟩⟩

end Languages

/-! ### Anchored expressions -/

section Anchored

variable [DecimalDigits] {items rest : List Regex} {s s' : Cursor} {text : String}

def Regex.anchored (items : List Regex) : Regex :=
  .seqOf (.startOfText :: (items ++ [.endOfText]))

theorem matches_seqOf_append : (Regex.seqOf (items ++ rest)).Matches s s' ↔
    ∃ m, (Regex.seqOf items).Matches s m ∧ (Regex.seqOf rest).Matches m s' := by
  induction items generalizing s with
  | nil => exact ⟨fun h => ⟨s, rfl, h⟩, fun ⟨m, hm, h⟩ => hm ▸ h⟩
  | cons item items ih =>
    constructor
    · rintro ⟨m, hm, h⟩
      obtain ⟨m', hm', hrest⟩ := ih.mp h
      exact ⟨m', ⟨m, hm, hm'⟩, hrest⟩
    · rintro ⟨m', ⟨m, hm, hm'⟩, hrest⟩
      exact ⟨m, hm, ih.mpr ⟨m', hm', hrest⟩⟩

/-- The last of the items reads to the end of the text. -/
theorem matches_seqOf_end : (Regex.seqOf (items ++ [.endOfText])).Matches s s' ↔
    (Regex.seqOf items).Matches s s' ∧ s'.rest = [] := by
  rw [matches_seqOf_append]
  constructor
  · rintro ⟨m, hm, _, ⟨hend, rfl⟩, rfl⟩
    exact ⟨hm, hend⟩
  · rintro ⟨hm, hend⟩
    exact ⟨s', hm, s', ⟨hend, rfl⟩, rfl⟩

theorem captures_anchored : (Regex.anchored items).captures text =
    ((Regex.seqOf (items ++ [.endOfText])).run some ⟨0, text.toList, []⟩).map Cursor.groups := by
  show ((Regex.seq .startOfText _).search 0 text.toList).map Cursor.groups = _
  rw [Regex.search_startOfText]
  rfl

theorem exists_matches_of_captures {caps : List (ℕ × List Char)}
    (h : (Regex.anchored items).captures text = some caps) :
    ∃ s', (Regex.seqOf items).Matches ⟨0, text.toList, []⟩ s' ∧ s'.rest = [] ∧
      s'.groups = caps := by
  rw [captures_anchored] at h
  obtain ⟨s', hrun, hcaps⟩ := Option.map_eq_some_iff.mp h
  obtain ⟨hmatches, hend⟩ := matches_seqOf_end.mp (Regex.run_some hrun)
  exact ⟨s', hmatches, hend, hcaps⟩

theorem isMatch_anchored_iff : (Regex.anchored items).isMatch text = true ↔
    ∃ s', (Regex.seqOf items).Matches ⟨0, text.toList, []⟩ s' ∧ s'.rest = [] := by
  rw [Regex.isMatch, Option.isSome_iff_exists]
  constructor
  · rintro ⟨caps, hcaps⟩
    obtain ⟨s', hmatches, hend, -⟩ := exists_matches_of_captures hcaps
    exact ⟨s', hmatches, hend⟩
  · rintro ⟨s', hmatches, hend⟩
    obtain ⟨m, hrun⟩ := Regex.exists_run_some (matches_seqOf_end.mpr ⟨hmatches, hend⟩)
    exact ⟨m.groups, by rw [captures_anchored, hrun]; rfl⟩

theorem mem_language_of_isMatch (h : (Regex.anchored items).isMatch text = true) :
    text.toList ∈ (Regex.seqOf items).language := by
  obtain ⟨s', hmatches, hend⟩ := isMatch_anchored_iff.mp h
  obtain ⟨w, hw, hreads⟩ := hmatches.reads
  have htext : text.toList = w := by simpa [hend] using hreads.rest
  rwa [htext]

/-- Without anchors and groups, the match is of the language. -/
theorem isMatch_anchored_iff_of_isPlain (hitems : ∀ item ∈ items, item.IsPlain) :
    (Regex.anchored items).isMatch text = true ↔
      text.toList ∈ (Regex.seqOf items).language := by
  refine ⟨mem_language_of_isMatch, fun h => isMatch_anchored_iff.mpr ?_⟩
  have hmatches := (Regex.isPlain_seqOf hitems).matches_of_mem h 0 [] []
  rw [List.append_nil] at hmatches
  exact ⟨_, hmatches, rfl⟩

end Anchored

end Coderd.Foundation
