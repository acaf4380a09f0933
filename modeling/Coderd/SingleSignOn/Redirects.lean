import Mathlib.Data.List.Basic

namespace Coderd.SingleSignOn

/-! ## Redirect targets -/

/-- What is read of a `url::Url`. -/
structure SplitUrl where
  path : String
  query : Option String

/-- What is read of an `http::Uri`. -/
structure SplitUri where
  pathAndQuery : Option String
  path : String
  deriving DecidableEq

/-- `url::Url::parse` and `http::Uri::from_str`. -/
class RedirectParsers where
  parseUrl : String → Option SplitUrl
  parseUri : String → Option SplitUri

open RedirectParsers

def SplitUrl.queryText (url : SplitUrl) : String :=
  match url.query with
  | some value => "?" ++ value
  | none => ""

def sanitizeRedirectUri [RedirectParsers] (input : String) : String :=
  match parseUrl input with
  | some url => if url.path = "" then "/" else url.path ++ url.queryText
  | none =>
    match parseUri input with
    | some uri =>
      match uri.pathAndQuery with
      | some pathAndQuery => pathAndQuery
      | none => if uri.path ≠ "" then uri.path else "/"
    | none => "/"

/-! ## Targets on this site -/

/-- The text begins with one slash, which neither a slash nor a backslash follows: against an
`http` address it is resolved to a path on the same host. -/
def OnSite (target : String) : Prop :=
  target.toList.head? = some '/' ∧ ∀ c ∈ target.toList.tail.head?, c ≠ '/' ∧ c ≠ '\\'

instance : DecidablePred OnSite := fun _ =>
  @instDecidableAnd _ _ _ (Option.decidableForallMem _)

/-- A query begins with neither a slash nor a backslash. -/
theorem onSite_append_query {url : SplitUrl} (hpath : url.path ≠ "") :
    OnSite (url.path ++ url.queryText) ↔ OnSite url.path := by
  have hquery : ∀ c ∈ url.queryText.toList.head?, c ≠ '/' ∧ c ≠ '\\' := by
    rw [SplitUrl.queryText]
    cases url.query with
    | none => simp
    | some value =>
      intro c hc
      rw [String.toList_append] at hc
      rw [← Option.some.inj hc]
      decide
  unfold OnSite
  rw [String.toList_append]
  cases hchars : url.path.toList with
  | nil => exact absurd (String.toList_eq_nil_iff.mp hchars) hpath
  | cons c cs =>
    rw [List.cons_append, List.head?_cons, List.head?_cons, List.tail_cons, List.tail_cons]
    cases cs with
    | nil =>
      rw [List.nil_append]
      exact and_congr_right fun _ => ⟨fun _ => by simp, fun _ => hquery⟩
    | cons d cs => rw [List.cons_append, List.head?_cons, List.head?_cons]

/-- The length in bytes up to which `http::Uri` takes a text. -/
def maxUriLength : ℕ := 65534

section Parsers

variable [RedirectParsers]

/-- The texts that are taken from an input as a path with its query. -/
inductive FoundTarget : String → Prop where
  | url {input : String} {url : SplitUrl} (h : parseUrl input = some url) :
    FoundTarget (url.path ++ url.queryText)
  | uri {input target : String} {uri : SplitUri} (h : parseUri input = some uri)
    (htarget : uri.pathAndQuery = some target) : FoundTarget target

/-- What the crates say of their parsers. -/
structure Documented : Prop where
  /-- A relative URL is no URL without its base. -/
  relative : ∀ text, text.toList.head? = some '/' → parseUrl text = none
  /-- Of a URI only the authority form has no path-and-query, and it has no path either. -/
  authorityForm : ∀ text uri, parseUri text = some uri → uri.pathAndQuery = none → uri.path = ""
  root : ∃ uri, parseUri "/" = some uri ∧ uri.pathAndQuery = some "/"
  /-- The characters of a path and query that either parser gives are taken by `http::Uri`. -/
  originForm : ∀ text, FoundTarget text → text.toList.head? = some '/' →
    text.utf8ByteSize ≤ maxUriLength →
      ∃ uri, parseUri text = some uri ∧ uri.pathAndQuery = some text
  tooLong : ∀ text uri, parseUri text = some uri → text.utf8ByteSize ≤ maxUriLength
  /-- A path-and-query is a part of the text. -/
  within : ∀ text uri target, parseUri text = some uri → uri.pathAndQuery = some target →
    target.utf8ByteSize ≤ text.utf8ByteSize

/-- The path that the parsers split off begins with one slash, and `http::Uri` takes it with its
query. -/
structure Confined (input : String) : Prop where
  absolute : ∀ url, parseUrl input = some url →
    url.path = "" ∨ OnSite url.path ∧ (url.path ++ url.queryText).utf8ByteSize ≤ maxUriLength
  relative : parseUrl input = none → ∀ uri, parseUri input = some uri →
    ∀ target ∈ uri.pathAndQuery, OnSite target

theorem confined_iff_of_url {input : String} {url : SplitUrl} (hurl : parseUrl input = some url) :
    Confined input ↔ url.path = "" ∨
      OnSite url.path ∧ (url.path ++ url.queryText).utf8ByteSize ≤ maxUriLength := by
  constructor
  · exact fun h => h.absolute url hurl
  · refine fun h => ⟨fun other hother => ?_, fun hnone => ?_⟩
    · rw [hurl] at hother
      cases hother
      exact h
    · rw [hurl] at hnone
      cases hnone

theorem confined_iff_of_uri {input : String} (hurl : parseUrl input = none) :
    Confined input ↔ ∀ uri, parseUri input = some uri →
      ∀ target ∈ uri.pathAndQuery, OnSite target := by
  constructor
  · exact fun h => h.relative hurl
  · refine fun h => ⟨fun url hother => ?_, fun _ => h⟩
    rw [hurl] at hother
    cases hother

/-! ## What is returned -/

section Returned

variable {input target : String} (hdocumented : Documented)

include hdocumented

theorem sanitizeRedirectUri_of_relative (htarget : target.toList.head? = some '/') {uri : SplitUri}
    (huri : parseUri target = some uri) (hpath : uri.pathAndQuery = some target) :
    sanitizeRedirectUri target = target := by
  rw [sanitizeRedirectUri, hdocumented.relative target htarget]
  simp only [huri, hpath]

theorem sanitizeRedirectUri_root : sanitizeRedirectUri "/" = "/" := by
  obtain ⟨uri, huri, hpath⟩ := hdocumented.root
  exact sanitizeRedirectUri_of_relative hdocumented rfl huri hpath

/-- A target on this site that was found is returned as it is, unless it is too long. -/
theorem sanitizeRedirectUri_eq_self_iff (hfound : FoundTarget target) (hsite : OnSite target) :
    sanitizeRedirectUri target = target ↔ target.utf8ByteSize ≤ maxUriLength := by
  constructor
  · intro h
    by_contra hlong
    have hnone : parseUri target = none := by
      rw [Option.eq_none_iff_forall_not_mem]
      exact fun uri huri => hlong (hdocumented.tooLong target uri huri)
    rw [sanitizeRedirectUri, hdocumented.relative target hsite.1] at h
    simp only [hnone] at h
    rw [← h] at hlong
    exact hlong (by decide)
  · intro hlength
    obtain ⟨uri, huri, hpath⟩ := hdocumented.originForm target hfound hsite.1 hlength
    exact sanitizeRedirectUri_of_relative hdocumented hsite.1 huri hpath

theorem onSite_iff_of_url {url : SplitUrl} (hurl : parseUrl input = some url) :
    (OnSite (sanitizeRedirectUri input) ∧
      sanitizeRedirectUri (sanitizeRedirectUri input) = sanitizeRedirectUri input) ↔
    url.path = "" ∨
      OnSite url.path ∧ (url.path ++ url.queryText).utf8ByteSize ≤ maxUriLength := by
  have hresult : sanitizeRedirectUri input =
      if url.path = "" then "/" else url.path ++ url.queryText := by
    rw [sanitizeRedirectUri, hurl]
  by_cases hpath : url.path = ""
  · rw [hresult, if_pos hpath]
    exact ⟨fun _ => .inl hpath, fun _ => ⟨by decide, sanitizeRedirectUri_root hdocumented⟩⟩
  · rw [hresult, if_neg hpath, or_iff_right hpath, ← onSite_append_query hpath]
    exact and_congr_right fun hsite =>
      sanitizeRedirectUri_eq_self_iff hdocumented (.url hurl) hsite

theorem onSite_iff_of_uri (hurl : parseUrl input = none) :
    (OnSite (sanitizeRedirectUri input) ∧
      sanitizeRedirectUri (sanitizeRedirectUri input) = sanitizeRedirectUri input) ↔
    ∀ uri, parseUri input = some uri → ∀ target ∈ uri.pathAndQuery, OnSite target := by
  have hroot : OnSite "/" ∧ sanitizeRedirectUri "/" = "/" :=
    ⟨by decide, sanitizeRedirectUri_root hdocumented⟩
  rw [sanitizeRedirectUri, hurl]
  cases huri : parseUri input with
  | none =>
    refine ⟨fun _ uri h => ?_, fun _ => hroot⟩
    cases h
  | some uri =>
    simp only [Option.some.injEq, forall_eq']
    cases htarget : uri.pathAndQuery with
    | none =>
      simp only [hdocumented.authorityForm input uri huri htarget, ne_eq, not_true_eq_false,
        if_false]
      refine ⟨fun _ target h => ?_, fun _ => hroot⟩
      cases h
    | some target =>
      simp only [Option.mem_def, Option.some.injEq, forall_eq']
      refine ⟨fun h => h.1, fun hsite => ⟨hsite, ?_⟩⟩
      rw [sanitizeRedirectUri_eq_self_iff hdocumented (.uri huri htarget) hsite]
      exact Nat.le_trans (hdocumented.within input uri target huri htarget)
        (hdocumented.tooLong input uri huri)

/-- The target is on this site, and returned as it is when it is given again, if and only if the
input is confined to a path. -/
theorem sanitizeRedirectUri_onSite_iff (input : String) :
    (OnSite (sanitizeRedirectUri input) ∧
      sanitizeRedirectUri (sanitizeRedirectUri input) = sanitizeRedirectUri input) ↔
    Confined input := by
  cases hurl : parseUrl input with
  | some url => rw [onSite_iff_of_url hdocumented hurl, confined_iff_of_url hurl]
  | none => rw [onSite_iff_of_uri hdocumented hurl, confined_iff_of_uri hurl]

end Returned

end Parsers

/-! ## Parsers that know one address -/

def isTargetChar (c : Char) : Bool :=
  33 ≤ c.toNat && c.toNat < 127 && ['"', '#', '<', '>', '`', '{', '}'].all (· ≠ c)

/-- Paths with their queries are taken, and one address. -/
@[reducible]
def originParsers : RedirectParsers where
  parseUrl text :=
    if text = "https://coder.example/workspaces?filter=all" then
      some ⟨"/workspaces", some "filter=all"⟩
    else none
  parseUri text :=
    if text.toList.head? = some '/' ∧ text.toList.all isTargetChar ∧
        text.utf8ByteSize ≤ maxUriLength then
      some ⟨some text, String.ofList (text.toList.takeWhile (· ≠ '?'))⟩
    else none

theorem parseUri_originParsers {text : String} {uri : SplitUri}
    (h : originParsers.parseUri text = some uri) :
    uri.pathAndQuery = some text ∧ text.utf8ByteSize ≤ maxUriLength := by
  unfold originParsers at h
  dsimp only at h
  split at h
  · rename_i hchars
    cases h
    exact ⟨rfl, hchars.2.2⟩
  · cases h

theorem originParsers_documented : @Documented originParsers := by
  refine @Documented.mk originParsers ?_ ?_ ⟨⟨some "/", "/"⟩, by decide, rfl⟩ ?_ ?_ ?_
  · intro text htext
    refine if_neg ?_
    rintro rfl
    cases htext
  · intro text uri huri hnone
    rw [(parseUri_originParsers huri).1] at hnone
    cases hnone
  · rintro text (⟨hurl⟩ | ⟨huri, htarget⟩) - -
    · unfold originParsers at hurl
      dsimp only at hurl
      split at hurl
      · cases hurl
        exact ⟨⟨some "/workspaces?filter=all", "/workspaces"⟩, by decide, rfl⟩
      · cases hurl
    · have hpath := (parseUri_originParsers huri).1
      rw [htarget] at hpath
      cases hpath
      exact ⟨_, huri, htarget⟩
  · exact fun _ _ huri => (parseUri_originParsers huri).2
  · intro text uri target huri htarget
    rw [(parseUri_originParsers huri).1] at htarget
    cases htarget
    exact Nat.le_refl _

theorem sanitizeRedirectUri_onSite_workspaces :
    OnSite (@sanitizeRedirectUri originParsers "https://coder.example/workspaces?filter=all") ∧
      @sanitizeRedirectUri originParsers
        (@sanitizeRedirectUri originParsers "https://coder.example/workspaces?filter=all") =
      @sanitizeRedirectUri originParsers "https://coder.example/workspaces?filter=all" :=
  (@sanitizeRedirectUri_onSite_iff originParsers originParsers_documented _).mpr
    ((@confined_iff_of_url originParsers _ ⟨"/workspaces", some "filter=all"⟩ (if_pos rfl)).mpr
      (.inr ⟨by decide, by decide⟩))

/-- A path that begins with two slashes names another host. -/
theorem sanitizeRedirectUri_evil :
    @Documented originParsers ∧
      @sanitizeRedirectUri originParsers "//evil.example/x" = "//evil.example/x" ∧
      ¬ OnSite "//evil.example/x" :=
  ⟨originParsers_documented, by decide, by decide⟩

end Coderd.SingleSignOn
