import Coderd.Auth.Middleware
import Coderd.Foundation.Sha256
import Coderd.Foundation.Texts
import Coderd.Foundation.Trim

namespace Coderd.WorkspaceApps

open Coderd.Foundation
open Coderd.Auth (HeaderMap HeaderValue cookieFromHeaders isVisibleAscii sessionTokenCookie trim)
open Coderd.Rbac (splitOnce)

/-! ## Names -/

def pathAppSessionTokenCookie : String := "coder_path_app_session_token"

def subdomainAppSessionTokenCookiePrefix : String := "coder_subdomain_app_session_token"

def signedAppTokenCookie : String := "coder_signed_app_token"

def oauth2StateCookie : String := "oauth_state"

def oauth2RedirectCookie : String := "oauth_redirect"

/-- A byte in two hexadecimal digits. -/
def hexByte (byte : UInt8) : List Char := Uuid.toHex 2 byte.toNat

/-- The name for a hostname, with the first 16 bytes of its digest. -/
def subdomainAppSessionTokenCookie (hostname : String) : String :=
  let hash := Sha2.digest hostname.toUTF8.data.toList
  subdomainAppSessionTokenCookiePrefix ++ "_" ++ String.ofList ((hash.take 16).flatMap hexByte)

/-- The names of the cookies with credentials, over all hostnames. -/
inductive IsCoderCookie : String → Prop where
  | session : IsCoderCookie sessionTokenCookie
  | pathApp : IsCoderCookie pathAppSessionTokenCookie
  | subdomainApp (hostname : String) : IsCoderCookie (subdomainAppSessionTokenCookie hostname)
  | signedApp : IsCoderCookie signedAppTokenCookie
  | oauthState : IsCoderCookie oauth2StateCookie
  | oauthRedirect : IsCoderCookie oauth2RedirectCookie

/-! ## Stripping -/

def coderCookiePrefixes : List String :=
  ["coder_session_token", "coder_path_app_session_token", "coder_subdomain_app_session_token",
    "coder_signed_app_token", "oauth_state", "oauth_redirect"]

def startsWithCoderPrefix (name : List Char) : Bool :=
  coderCookiePrefixes.any fun start => start.toList.isPrefixOf name

/-- `split('=')` of an entry starts with what comes before the first one. -/
def stripCoderCookies (cookieHeader : String) : String :=
  String.ofList ("; ".toList.intercalate
    ((cookieHeader.toList.splitOn ';').filterMap fun cookie =>
      let trimmed := trim cookie
      let name := trim (trimmed.takeWhile (· ≠ '='))
      if startsWithCoderPrefix name then none else some trimmed))

/-! ## Entries -/

/-- The trimmed entries of a header's text. -/
def entriesOf (text : List Char) : List (List Char) := (text.splitOn ';').map trim

/-- The value of an entry for the name. -/
def valueFor (name : String) (entry : List Char) : Option String :=
  match splitOnce (String.ofList entry) '=' with
  | some (candidateName, candidateValue) =>
    if candidateName = name then some candidateValue else none
  | none => none

/-- All values that a header has for the name, in their order. -/
def cookieValues (header : HeaderValue) (name : String) : List String :=
  (entriesOf header.text.toList).filterMap (valueFor name)

theorem cookieFromHeaders_eq_head? {headers : HeaderMap} {header : HeaderValue}
    (h : headers.cookie = some header) (name : String) :
    cookieFromHeaders headers name = (cookieValues header name).head? := by
  rw [cookieFromHeaders, h, Option.bind_some, cookieValues, List.head?_filterMap, entriesOf,
    List.findSome?_map]
  rfl

def isCoderEntry (entry : List Char) : Bool :=
  startsWithCoderPrefix (trim (entry.takeWhile (· ≠ '=')))

theorem toList_stripCoderCookies (text : String) : (stripCoderCookies text).toList =
    [';', ' '].intercalate ((entriesOf text.toList).filter fun entry => !isCoderEntry entry) := by
  rw [stripCoderCookies, String.toList_ofList, entriesOf]
  congr 1
  induction text.toList.splitOn ';' with
  | nil => rfl
  | cons cookie cookies ih =>
    rw [List.filterMap_cons, List.map_cons, List.filter_cons, ih]
    by_cases hcoder : isCoderEntry (trim cookie) = true
    · simp [isCoderEntry] at hcoder
      simp [isCoderEntry, hcoder]
    · simp [isCoderEntry] at hcoder
      simp [isCoderEntry, hcoder]

/-! ## Reading what was joined -/

theorem trim_trimmed (text : List Char) : Trimmed Char.isWhitespace (trim text) :=
  trimmed_trimBy text

theorem mem_entriesOf {text entry : List Char} (h : entry ∈ entriesOf text) :
    Trimmed Char.isWhitespace entry ∧ ';' ∉ entry := by
  obtain ⟨piece, hpiece, rfl⟩ := List.mem_map.mp h
  refine ⟨trim_trimmed piece, fun hmem => notMem_of_mem_splitOn hpiece ?_⟩
  obtain ⟨u, v, heq, -, -⟩ := exists_eq_trimBy Char.isWhitespace piece
  rw [heq]
  exact List.mem_append_left _ (List.mem_append_right _ hmem)

/-- The space that an entry is joined with is trimmed off again. -/
theorem entriesOf_intercalate {entries : List (List Char)} (hne : entries ≠ [])
    (hentries : ∀ entry ∈ entries, Trimmed Char.isWhitespace entry ∧ ';' ∉ entry) :
    entriesOf ([';', ' '].intercalate entries) = entries := by
  cases entries with
  | nil => exact absurd rfl hne
  | cons entry entries =>
    obtain ⟨⟨htrimmed, hfree⟩, hrest⟩ := List.forall_mem_cons.mp hentries
    have hpieces : ∀ piece ∈ entry :: entries.map (' ' :: ·), ';' ∉ piece := by
      refine List.forall_mem_cons.mpr ⟨hfree, fun piece hpiece => ?_⟩
      obtain ⟨next, hnext, rfl⟩ := List.mem_map.mp hpiece
      exact List.not_mem_cons_of_ne_of_not_mem (by decide) (hrest next hnext).2
    have hsplit := List.splitOn_intercalate ';' hpieces (List.cons_ne_nil _ _)
    have htrim : ∀ next ∈ entries, trim (' ' :: next) = next := fun next hnext =>
      (trimBy_cons_of_pos rfl next).trans (trimBy_of_trimmed (hrest next hnext).1)
    have hrestored : (entries.map (' ' :: ·)).map trim = entries := by
      rw [List.map_map]
      exact (List.map_congr_left htrim).trans (List.map_id entries)
    rw [entriesOf, intercalate_pair, hsplit, List.map_cons, hrestored]
    exact congrArg (· :: entries) (trimBy_of_trimmed htrimmed)

/-- Without an entry that is kept, the text is empty, and has the empty entry. -/
theorem entriesOf_stripCoderCookies (text : String) :
    entriesOf (stripCoderCookies text).toList =
      if ((entriesOf text.toList).filter fun entry => !isCoderEntry entry) = [] then [[]]
      else (entriesOf text.toList).filter fun entry => !isCoderEntry entry := by
  rw [toList_stripCoderCookies]
  split
  · rename_i hnone
    rw [hnone]
    rfl
  · rename_i hsome
    exact entriesOf_intercalate hsome fun entry hentry =>
      mem_entriesOf (List.mem_of_mem_filter hentry)

/-! ## Which entries are stripped -/

theorem splitOnce_ofList_eq_some {entry : List Char} {name value : String}
    (h : splitOnce (String.ofList entry) '=' = some (name, value)) :
    name.toList = entry.takeWhile (· ≠ '=') := by
  rw [splitOnce, String.toList_ofList, List.span_eq_takeWhile_dropWhile] at h
  split at h
  · cases h
  · rename_i before c after hspan
    cases h
    rw [String.toList_ofList]
    exact (Prod.ext_iff.mp hspan).1.symm

theorem takeWhile_of_valueFor {entry : List Char} {name value : String}
    (h : valueFor name entry = some value) : entry.takeWhile (· ≠ '=') = name.toList := by
  unfold valueFor at h
  split at h
  · rename_i candidateName candidateValue hsplit
    split at h
    · rename_i hname
      rw [← hname]
      exact (splitOnce_ofList_eq_some hsplit).symm
    · cases h
  · cases h

theorem startsWithCoderPrefix_iff {name : List Char} : startsWithCoderPrefix name = true ↔
    ∃ start ∈ coderCookiePrefixes, start.toList <+: name := by
  simp [startsWithCoderPrefix]

/-- An entry for a name that starts like one of Coder's is stripped, trimmed or not. -/
theorem isCoderEntry_of_start {entry : List Char} {name value : String}
    (hinit : startsWithCoderPrefix name.toList = true) (h : valueFor name entry = some value) :
    isCoderEntry entry = true := by
  obtain ⟨start, hstart, hname⟩ := startsWithCoderPrefix_iff.mp hinit
  have hplain :
      coderCookiePrefixes.all (fun start => start.toList.all (!·.isWhitespace)) = true := by
    decide
  have hletters : ∀ c ∈ start.toList, c.isWhitespace = false := fun c hc => by
    simpa using List.all_eq_true.mp (List.all_eq_true.mp hplain start hstart) c hc
  rw [isCoderEntry, takeWhile_of_valueFor h]
  exact startsWithCoderPrefix_iff.mpr ⟨start, hstart, prefix_trimBy hletters hname⟩

/-- An entry for any other name is kept: a name within a trimmed entry has no white space before
it. -/
theorem not_isCoderEntry_of_not_start {entry : List Char} {name value : String}
    (htrimmed : Trimmed Char.isWhitespace entry)
    (hinit : startsWithCoderPrefix name.toList = false) (h : valueFor name entry = some value) :
    isCoderEntry entry = false := by
  have hname := takeWhile_of_valueFor h
  refine Bool.eq_false_iff.mpr fun hcoder => ?_
  rw [isCoderEntry, hname] at hcoder
  obtain ⟨start, hstart, hbegins⟩ := startsWithCoderPrefix_iff.mp hcoder
  have hhead : ∀ c ∈ name.toList.head?, c.isWhitespace = false := by
    intro c hc
    rw [← hname] at hc
    refine htrimmed.1 c ?_
    cases entry with
    | nil => cases hc
    | cons d entry =>
      rw [List.takeWhile_cons] at hc
      split at hc
      · exact hc
      · cases hc
  have hwhole : start.toList <+: name.toList := hbegins.trans (trimBy_prefix_of_head hhead)
  rw [startsWithCoderPrefix_iff.mpr ⟨start, hstart, hwhole⟩] at hinit
  cases hinit

/-! ## The header that goes on -/

theorem mem_entriesOf_text {text entry : List Char} {c : Char} (h : entry ∈ entriesOf text)
    (hc : c ∈ entry) : c ∈ text := by
  obtain ⟨piece, hpiece, rfl⟩ := List.mem_map.mp h
  obtain ⟨u, v, heq, -, -⟩ := exists_eq_trimBy Char.isWhitespace piece
  refine mem_of_mem_splitOn hpiece ?_
  rw [heq]
  exact List.mem_append_left _ (List.mem_append_right _ hc)

theorem visible_stripCoderCookies (header : HeaderValue) :
    (stripCoderCookies header.text).toList.all isVisibleAscii = true := by
  refine List.all_eq_true.mpr fun c hc => ?_
  rw [toList_stripCoderCookies] at hc
  obtain hsep | ⟨entry, hentry, hmem⟩ := mem_intercalate hc
  · have hvisible : [';', ' '].all isVisibleAscii = true := by decide
    exact List.all_eq_true.mp hvisible c hsep
  · exact List.all_eq_true.mp header.visible c
      (mem_entriesOf_text (List.mem_of_mem_filter hentry) hmem)

/-- The header with the text that is left. -/
def stripped (header : HeaderValue) : HeaderValue :=
  ⟨stripCoderCookies header.text, visible_stripCoderCookies header⟩

theorem cookieValues_stripped (header : HeaderValue) (name : String) :
    cookieValues (stripped header) name =
      ((entriesOf header.text.toList).filter fun entry => !isCoderEntry entry).filterMap
        (valueFor name) := by
  have hempty : valueFor name [] = none := rfl
  rw [cookieValues, stripped, entriesOf_stripCoderCookies]
  split
  · rename_i hnone
    rw [hnone, List.filterMap_cons, hempty]
  · rfl

theorem cookieValues_stripped_of_start (header : HeaderValue) {name : String}
    (hinit : startsWithCoderPrefix name.toList = true) :
    cookieValues (stripped header) name = [] := by
  rw [cookieValues_stripped, List.filterMap_eq_nil_iff]
  intro entry hentry
  rw [Option.eq_none_iff_forall_ne_some]
  intro value hvalue
  have hkept := (List.mem_filter.mp hentry).2
  rw [isCoderEntry_of_start hinit hvalue] at hkept
  cases hkept

theorem cookieValues_stripped_of_not_start (header : HeaderValue) {name : String}
    (hinit : startsWithCoderPrefix name.toList = false) :
    cookieValues (stripped header) name = cookieValues header name := by
  rw [cookieValues_stripped, cookieValues, List.filterMap_filter]
  refine List.filterMap_congr fun entry hentry => ?_
  cases hvalue : valueFor name entry with
  | none => exact ite_self none
  | some value =>
    rw [not_isCoderEntry_of_not_start (mem_entriesOf hentry).1 hinit hvalue]
    rfl

theorem stripCoderCookies_stripped (header : HeaderValue) :
    stripCoderCookies (stripped header).text = stripCoderCookies header.text := by
  refine String.toList_inj.mp ?_
  rw [toList_stripCoderCookies, stripped, entriesOf_stripCoderCookies, toList_stripCoderCookies]
  split
  · rename_i hnone
    rw [hnone]
    decide
  · simp only [List.filter_filter, Bool.and_self]

theorem IsCoderCookie.startsWithCoderPrefix {name : String} (h : IsCoderCookie name) :
    startsWithCoderPrefix name.toList = true := by
  cases h with
  | subdomainApp hostname =>
    refine startsWithCoderPrefix_iff.mpr
      ⟨subdomainAppSessionTokenCookiePrefix, by decide, ?_⟩
    rw [subdomainAppSessionTokenCookie, String.toList_append, String.toList_append,
      List.append_assoc]
    exact List.prefix_append _ _
  | _ => decide

/-- What goes on of a Cookie header has no cookie with a credential, all the others as they were,
and nothing more to strip. -/
theorem stripCoderCookies_keeps_credentials_back (header : HeaderValue) :
    ∃ left, HeaderValue.fromStr (stripCoderCookies header.text) = some left ∧
      (∀ headers name, headers.cookie = some left → IsCoderCookie name →
        cookieFromHeaders headers name = none) ∧
      (∀ name, startsWithCoderPrefix name.toList = false →
        cookieValues left name = cookieValues header name) ∧
      stripCoderCookies left.text = stripCoderCookies header.text := by
  refine ⟨stripped header, dif_pos (visible_stripCoderCookies header), ?_,
    fun name hinit => cookieValues_stripped_of_not_start header hinit,
    stripCoderCookies_stripped header⟩
  intro headers name hcookie hname
  rw [cookieFromHeaders_eq_head? hcookie,
    cookieValues_stripped_of_start header hname.startsWithCoderPrefix, List.head?_nil]

end Coderd.WorkspaceApps
