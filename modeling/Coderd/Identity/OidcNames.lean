import Coderd.Foundation.Json
import Coderd.Identity.Usernames

namespace Coderd.Identity

open Coderd.Foundation
open Coderd.WorkspaceApps (IsName isHyphen isHyphen_of_isAlphanum nameRegex nameRegex_iff)

/-! ## Deriving -/

structure OidcClaims where
  sub : String
  email : Option String
  name : Option String
  preferredUsername : Option String
  /-- All other claims of the token. -/
  extra : List (String × Json)

structure OidcConfig where
  usernameField : String

def extractClaim (claims : OidcClaims) (field : String) : Option String :=
  match field with
  | "email" => claims.email
  | "name" => claims.name
  | "preferred_username" => claims.preferredUsername
  | "sub" => some claims.sub
  | field => (claims.extra.lookup field).bind Json.asStr

def sanitizeUsername (input : String) : String :=
  String.ofList (input.toList.filterMap fun c =>
    if c.isAlphanum || c = '-' || c = '_' then some c.toLower
    else if c = ' ' || c = '.' || c = '@' then some '-'
    else none)

/-- The first eight characters of the subject stand in where there is no address either. -/
def oidcFallbackUsername (claims : OidcClaims) : String :=
  match claims.email with
  | some email => sanitizeUsername (String.ofList (email.toList.takeWhile (· ≠ '@')))
  | none => sanitizeUsername ("user-" ++ String.ofList (claims.sub.toList.take 8))

def oidcDeriveUsername (claims : OidcClaims) (config : OidcConfig) : String :=
  match extractClaim claims config.usernameField with
  | some username =>
    if !username.isEmpty then sanitizeUsername username else oidcFallbackUsername claims
  | none => oidcFallbackUsername claims

/-! ## Texts that make names -/

/-- The text that a name is made of. -/
def usernameSource (claims : OidcClaims) (config : OidcConfig) : String :=
  let other := match claims.email with
    | some email => String.ofList (email.toList.takeWhile (· ≠ '@'))
    | none => "user-" ++ String.ofList (claims.sub.toList.take 8)
  match extractClaim claims config.usernameField with
  | some username => if username.isEmpty then other else username
  | none => other

theorem oidcDeriveUsername_eq (claims : OidcClaims) (config : OidcConfig) :
    oidcDeriveUsername claims config = sanitizeUsername (usernameSource claims config) := by
  have hfallback : oidcFallbackUsername claims = sanitizeUsername (match claims.email with
      | some email => String.ofList (email.toList.takeWhile (· ≠ '@'))
      | none => "user-" ++ String.ofList (claims.sub.toList.take 8)) := by
    rw [oidcFallbackUsername]
    cases claims.email <;> rfl
  rw [oidcDeriveUsername, usernameSource, hfallback]
  cases extractClaim claims config.usernameField with
  | none => rfl
  | some username => cases hempty : username.isEmpty <;> simp [hempty]

def isSeparator (c : Char) : Bool := c = '-' || c = ' ' || c = '.' || c = '@'

/-- Of other characters nothing is left in the name. -/
def kept (source : String) : List Char :=
  source.toList.filter fun c => c.isAlphanum || c = '_' || isSeparator c

/-- ASCII letters and digits with single separators between them, at most 32 of both, that spell no
reserved name; of the other characters the underscore must not occur. -/
structure Nameable (source : String) : Prop where
  separated : Separated Char.isAlphanum isSeparator (kept source)
  length_le : (kept source).length ≤ 32
  free : String.ofList ((kept source).map Char.toLower) ∉ reservedUsernames

/-! ## The derived name -/

section Derived

variable {c : Char} {source : String}

def sanitizeKept (c : Char) : Char := if c = ' ' || c = '.' || c = '@' then '-' else c.toLower

theorem sanitizeUsername_toList (source : String) :
    (sanitizeUsername source).toList = (kept source).map sanitizeKept := by
  rw [sanitizeUsername, String.toList_ofList, kept, ← List.filterMap_eq_map', List.filterMap_filter]
  congr 1
  funext c
  by_cases hseparator : c = ' ' ∨ c = '.' ∨ c = '@'
  · obtain rfl | rfl | rfl := hseparator <;> rfl
  · obtain ⟨hspace, hdot, hat⟩ := by simpa only [not_or] using hseparator
    simp [sanitizeKept, isSeparator, hspace, hdot, hat, or_right_comm]

theorem isAlphanum_sanitizeKept (c : Char) : (sanitizeKept c).isAlphanum = c.isAlphanum := by
  rw [sanitizeKept]
  split
  · rename_i h
    simp only [Bool.or_eq_true, decide_eq_true_eq] at h
    obtain (rfl | rfl) | rfl := h <;> rfl
  · exact isAlphanum_toLower c

theorem sanitizeKept_of_alphanum (h : c.isAlphanum = true) : sanitizeKept c = c.toLower := by
  rw [sanitizeKept, if_neg]
  intro hseparator
  simp only [Bool.or_eq_true, decide_eq_true_eq] at hseparator
  obtain (rfl | rfl) | rfl := hseparator <;> cases h

theorem isHyphen_sanitizeKept (c : Char) : isHyphen (sanitizeKept c) = isSeparator c := by
  cases halnum : c.isAlphanum with
  | true =>
    rw [isHyphen_of_isAlphanum _ (by rw [isAlphanum_sanitizeKept, halnum])]
    refine (Bool.eq_false_iff.mpr fun hseparator => ?_).symm
    simp only [isSeparator, Bool.or_eq_true, decide_eq_true_eq] at hseparator
    obtain ((rfl | rfl) | rfl) | rfl := hseparator <;> cases halnum
  | false =>
    have hlower : c.toLower = c := by
      refine toLower_of_not_isUpper (Bool.eq_false_iff.mpr fun hupper => ?_)
      rw [isAlphanum_eq, hupper] at halnum
      cases halnum
    rw [sanitizeKept, hlower, isSeparator, isHyphen]
    by_cases hseparator : c = ' ' ∨ c = '.' ∨ c = '@'
    · obtain rfl | rfl | rfl := hseparator <;> rfl
    · obtain ⟨hspace, hdot, hat⟩ := by simpa only [not_or] using hseparator
      simp [hspace, hdot, hat]

theorem isName_sanitizeUsername_iff : IsName (sanitizeUsername source).toList ↔
    Separated Char.isAlphanum isSeparator (kept source) := by
  have hletter : Char.isAlphanum ∘ sanitizeKept = Char.isAlphanum := funext isAlphanum_sanitizeKept
  have hsep : isHyphen ∘ sanitizeKept = isSeparator := funext isHyphen_sanitizeKept
  rw [sanitizeUsername_toList, IsName, Separated.map_iff, hletter, hsep]

theorem sanitizeUsername_mem_reserved_iff : sanitizeUsername source ∈ reservedUsernames ↔
    String.ofList ((kept source).map Char.toLower) ∈ reservedUsernames := by
  refine mem_reserved_congr fun name hname => ?_
  obtain ⟨hword, -⟩ := isWord_reserved hname
  rw [← String.toList_inj, sanitizeUsername_toList,
    map_eq_word_iff isAlphanum_sanitizeKept (fun c => sanitizeKept_of_alphanum) hword,
    ← String.toList_inj, String.toList_ofList]

/-- The derived name is valid, and a name that an application hostname can carry, if and only if
the text it is made of is nameable. -/
theorem oidcDeriveUsername_accepted_iff (claims : OidcClaims) (config : OidcConfig) :
    (validateUsername (oidcDeriveUsername claims config) = .ok () ∧
      nameRegex (oidcDeriveUsername claims config) = true) ↔
    Nameable (usernameSource claims config) := by
  rw [oidcDeriveUsername_eq, validateUsername_ok_iff, nameRegex_iff, isName_sanitizeUsername_iff,
    sanitizeUsername_mem_reserved_iff, sanitizeUsername_toList, List.length_map]
  constructor
  · rintro ⟨⟨hseparated, hlength, hfree⟩, -⟩
    exact ⟨hseparated, hlength, hfree⟩
  · rintro ⟨hseparated, hlength, hfree⟩
    exact ⟨⟨hseparated, hlength, hfree⟩, hseparated⟩

theorem oidcDeriveUsername_underscore :
    let username := oidcDeriveUsername ⟨"8f2a", none, none, some "john_doe", []⟩
      ⟨"preferred_username"⟩
    validateUsername username = .error (.validation "must be alphanumeric with hyphens") ∧
      nameRegex username = false := by
  decide

end Derived

end Coderd.Identity
