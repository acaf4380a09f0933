import Coderd.License.Merging

namespace Coderd.License

open Coderd.Foundation
open CryptoKeys (OffsetDateTime)

/-! ## What is claimed -/

/-- The start of the validity, which nothing asks for. -/
def LicenseClaims.notBefore (claims : LicenseClaims) : OffsetDateTime :=
  (fromUnixTimestamp claims.nbf).getD .unixEpoch

/-- The feature is in the feature set or has a positive claim of its own. -/
def LicenseClaims.Names (claims : LicenseClaims) (name : FeatureName) : Prop :=
  name ∈ featuresForSet claims.effectiveSet ∨
    ∃ value, claims.features.lookup name.asStr = some value ∧ 0 < value

section

variable {DecodingKey Algorithm : Type}

/-- The token is signed with the key that its header names, and holds the claims. -/
def Signed (validator : LicenseValidator DecodingKey Algorithm) (jwt : String)
    (claims : LicenseClaims) : Prop :=
  ∃ kid alg key, validator.jsonwebtoken.decodeHeader jwt = .ok (kid, alg) ∧
    validator.keys.lookup (kid.getD "") = some key ∧
    validator.jsonwebtoken.decode jwt key alg = .ok claims

/-- A stored license that is signed, of the current version and within its validity. -/
def InTerm (validator : LicenseValidator DecodingKey Algorithm) (now : OffsetDateTime)
    (licenses : List LicenseRecord) (claims : LicenseClaims) : Prop :=
  (∃ license ∈ licenses, Signed validator license.jwt claims) ∧
    claims.version = currentVersion ∧ claims.notBefore ≤ now ∧ now ≤ claims.gracePeriodEnd

/-- The validity of the license, if it is a valid one, has begun. -/
def begun (validator : LicenseValidator DecodingKey Algorithm) (now : OffsetDateTime)
    (license : LicenseRecord) : Bool :=
  match validator.validate license.jwt with
  | .ok claims => decide (claims.notBefore ≤ now)
  | .error _ => true

/-- What is entitled at `now` is granted by a license within its term, and a license that has not
begun adds nothing. -/
structure GrantsInTerm (validator : LicenseValidator DecodingKey Algorithm)
    (now : OffsetDateTime) (licenses : List LicenseRecord) : Prop where
  granted : ∀ (name : FeatureName) f,
    (refreshEntitlements validator now licenses).features.lookup name.asStr = some f →
    f.entitlement ≠ .notEntitled →
    ∃ claims, InTerm validator now licenses claims ∧ claims.Names name
  entitled : ∀ (name : FeatureName) f,
    (refreshEntitlements validator now licenses).features.lookup name.asStr = some f →
    f.entitlement = .entitled →
    ∃ claims, InTerm validator now licenses claims ∧ claims.Names name ∧
      now ≤ claims.licenseExpiresAt
  notBegun : (refreshEntitlements validator now licenses).Agree
    (refreshEntitlements validator now (licenses.filter (begun validator now)))

/-- A stored license that is valid, has not expired and has begun. -/
def Begun (validator : LicenseValidator DecodingKey Algorithm) (now : OffsetDateTime)
    (licenses : List LicenseRecord) (claims : LicenseClaims) : Prop :=
  ∃ license ∈ licenses, validator.validate license.jwt = .ok claims ∧
    claims.isExpired now = false ∧ claims.notBefore ≤ now

/-- All that `early` would grant and set is granted and set by licenses that have begun. -/
structure Covered (validator : LicenseValidator DecodingKey Algorithm) (now : OffsetDateTime)
    (licenses : List LicenseRecord) (early : LicenseClaims) : Prop where
  hasLicense : ∃ claims, Begun validator now licenses claims
  trial : early.trial = true → ∃ claims, Begun validator now licenses claims ∧ claims.trial = true
  requireTelemetry : early.requireTelemetry = true →
    ∃ claims, Begun validator now licenses claims ∧ claims.requireTelemetry = true
  features : ∀ name f, Grants early now name f →
    ∃ claims g, Begun validator now licenses claims ∧ Grants claims now name g ∧ f.rank ≤ g.rank

/-- Every license that is valid and has not expired, but has not begun, is covered. -/
def EarlyCovered (validator : LicenseValidator DecodingKey Algorithm) (now : OffsetDateTime)
    (licenses : List LicenseRecord) : Prop :=
  ∀ license ∈ licenses, ∀ claims, validator.validate license.jwt = .ok claims →
    claims.isExpired now = false → now < claims.notBefore → Covered validator now licenses claims

/-! ## A license that is read -/

variable {validator : LicenseValidator DecodingKey Algorithm} {now : OffsetDateTime}
  {licenses : List LicenseRecord} {claims : LicenseClaims} {name : FeatureName} {f : Feature}

omit DecodingKey Algorithm in
theorem version_of_validateClaims (h : validateClaims claims = .ok ()) :
    claims.version = currentVersion := by
  by_contra hversion
  unfold validateClaims at h
  rw [if_pos hversion] at h
  cases h

theorem signed_of_validate {jwt : String} (h : validator.validate jwt = .ok claims) :
    Signed validator jwt claims ∧ claims.version = currentVersion := by
  unfold LicenseValidator.validate at h
  rcases hheader : validator.jsonwebtoken.decodeHeader jwt with e | ⟨kid, alg⟩
  · rw [hheader] at h
    cases h
  · rw [hheader] at h
    rcases hkey : validator.keys.lookup (kid.getD "") with _ | key
    · simp [hkey, Except.mapError, bind, Except.bind, throw, throwThe, MonadExceptOf.throw] at h
    · rcases hdecode : validator.jsonwebtoken.decode jwt key alg with e | found
      · simp [hkey, hdecode, Except.mapError, bind, Except.bind] at h
      · rcases hvalid : validateClaims found with e | u
        · simp [hkey, hdecode, hvalid, Except.mapError, bind, Except.bind] at h
        · simp [hkey, hdecode, hvalid, Except.mapError, bind, Except.bind, pure, Except.pure] at h
          subst h
          exact ⟨⟨kid, alg, key, hheader, hkey, hdecode⟩, version_of_validateClaims hvalid⟩

theorem Begun.inTerm (h : Begun validator now licenses claims) :
    InTerm validator now licenses claims := by
  obtain ⟨license, hlicense, hvalid, hexpired, hbegun⟩ := h
  obtain ⟨hsigned, hversion⟩ := signed_of_validate hvalid
  refine ⟨⟨license, hlicense, hsigned⟩, hversion, hbegun, ?_⟩
  exact not_lt.mp (of_decide_eq_false hexpired)

omit DecodingKey Algorithm in
theorem Grants.names (h : Grants claims now name f) : claims.Names name := by
  cases h with
  | bySet hset => exact .inl hset
  | byClaim hclaim hpos => exact .inr ⟨_, hclaim, hpos⟩
  | byLimit hclaim hpos => exact .inr ⟨_, hclaim, hpos⟩

omit DecodingKey Algorithm in
theorem Grants.entitlement (h : Grants claims now name f) :
    f.entitlement = claims.entitlement now := by
  cases h <;> rfl

omit DecodingKey Algorithm in
/-- What is granted is better than nothing. -/
theorem Grants.unlicensed_lt (h : Grants claims now name f) :
    unlicensedFeature.rank < f.rank := by
  refine (Feature.rank_lt_iff _ _).mpr (.inl ?_)
  rw [h.entitlement, LicenseClaims.entitlement]
  split
  · decide
  · decide

omit DecodingKey Algorithm in
theorem le_licenseExpiresAt_of_entitled (hexpired : claims.isExpired now = false)
    (h : claims.entitlement now = .entitled) : now ≤ claims.licenseExpiresAt := by
  by_contra hlt
  have hgrace : claims.inGracePeriod now = true := by
    have hend := not_lt.mp (of_decide_eq_false hexpired)
    simp only [LicenseClaims.inGracePeriod, not_le.mp hlt, hend, decide_true, Bool.and_self]
  rw [LicenseClaims.entitlement, if_pos hgrace] at h
  cases h

/-! ## The licenses that have begun -/

theorem begun_eq_true {license : LicenseRecord} (h : validator.validate license.jwt = .ok claims) :
    begun validator now license = true ↔ claims.notBefore ≤ now := by
  rw [begun, h, decide_eq_true_eq]

theorem offered_filter_begun :
    Offered validator now (licenses.filter (begun validator now)) name f ↔
      f = unlicensedFeature ∨
        ∃ claims, Begun validator now licenses claims ∧ Grants claims now name f := by
  refine or_congr_right ⟨?_, ?_⟩
  · rintro ⟨license, hlicense, claims, hvalid, hexpired, hgrants⟩
    obtain ⟨hmem, hbegun⟩ := List.mem_filter.mp hlicense
    exact ⟨claims, ⟨license, hmem, hvalid, hexpired, (begun_eq_true hvalid).mp hbegun⟩, hgrants⟩
  · rintro ⟨claims, ⟨license, hmem, hvalid, hexpired, hbegun⟩, hgrants⟩
    exact ⟨license, List.mem_filter.mpr ⟨hmem, (begun_eq_true hvalid).mpr hbegun⟩, claims, hvalid,
      hexpired, hgrants⟩

theorem any_claimsInForce {p : LicenseClaims → Bool} :
    (licenses.filterMap (claimsInForce validator now)).any p = true ↔
      ∃ license ∈ licenses, ∃ claims, validator.validate license.jwt = .ok claims ∧
        claims.isExpired now = false ∧ p claims = true := by
  simp only [List.any_eq_true, List.mem_filterMap, claimsInForce_eq_some]
  constructor
  · rintro ⟨claims, ⟨license, hlicense, hvalid, hexpired⟩, hp⟩
    exact ⟨license, hlicense, claims, hvalid, hexpired, hp⟩
  · rintro ⟨license, hlicense, claims, hvalid, hexpired, hp⟩
    exact ⟨claims, ⟨license, hlicense, hvalid, hexpired⟩, hp⟩

theorem any_claimsInForce_begun {p : LicenseClaims → Bool} :
    ((licenses.filter (begun validator now)).filterMap (claimsInForce validator now)).any p =
      true ↔ ∃ claims, Begun validator now licenses claims ∧ p claims = true := by
  rw [any_claimsInForce]
  constructor
  · rintro ⟨license, hlicense, claims, hvalid, hexpired, hp⟩
    obtain ⟨hmem, hbegun⟩ := List.mem_filter.mp hlicense
    exact ⟨claims, ⟨license, hmem, hvalid, hexpired, (begun_eq_true hvalid).mp hbegun⟩, hp⟩
  · rintro ⟨claims, ⟨license, hmem, hvalid, hexpired, hbegun⟩, hp⟩
    exact ⟨license, List.mem_filter.mpr ⟨hmem, (begun_eq_true hvalid).mpr hbegun⟩, claims, hvalid,
      hexpired, hp⟩

/-- A flag that the licenses set does not depend on those that have not begun when each of them
that sets it is covered. -/
theorem any_claimsInForce_eq {p : LicenseClaims → Bool}
    (h : ∀ license ∈ licenses, ∀ claims, validator.validate license.jwt = .ok claims →
      claims.isExpired now = false → now < claims.notBefore → p claims = true →
      ∃ claims, Begun validator now licenses claims ∧ p claims = true) :
    (licenses.filterMap (claimsInForce validator now)).any p =
      ((licenses.filter (begun validator now)).filterMap (claimsInForce validator now)).any p := by
  rw [Bool.eq_iff_iff, any_claimsInForce_begun, any_claimsInForce]
  constructor
  · rintro ⟨license, hlicense, claims, hvalid, hexpired, hp⟩
    by_cases hbegun : claims.notBefore ≤ now
    · exact ⟨claims, ⟨license, hlicense, hvalid, hexpired, hbegun⟩, hp⟩
    · exact h license hlicense claims hvalid hexpired (not_le.mp hbegun) hp
  · rintro ⟨claims, ⟨license, hlicense, hvalid, hexpired, -⟩, hp⟩
    exact ⟨license, hlicense, claims, hvalid, hexpired, hp⟩

theorem Begun.offered (h : Begun validator now licenses claims)
    (hgrants : Grants claims now name f) : Offered validator now licenses name f := by
  obtain ⟨license, hlicense, hvalid, hexpired, -⟩ := h
  exact .inr ⟨license, hlicense, claims, hvalid, hexpired, hgrants⟩

theorem lookup_eq_none_of_not_name {key : String} (h : ∀ name : FeatureName, key ≠ name.asStr) :
    (refreshEntitlements validator now licenses).features.lookup key = none := by
  rw [refreshEntitlements_lookup, List.argmax_eq_none, List.eq_nil_iff_forall_not_mem]
  intro f hf
  obtain ⟨name, hname, -⟩ := mem_offers.mp hf
  exact h name hname

/-- The best of what is offered is offered by a license that has begun, if all others are
covered. -/
theorem lookup_of_earlyCovered (h : EarlyCovered validator now licenses) (key : String) :
    (refreshEntitlements validator now licenses).features.lookup key =
      (refreshEntitlements validator now
        (licenses.filter (begun validator now))).features.lookup key := by
  by_cases hkey : ∃ name : FeatureName, key = name.asStr
  · obtain ⟨name, rfl⟩ := hkey
    obtain ⟨f, hf, hoffered, hgreatest⟩ := refreshEntitlements_greatest validator now licenses name
    obtain ⟨f', hf', hoffered', hgreatest'⟩ := refreshEntitlements_greatest validator now
      (licenses.filter (begun validator now)) name
    have hle' : f'.rank ≤ f.rank := by
      refine hgreatest f' ?_
      obtain rfl | ⟨claims, hbegun, hgrants⟩ := offered_filter_begun.mp hoffered'
      · exact .inl rfl
      · exact hbegun.offered hgrants
    have hle : f.rank ≤ f'.rank := by
      obtain rfl | ⟨license, hlicense, claims, hvalid, hexpired, hgrants⟩ := hoffered
      · exact hgreatest' _ (.inl rfl)
      · by_cases hbegun : claims.notBefore ≤ now
        · exact hgreatest' f (offered_filter_begun.mpr
            (.inr ⟨claims, ⟨license, hlicense, hvalid, hexpired, hbegun⟩, hgrants⟩))
        · obtain ⟨claims', g, hbegun', hgrants', hle⟩ :=
            (h license hlicense claims hvalid hexpired (not_le.mp hbegun)).features name f hgrants
          have hg := hgreatest' g (offered_filter_begun.mpr (.inr ⟨claims', hbegun', hgrants'⟩))
          exact hle.trans hg
    rw [hf, hf', Feature.eq_of_rank (le_antisymm hle hle')
      (hoffered.actual.trans hoffered'.actual.symm)]
  · push Not at hkey
    rw [lookup_eq_none_of_not_name hkey, lookup_eq_none_of_not_name hkey]

theorem agree_of_earlyCovered (h : EarlyCovered validator now licenses) :
    (refreshEntitlements validator now licenses).Agree
      (refreshEntitlements validator now (licenses.filter (begun validator now))) := by
  have hall := merged_refreshEntitlements validator now licenses
  have hbegun := merged_refreshEntitlements validator now
    (licenses.filter (begun validator now))
  refine ⟨lookup_of_earlyCovered h, ?_, ?_, ?_⟩
  · rw [hall.hasLicense, hbegun.hasLicense, any_claimsInForce_eq]
    intro license hlicense claims hvalid hexpired hearly _
    obtain ⟨claims', hclaims'⟩ := (h license hlicense claims hvalid hexpired hearly).hasLicense
    exact ⟨claims', hclaims', rfl⟩
  · rw [hall.trial, hbegun.trial, any_claimsInForce_eq]
    intro license hlicense claims hvalid hexpired hearly
    exact (h license hlicense claims hvalid hexpired hearly).trial
  · rw [hall.requireTelemetry, hbegun.requireTelemetry, any_claimsInForce_eq]
    intro license hlicense claims hvalid hexpired hearly
    exact (h license hlicense claims hvalid hexpired hearly).requireTelemetry

theorem covered_of_agree
    (h : (refreshEntitlements validator now licenses).Agree
      (refreshEntitlements validator now (licenses.filter (begun validator now))))
    {license : LicenseRecord} (hlicense : license ∈ licenses)
    (hvalid : validator.validate license.jwt = .ok claims)
    (hexpired : claims.isExpired now = false) : Covered validator now licenses claims := by
  have hall := merged_refreshEntitlements validator now licenses
  have hbegun := merged_refreshEntitlements validator now
    (licenses.filter (begun validator now))
  have hflag : ∀ p : LicenseClaims → Bool,
      (licenses.filterMap (claimsInForce validator now)).any p =
        ((licenses.filter (begun validator now)).filterMap (claimsInForce validator now)).any p →
      p claims = true → ∃ claims, Begun validator now licenses claims ∧ p claims = true := by
    intro p heq hp
    rw [← any_claimsInForce_begun, ← heq, any_claimsInForce]
    exact ⟨license, hlicense, claims, hvalid, hexpired, hp⟩
  refine ⟨?_, ?_, ?_, ?_⟩
  · have heq := h.hasLicense
    rw [hall.hasLicense, hbegun.hasLicense] at heq
    obtain ⟨claims', hclaims', -⟩ := hflag _ heq rfl
    exact ⟨claims', hclaims'⟩
  · have heq := h.trial
    rw [hall.trial, hbegun.trial] at heq
    exact hflag _ heq
  · have heq := h.requireTelemetry
    rw [hall.requireTelemetry, hbegun.requireTelemetry] at heq
    exact hflag _ heq
  · intro name f hgrants
    obtain ⟨best, hbest, -, hgreatest⟩ := refreshEntitlements_greatest validator now licenses name
    obtain ⟨best', hbest', hoffered', -⟩ := refreshEntitlements_greatest validator now
      (licenses.filter (begun validator now)) name
    have hle : f.rank ≤ best.rank :=
      hgreatest f (.inr ⟨license, hlicense, claims, hvalid, hexpired, hgrants⟩)
    rw [h.features, hbest'] at hbest
    obtain rfl := Option.some.inj hbest
    obtain rfl | ⟨claims', hbegun', hgrants'⟩ := offered_filter_begun.mp hoffered'
    · exact absurd hle (not_le.mpr hgrants.unlicensed_lt)
    · exact ⟨claims', best', hbegun', hgrants', hle⟩

/-- What the licenses that have begun grant is granted within a term. -/
theorem inTerm_of_agree
    (h : (refreshEntitlements validator now licenses).Agree
      (refreshEntitlements validator now (licenses.filter (begun validator now))))
    (hf : (refreshEntitlements validator now licenses).features.lookup name.asStr = some f)
    (hentitlement : f.entitlement ≠ .notEntitled) :
    ∃ claims, InTerm validator now licenses claims ∧ claims.Names name ∧
      (f.entitlement = .entitled → now ≤ claims.licenseExpiresAt) := by
  obtain ⟨best, hbest, hoffered, -⟩ := refreshEntitlements_greatest validator now
    (licenses.filter (begun validator now)) name
  rw [h.features, hbest] at hf
  obtain rfl := Option.some.inj hf
  obtain rfl | ⟨claims, hbegun, hgrants⟩ := offered_filter_begun.mp hoffered
  · exact absurd rfl hentitlement
  · refine ⟨claims, hbegun.inTerm, hgrants.names, fun hentitled => ?_⟩
    obtain ⟨license, hlicense, hvalid, hexpired, -⟩ := hbegun
    exact le_licenseExpiresAt_of_entitled hexpired (hgrants.entitlement.symm.trans hentitled)

/-- A refresh keeps to the terms exactly when the licenses that have not begun would grant and
set nothing of their own. -/
theorem grantsInTerm_iff (validator : LicenseValidator DecodingKey Algorithm)
    (now : OffsetDateTime) (licenses : List LicenseRecord) :
    GrantsInTerm validator now licenses ↔ EarlyCovered validator now licenses := by
  constructor
  · intro h license hlicense claims hvalid hexpired _
    exact covered_of_agree h.notBegun hlicense hvalid hexpired
  · intro h
    have hagree := agree_of_earlyCovered h
    refine ⟨fun name f hf hentitlement => ?_, fun name f hf hentitled => ?_, hagree⟩
    · obtain ⟨claims, hterm, hnames, -⟩ := inTerm_of_agree hagree hf hentitlement
      exact ⟨claims, hterm, hnames⟩
    · obtain ⟨claims, hterm, hnames, hexpires⟩ := inTerm_of_agree hagree hf
        (by rw [hentitled]; decide)
      exact ⟨claims, hterm, hnames, hexpires hentitled⟩

end

/-! ## A license for later -/

/-- An HMAC token whose validity begins at 200 seconds. -/
def laterJwt : String :=
  "eyJ0eXAiOiJKV1QiLCJhbGciOiJIUzI1NiIsImtpZCI6ImRldmVsb3BtZW50In0." ++
    "eyJpYXQiOjEsIm5iZiI6MjAwLCJsaWNlbnNlX2V4cGlyZXMiOjMwMCwiZXhwIjo0MDAsImFjY291bnRfdHlwZSI6" ++
    "InQiLCJhY2NvdW50X2lkIjoiYyIsInZlcnNpb24iOjMsImZlYXR1cmVzIjp7InVzZXJfbGltaXQiOjl9fQ." ++
    "lqHa2uxhhfhJ-Sg1vJtmP9a9gqpHCHV2rEdzvnORgQI"

def laterClaims : LicenseClaims where
  exp := 400
  nbf := 200
  iat := 1
  licenseExpires := 300
  accountType := "t"
  accountId := "c"
  trial := false
  featureSet := .none
  allFeatures := false
  version := 3
  features := (∅ : HashMap String Int).insert "user_limit" 9
  requireTelemetry := false

def laterValidator : LicenseValidator String String where
  jsonwebtoken :=
    { decodeHeader := fun jwt =>
        if jwt = laterJwt then .ok (some "development", "HS256") else .error "InvalidToken"
      decode := fun jwt key _ =>
        if key ≠ "test-secret" then .error "InvalidSignature"
        else if jwt = laterJwt then .ok laterClaims
        else .error "InvalidToken" }
  keys := (∅ : HashMap String String).insert "development" "test-secret"

def oneHundredSeconds : OffsetDateTime := ⟨100 * 10 ^ 9, by decide, by decide⟩

/-- At 100 seconds the license counts, although its validity has not begun. -/
theorem early_license_counts :
    ¬ GrantsInTerm laterValidator oneHundredSeconds [⟨1, ⟨0⟩, laterJwt⟩] := by
  intro h
  have hhas : (refreshEntitlements laterValidator oneHundredSeconds
      [⟨1, ⟨0⟩, laterJwt⟩]).hasLicense = true := by
    decide +kernel
  have hnone : (refreshEntitlements laterValidator oneHundredSeconds
      ([⟨1, ⟨0⟩, laterJwt⟩].filter (begun laterValidator oneHundredSeconds))).hasLicense =
        false := by
    decide +kernel
  rw [h.notBegun.hasLicense, hnone] at hhas
  cases hhas

end Coderd.License
