import Coderd.Foundation.Uuid
import Coderd.License.Claims

namespace Coderd.License

open Coderd.Foundation
open CryptoKeys (OffsetDateTime)

/-! ## Entitlements -/

inductive Entitlement where
  | entitled
  | gracePeriod
  | notEntitled
  deriving DecidableEq, Repr

def Entitlement.weight : Entitlement → Int
  | entitled => 2
  | gracePeriod => 1
  | notEntitled => -1

structure Feature where
  entitlement : Entitlement
  enabled : Bool
  limit : Option Int
  actual : Option Int
  deriving DecidableEq, Repr

structure Entitlements where
  features : HashMap String Feature
  warnings : List String
  errors : List String
  hasLicense : Bool
  trial : Bool
  requireTelemetry : Bool
  refreshedAt : OffsetDateTime

namespace Entitlements

def newUnlicensed : Entitlements where
  features := allFeatureNames.foldl (fun features name => features.insert name.asStr
    { entitlement := .notEntitled, enabled := false, limit := none, actual := none }) ∅
  warnings := []
  errors := []
  hasLicense := false
  trial := false
  requireTelemetry := false
  refreshedAt := .unixEpoch

def addFeature (ents : Entitlements) (name : FeatureName) (new : Feature) : Entitlements :=
  let key := name.asStr
  let existing := ents.features.lookup key
  let dominated : Bool :=
    match existing with
    | none => true
    | some old =>
      let ew := old.entitlement.weight
      let nw := new.entitlement.weight
      if nw ≠ ew then
        nw > ew
      else if old.limit ≠ new.limit then
        match old.limit, new.limit with
        | none, some _ => true
        | some _, none => false
        | some o, some n => n > o
        | none, none => false
      else
        !old.enabled && new.enabled
  if dominated then { ents with features := ents.features.insert key new } else ents

end Entitlements

/-! ## The service -/

structure LicenseRecord where
  id : Int32
  uuid : Uuid
  jwt : String

def applyClaims (ents : Entitlements) (claims : LicenseClaims) (now : OffsetDateTime) :
    Entitlements :=
  if claims.isExpired now then
    ents
  else
    let entitlement := if claims.inGracePeriod now then .gracePeriod else .entitled
    let ents := { ents with
      hasLicense := true
      requireTelemetry := ents.requireTelemetry || claims.requireTelemetry }
    let ents := if claims.trial then { ents with trial := true } else ents
    let effectiveSet :=
      if claims.allFeatures ∧ claims.featureSet = .none then .enterprise else claims.featureSet
    let ents := (featuresForSet effectiveSet).foldl (fun ents featureName =>
      if featureName.usesLimit then
        ents
      else
        ents.addFeature featureName
          { entitlement, enabled := featureName.alwaysEnable, limit := none, actual := none })
      ents
    claims.features.entries.foldl (fun ents ⟨nameStr, value⟩ =>
      match parseFeatureName nameStr with
      | none => ents
      | some featureName =>
        if featureName.usesLimit then
          if value ≤ 0 then
            ents
          else
            ents.addFeature featureName
              { entitlement, enabled := true, limit := some value, actual := none }
        else
          if value ≤ 0 then
            ents
          else
            ents.addFeature featureName
              { entitlement, enabled := featureName.alwaysEnable, limit := none, actual := none })
      ents

/-- The days are counted in floating point, which is exact at this size, and rounded up. -/
def addExpiryWarnings (ents : Entitlements) (validClaims : List LicenseClaims)
    (now : OffsetDateTime) : Entitlements :=
  let latestExpiry := validClaims.foldl (fun (latest : Option OffsetDateTime) claims =>
    let expires := claims.licenseExpiresAt
    match latest with
    | none => some expires
    | some e => if e < expires then some expires else some e) none
  match latestExpiry with
  | none => ents
  | some expiry =>
    let duration := expiry.unixNanos - now.unixNanos
    let daysToExpire := -(-(duration.tdiv (10 ^ 9)) / 86400)
    let showWarningDays := if ents.trial then 7 else 30
    if duration < 0 then
      { ents with
        warnings := ents.warnings ++ ["Your license has expired. You are in a grace period."] }
    else if daysToExpire < showWarningDays then
      let dayWord := if daysToExpire = 1 then "day" else "days"
      { ents with
        warnings := ents.warnings ++
          ["Your license expires in " ++ toString daysToExpire ++ " " ++ dayWord ++ "."] }
    else
      ents

section Refresh

variable {DecodingKey Algorithm : Type} (validator : LicenseValidator DecodingKey Algorithm)
  (now : OffsetDateTime)

/-- One turn of the loop over the stored licenses, with the claims that were valid so far. -/
def refreshLicense (ents : Entitlements × List LicenseClaims) (license : LicenseRecord) :
    Entitlements × List LicenseClaims :=
  match validator.validate license.jwt with
  | .ok claims =>
    if claims.isExpired now then
      ents
    else
      (applyClaims ents.1 claims now, ents.2 ++ [claims])
  | .error e =>
    ({ ents.1 with errors := ents.1.errors ++
        ["Invalid license (" ++ license.uuid.toHyphenated ++ "): " ++ e.display] }, ents.2)

/-- The snapshot `refresh_entitlements` puts in place when the store lists `licenses`. -/
def refreshEntitlements (licenses : List LicenseRecord) : Entitlements :=
  let ents := { Entitlements.newUnlicensed with refreshedAt := now }
  let (ents, validClaims) := licenses.foldl (refreshLicense validator now) (ents, [])
  addExpiryWarnings ents validClaims now

end Refresh

end Coderd.License
