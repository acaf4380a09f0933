import Coderd.CryptoKeys.Rotator

namespace Coderd.License

open Coderd.Foundation
open CryptoKeys (OffsetDateTime)

/-! ## Features -/

inductive FeatureName where
  | userLimit
  | auditLog
  | connectionLog
  | browserOnly
  | scim
  | templateRbac
  | userRoleManagement
  | highAvailability
  | multipleExternalAuth
  | externalProvisionerDaemons
  | appearance
  | advancedTemplateScheduling
  | workspaceProxy
  | externalTokenEncryption
  | workspaceBatchActions
  | taskBatchActions
  | accessControl
  | controlSharedPorts
  | customRoles
  | multipleOrganizations
  | workspacePrebuilds
  | managedAgentLimit
  | workspaceExternalAgent
  | aiBridge
  | boundary
  | aiGovernanceUserLimit
  deriving DecidableEq, Repr

def allFeatureNames : List FeatureName :=
  [.userLimit, .auditLog, .connectionLog, .browserOnly, .scim, .templateRbac, .highAvailability,
    .multipleExternalAuth, .externalProvisionerDaemons, .appearance, .advancedTemplateScheduling,
    .workspaceProxy, .userRoleManagement, .externalTokenEncryption, .workspaceBatchActions,
    .taskBatchActions, .accessControl, .controlSharedPorts, .customRoles, .multipleOrganizations,
    .workspacePrebuilds, .managedAgentLimit, .workspaceExternalAgent, .aiBridge, .boundary,
    .aiGovernanceUserLimit]

namespace FeatureName

/-- The wire format, which is also what `serde` makes of the variant's name. -/
def asStr : FeatureName → String
  | userLimit => "user_limit"
  | auditLog => "audit_log"
  | connectionLog => "connection_log"
  | browserOnly => "browser_only"
  | scim => "scim"
  | templateRbac => "template_rbac"
  | userRoleManagement => "user_role_management"
  | highAvailability => "high_availability"
  | multipleExternalAuth => "multiple_external_auth"
  | externalProvisionerDaemons => "external_provisioner_daemons"
  | appearance => "appearance"
  | advancedTemplateScheduling => "advanced_template_scheduling"
  | workspaceProxy => "workspace_proxy"
  | externalTokenEncryption => "external_token_encryption"
  | workspaceBatchActions => "workspace_batch_actions"
  | taskBatchActions => "task_batch_actions"
  | accessControl => "access_control"
  | controlSharedPorts => "control_shared_ports"
  | customRoles => "custom_roles"
  | multipleOrganizations => "multiple_organizations"
  | workspacePrebuilds => "workspace_prebuilds"
  | managedAgentLimit => "managed_agent_limit"
  | workspaceExternalAgent => "workspace_external_agent"
  | aiBridge => "aibridge"
  | boundary => "boundary"
  | aiGovernanceUserLimit => "ai_governance_user_limit"

def alwaysEnable : FeatureName → Bool
  | multipleExternalAuth | externalProvisionerDaemons | appearance | workspaceBatchActions
  | taskBatchActions | highAvailability | customRoles | multipleOrganizations
  | workspacePrebuilds | workspaceExternalAgent | boundary => true
  | _ => false

def usesLimit : FeatureName → Bool
  | userLimit | managedAgentLimit | aiGovernanceUserLimit => true
  | _ => false

def isEnterprise : FeatureName → Bool
  | multipleOrganizations | customRoles => false
  | _ => true

theorem mem_allFeatureNames (name : FeatureName) : name ∈ allFeatureNames := by
  cases name <;> decide

theorem asStr_injective : Function.Injective asStr := by
  have hinj : ∀ a ∈ allFeatureNames, ∀ b ∈ allFeatureNames, a.asStr = b.asStr → a = b := by
    decide
  intro a b hab
  exact hinj a (mem_allFeatureNames a) b (mem_allFeatureNames b) hab

end FeatureName

/-- `parse_feature_name`: the variant that `serde` reads from a string. -/
def parseFeatureName (s : String) : Option FeatureName :=
  allFeatureNames.find? (fun name => name.asStr = s)

theorem asStr_of_parseFeatureName {s : String} {name : FeatureName}
    (h : parseFeatureName s = some name) : name.asStr = s := by
  unfold parseFeatureName at h
  have hfound := List.find?_some h
  exact of_decide_eq_true hfound

theorem parseFeatureName_eq_some {s : String} {name : FeatureName} :
    parseFeatureName s = some name ↔ name.asStr = s := by
  constructor
  · exact asStr_of_parseFeatureName
  · rintro rfl
    rcases h : parseFeatureName name.asStr with _ | other
    · have hnone := List.find?_eq_none.mp h name (FeatureName.mem_allFeatureNames name)
      simp at hnone
    · rw [FeatureName.asStr_injective (asStr_of_parseFeatureName h)]

inductive FeatureSet where
  | none
  | enterprise
  | premium
  deriving DecidableEq, Repr

def featuresForSet : FeatureSet → List FeatureName
  | .enterprise => allFeatureNames.filter (fun f => f.isEnterprise && !f.usesLimit)
  | .premium => allFeatureNames.filter (fun f => !f.usesLimit)
  | .none => []

/-! ## Claims -/

def currentVersion : UInt64 := 3

inductive LicenseError where
  | invalidToken (message : String)
  | invalidVersion
  | missingClaim (claim : String)
  | expired
  | unknownKeyId (kid : String)
  deriving DecidableEq, Repr

def LicenseError.display : LicenseError → String
  | invalidToken message => "invalid license token: " ++ message
  | invalidVersion => "license must be version " ++ toString currentVersion
  | missingClaim claim => "license has invalid or missing claim: " ++ claim
  | expired => "license has expired"
  | unknownKeyId kid => "no key with ID " ++ kid

structure LicenseClaims where
  exp : Int
  nbf : Int
  iat : Int
  licenseExpires : Int
  accountType : String
  accountId : String
  trial : Bool
  featureSet : FeatureSet
  allFeatures : Bool
  version : UInt64
  features : HashMap String Int
  requireTelemetry : Bool

/-- `OffsetDateTime::from_unix_timestamp`, which takes the years -9999 to 9999. -/
def fromUnixTimestamp (timestamp : Int) : Option OffsetDateTime :=
  if h : -377705116800 ≤ timestamp ∧ timestamp ≤ 253402300799 then
    some ⟨timestamp * 10 ^ 9, by omega, by omega⟩
  else
    none

namespace LicenseClaims

def licenseExpiresAt (claims : LicenseClaims) : OffsetDateTime :=
  (fromUnixTimestamp claims.licenseExpires).getD .unixEpoch

def gracePeriodEnd (claims : LicenseClaims) : OffsetDateTime :=
  (fromUnixTimestamp claims.exp).getD .unixEpoch

def inGracePeriod (claims : LicenseClaims) (now : OffsetDateTime) : Bool :=
  decide (claims.licenseExpiresAt < now) && decide (now ≤ claims.gracePeriodEnd)

def isExpired (claims : LicenseClaims) (now : OffsetDateTime) : Bool :=
  decide (claims.gracePeriodEnd < now)

end LicenseClaims

/-! ## Validation -/

/-- What is used of the `jsonwebtoken` crate: the `kid` and the algorithm of a token's header,
and the claims of a token whose signature fits a key. -/
structure Jsonwebtoken (DecodingKey Algorithm : Type) where
  decodeHeader : String → Except String (Option String × Algorithm)
  decode : String → DecodingKey → Algorithm → Except String LicenseClaims

/-- The keys by `kid`, and the library that uses them. -/
structure LicenseValidator (DecodingKey Algorithm : Type) where
  jsonwebtoken : Jsonwebtoken DecodingKey Algorithm
  keys : HashMap String DecodingKey

def validateClaims (claims : LicenseClaims) : Except LicenseError Unit := do
  if claims.version ≠ currentVersion then
    throw .invalidVersion
  if claims.iat = 0 then
    throw (.missingClaim "iat (issued at)")
  if claims.licenseExpires = 0 then
    throw (.missingClaim "license_expires")
  if claims.exp = 0 then
    throw (.missingClaim "exp (expires at)")
  if claims.accountType.isEmpty then
    throw (.missingClaim "account_type")
  if claims.accountId.isEmpty then
    throw (.missingClaim "account_id")

def LicenseValidator.validate {DecodingKey Algorithm : Type}
    (validator : LicenseValidator DecodingKey Algorithm) (rawJwt : String) :
    Except LicenseError LicenseClaims := do
  let (kid, alg) ← (validator.jsonwebtoken.decodeHeader rawJwt).mapError .invalidToken
  let kid := kid.getD ""
  let some key := validator.keys.lookup kid | throw (.unknownKeyId kid)
  let claims ← (validator.jsonwebtoken.decode rawJwt key alg).mapError .invalidToken
  validateClaims claims
  return claims

end Coderd.License
