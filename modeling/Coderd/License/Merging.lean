import Mathlib
import Coderd.Foundation.Ranking
import Coderd.License.Service

namespace Coderd.License

open Coderd.Foundation
open CryptoKeys (OffsetDateTime)

/-! ## The order on features -/

/-- Features are compared by weight, then by limit with no limit lowest, then by `enabled`. -/
def Feature.rank (f : Feature) : ℤ ×ₗ (WithBot ℤ ×ₗ Bool) :=
  toLex (f.entitlement.weight, toLex (f.limit.elim ⊥ WithBot.some, f.enabled))

theorem Feature.eq_of_rank {f g : Feature} (h : f.rank = g.rank) (hactual : f.actual = g.actual) :
    f = g := by
  obtain ⟨hweight, hrest⟩ := Prod.mk.inj (toLex.injective h)
  obtain ⟨hlimit, henabled⟩ := Prod.mk.inj (toLex.injective hrest)
  have hentitlement : f.entitlement = g.entitlement := by
    revert hweight
    cases f.entitlement <;> cases g.entitlement <;> decide
  have hlimits : f.limit = g.limit := by
    rcases hf : f.limit with _ | l <;> rcases hg : g.limit with _ | l'
    · rfl
    · simp [hf, hg] at hlimit
    · simp [hf, hg] at hlimit
    · simpa [hf, hg] using hlimit
  cases f
  cases g
  simp_all

theorem Feature.rank_lt_iff (old new : Feature) :
    old.rank < new.rank ↔ old.entitlement.weight < new.entitlement.weight ∨
      old.entitlement.weight = new.entitlement.weight ∧
        (old.limit.elim ⊥ WithBot.some < new.limit.elim ⊥ WithBot.some ∨
          old.limit.elim ⊥ WithBot.some = new.limit.elim ⊥ WithBot.some ∧
            old.enabled < new.enabled) := by
  simp only [Feature.rank, Prod.Lex.toLex_lt_toLex]

/-- The comparison as `add_feature` writes it out. -/
theorem Feature.rank_lt_iff_dominated (old new : Feature) :
    old.rank < new.rank ↔
      (if new.entitlement.weight ≠ old.entitlement.weight then
        decide (new.entitlement.weight > old.entitlement.weight)
      else if old.limit ≠ new.limit then
        match old.limit, new.limit with
        | none, some _ => true
        | some _, none => false
        | some o, some n => decide (n > o)
        | none, none => false
      else
        !old.enabled && new.enabled) = true := by
  rw [Feature.rank_lt_iff]
  by_cases hweight : new.entitlement.weight = old.entitlement.weight
  · rw [if_neg (not_not.mpr hweight), hweight]
    simp only [lt_self_iff_false, false_or, true_and]
    by_cases hlimit : old.limit = new.limit
    · rw [if_neg (not_not.mpr hlimit), hlimit]
      simp only [lt_self_iff_false, false_or, true_and]
      cases old.enabled <;> cases new.enabled <;> decide
    · rw [if_pos hlimit]
      rcases ho : old.limit with _ | o <;> rcases hn : new.limit with _ | n
      · exact absurd (ho.trans hn.symm) hlimit
      · simp
      · simp
      · have hne : o ≠ n := fun heq => hlimit (by rw [ho, hn, heq])
        simp [hne]
  · rw [if_pos hweight, decide_eq_true_eq]
    constructor
    · rintro (hlt | ⟨heq, -⟩)
      · exact hlt
      · exact absurd heq.symm hweight
    · exact .inl

/-- The test that `add_feature` makes is the strict order. -/
theorem Entitlements.addFeature_eq (ents : Entitlements) (name : FeatureName) (new : Feature) :
    ents.addFeature name new =
      { ents with features := ents.features.insertBetter Feature.rank name.asStr new } := by
  unfold Entitlements.addFeature HashMap.insertBetter
  dsimp only
  rcases ents.features.lookup name.asStr with _ | old
  · rfl
  dsimp only
  by_cases h : old.rank < new.rank
  · rw [if_pos h]
    exact if_pos ((Feature.rank_lt_iff_dominated old new).mp h)
  · rw [if_neg h]
    exact if_neg fun hd => h ((Feature.rank_lt_iff_dominated old new).mpr hd)

/-! ## What a license proposes -/

variable {claims claims' : LicenseClaims} {now : OffsetDateTime}

/-- What the features of a license are entitled to at `now`. -/
def LicenseClaims.entitlement (claims : LicenseClaims) (now : OffsetDateTime) : Entitlement :=
  if claims.inGracePeriod now then .gracePeriod else .entitled

def LicenseClaims.effectiveSet (claims : LicenseClaims) : FeatureSet :=
  if claims.allFeatures ∧ claims.featureSet = .none then .enterprise else claims.featureSet

/-- A feature is granted by the feature set or by a positive claim of its own. -/
inductive Grants (claims : LicenseClaims) (now : OffsetDateTime) (name : FeatureName) :
    Feature → Prop where
  | bySet (hset : name ∈ featuresForSet claims.effectiveSet) (hlimit : name.usesLimit = false) :
    Grants claims now name ⟨claims.entitlement now, name.alwaysEnable, none, none⟩
  | byClaim {value : Int} (hclaim : claims.features.lookup name.asStr = some value)
      (hpos : 0 < value) (hlimit : name.usesLimit = false) :
    Grants claims now name ⟨claims.entitlement now, name.alwaysEnable, none, none⟩
  | byLimit {value : Int} (hclaim : claims.features.lookup name.asStr = some value)
      (hpos : 0 < value) (hlimit : name.usesLimit = true) :
    Grants claims now name ⟨claims.entitlement now, true, some value, none⟩

/-- The proposal that a member of the feature set makes. -/
def setProposal (entitlement : Entitlement) (name : FeatureName) : Option (String × Feature) :=
  if name.usesLimit then none else some (name.asStr, ⟨entitlement, name.alwaysEnable, none, none⟩)

/-- The proposal that a claim makes. -/
def claimProposal (entitlement : Entitlement) (claim : (_ : String) × Int) :
    Option (String × Feature) :=
  match parseFeatureName claim.1 with
  | none => none
  | some name =>
    if claim.2 ≤ (0 : Int) then none
    else if name.usesLimit then some (name.asStr, ⟨entitlement, true, some claim.2, none⟩)
    else some (name.asStr, ⟨entitlement, name.alwaysEnable, none, none⟩)

def LicenseClaims.proposals (claims : LicenseClaims) (now : OffsetDateTime) :
    List (String × Feature) :=
  (featuresForSet claims.effectiveSet).filterMap (setProposal (claims.entitlement now)) ++
    claims.features.entries.filterMap (claimProposal (claims.entitlement now))

/-- The features after a number of calls to `add_feature`. -/
def mergeFeatures (features : HashMap String Feature) (proposals : List (String × Feature)) :
    HashMap String Feature :=
  proposals.foldl (fun features p => features.insertBetter Feature.rank p.1 p.2) features

theorem foldl_addFeature {α : Type} {step : Entitlements → α → Entitlements}
    {propose : α → Option (String × Feature)}
    (hstep : ∀ ents a, step ents a =
      { ents with features := mergeFeatures ents.features (propose a).toList })
    (l : List α) (ents : Entitlements) :
    l.foldl step ents =
      { ents with features := mergeFeatures ents.features (l.filterMap propose) } := by
  induction l generalizing ents with
  | nil => rfl
  | cons a l ih =>
    rw [List.foldl_cons, ih, hstep]
    rcases h : propose a with _ | p
    · rw [List.filterMap_cons_none h]
      rfl
    · rw [List.filterMap_cons_some h]
      rfl

theorem addFromSet_eq (entitlement : Entitlement) (ents : Entitlements) (name : FeatureName) :
    (if name.usesLimit then ents
      else ents.addFeature name
        { entitlement, enabled := name.alwaysEnable, limit := none, actual := none }) =
      { ents with
        features := mergeFeatures ents.features (setProposal entitlement name).toList } := by
  unfold setProposal
  split
  · rfl
  · rw [ents.addFeature_eq]
    rfl

theorem addClaim_eq (entitlement : Entitlement) (ents : Entitlements)
    (claim : (_ : String) × Int) :
    (match parseFeatureName claim.1 with
      | none => ents
      | some featureName =>
        if featureName.usesLimit then
          if claim.2 ≤ (0 : Int) then ents
          else ents.addFeature featureName
            { entitlement, enabled := true, limit := some claim.2, actual := none }
        else
          if claim.2 ≤ (0 : Int) then ents
          else ents.addFeature featureName
            { entitlement, enabled := featureName.alwaysEnable, limit := none, actual := none }) =
      { ents with
        features := mergeFeatures ents.features (claimProposal entitlement claim).toList } := by
  unfold claimProposal
  rcases parseFeatureName claim.1 with _ | name
  · rfl
  · dsimp only
    split
    case isTrue hlimit =>
      split
      · rfl
      · rw [ents.addFeature_eq]
        rfl
    case isFalse hlimit =>
      split
      · rfl
      · rw [ents.addFeature_eq]
        rfl

theorem applyClaims_eq (ents : Entitlements) (h : claims.isExpired now = false) :
    applyClaims ents claims now =
      { ents with
        hasLicense := true
        trial := ents.trial || claims.trial
        requireTelemetry := ents.requireTelemetry || claims.requireTelemetry
        features := mergeFeatures ents.features (claims.proposals now) } := by
  unfold applyClaims
  rw [if_neg (Bool.eq_false_iff.mp h)]
  refine (foldl_addFeature (addClaim_eq (claims.entitlement now)) _ _).trans ?_
  have hset := foldl_addFeature (addFromSet_eq (claims.entitlement now))
    (featuresForSet claims.effectiveSet)
  have hmerge : ∀ features, mergeFeatures features (claims.proposals now) =
      mergeFeatures (mergeFeatures features ((featuresForSet claims.effectiveSet).filterMap
        (setProposal (claims.entitlement now)))) (claims.features.entries.filterMap
          (claimProposal (claims.entitlement now))) := fun _ => List.foldl_append
  rw [hmerge]
  unfold LicenseClaims.effectiveSet LicenseClaims.entitlement at hset ⊢
  dsimp only
  rw [hset]
  cases htrial : claims.trial
  · simp
  · simp

theorem claimProposal_eq_some {entitlement : Entitlement} {claim : (_ : String) × Int}
    {key : String} {f : Feature} :
    claimProposal entitlement claim = some (key, f) ↔
      ∃ name : FeatureName, name.asStr = claim.1 ∧ key = name.asStr ∧ (0 : Int) < claim.2 ∧
        f = if name.usesLimit then ⟨entitlement, true, some claim.2, none⟩
          else ⟨entitlement, name.alwaysEnable, none, none⟩ := by
  unfold claimProposal
  rcases hparse : parseFeatureName claim.1 with _ | name
  · simp only [reduceCtorEq, false_iff]
    rintro ⟨name, hname, -⟩
    rw [parseFeatureName_eq_some.mpr hname] at hparse
    cases hparse
  · have hname := parseFeatureName_eq_some.mp hparse
    constructor
    · intro h
      refine ⟨name, hname, ?_⟩
      dsimp only at h
      split at h
      · cases h
      · split at h
        case isTrue hpos hlimit =>
          cases h
          exact ⟨rfl, not_le.mp hpos, (if_pos hlimit).symm⟩
        case isFalse hpos hlimit =>
          cases h
          exact ⟨rfl, not_le.mp hpos, (if_neg hlimit).symm⟩
    · rintro ⟨name', hname', rfl, hpos, rfl⟩
      obtain rfl := FeatureName.asStr_injective (hname'.trans hname.symm)
      dsimp only
      rw [if_neg (not_le.mpr hpos)]
      split
      · rfl
      · rfl

theorem mem_proposals {key : String} {f : Feature} :
    (key, f) ∈ claims.proposals now ↔ ∃ name, key = name.asStr ∧ Grants claims now name f := by
  rw [LicenseClaims.proposals, List.mem_append, List.mem_filterMap, List.mem_filterMap]
  constructor
  · rintro (⟨name, hset, heq⟩ | ⟨⟨s, value⟩, hclaim, heq⟩)
    · unfold setProposal at heq
      split at heq
      case isTrue => cases heq
      case isFalse hlimit =>
        cases heq
        exact ⟨name, rfl, .bySet hset (Bool.eq_false_iff.mpr hlimit)⟩
    · obtain ⟨name, rfl, rfl, hpos, rfl⟩ := claimProposal_eq_some.mp heq
      have hlookup : claims.features.lookup name.asStr = some value :=
        AList.mem_lookup_iff.mpr hclaim
      refine ⟨name, rfl, ?_⟩
      split
      case isTrue hlimit => exact .byLimit hlookup hpos hlimit
      case isFalse hlimit => exact .byClaim hlookup hpos (Bool.eq_false_iff.mpr hlimit)
  · rintro ⟨name, rfl, hgrant⟩
    cases hgrant with
    | bySet hset hlimit =>
      exact .inl ⟨name, hset, if_neg (Bool.eq_false_iff.mp hlimit)⟩
    | @byClaim value hclaim hpos hlimit =>
      refine .inr ⟨⟨name.asStr, value⟩, AList.mem_lookup_iff.mp hclaim, ?_⟩
      exact claimProposal_eq_some.mpr
        ⟨name, rfl, rfl, hpos, (if_neg (Bool.eq_false_iff.mp hlimit)).symm⟩
    | @byLimit value hclaim hpos hlimit =>
      refine .inr ⟨⟨name.asStr, value⟩, AList.mem_lookup_iff.mp hclaim, ?_⟩
      exact claimProposal_eq_some.mpr ⟨name, rfl, rfl, hpos, (if_pos hlimit).symm⟩

theorem Grants.actual {name : FeatureName} {f : Feature} (h : Grants claims now name f) :
    f.actual = none := by
  cases h <;> rfl

/-! ## All licenses -/

section Refresh

variable {DecodingKey Algorithm : Type} (validator : LicenseValidator DecodingKey Algorithm)

/-- The claims of a license that is valid and has not expired. -/
def claimsInForce (now : OffsetDateTime) (license : LicenseRecord) : Option LicenseClaims :=
  match validator.validate license.jwt with
  | .ok claims => if claims.isExpired now then none else some claims
  | .error _ => none

theorem claimsInForce_eq_some {license : LicenseRecord} :
    claimsInForce validator now license = some claims ↔
      validator.validate license.jwt = .ok claims ∧ claims.isExpired now = false := by
  unfold claimsInForce
  rcases validator.validate license.jwt with e | found
  · simp
  · by_cases hexpired : found.isExpired now = true
    · simp only [hexpired, if_true, reduceCtorEq, false_iff, Except.ok.injEq, not_and]
      rintro rfl
      rw [hexpired]
      decide
    · simp only [hexpired, Bool.false_eq_true, if_false, Option.some.injEq, Except.ok.injEq]
      constructor
      · rintro rfl
        exact ⟨rfl, Bool.eq_false_iff.mpr hexpired⟩
      · exact fun h => h.1

/-- `after` is `before` with some licenses merged in, its texts and its date aside. -/
structure Merged (now : OffsetDateTime) (before : Entitlements) (claims : List LicenseClaims)
    (after : Entitlements) : Prop where
  features : after.features = mergeFeatures before.features (claims.flatMap (·.proposals now))
  hasLicense : after.hasLicense = (before.hasLicense || claims.any fun _ => true)
  trial : after.trial = (before.trial || claims.any (·.trial))
  requireTelemetry :
    after.requireTelemetry = (before.requireTelemetry || claims.any (·.requireTelemetry))

theorem Merged.nil {before after : Entitlements} (hfeatures : after.features = before.features)
    (hlicense : after.hasLicense = before.hasLicense) (htrial : after.trial = before.trial)
    (htelemetry : after.requireTelemetry = before.requireTelemetry) :
    Merged now before [] after where
  features := hfeatures
  hasLicense := by simp [hlicense]
  trial := by simp [htrial]
  requireTelemetry := by simp [htelemetry]

theorem Merged.trans {a b c : Entitlements} {l l' : List LicenseClaims} (h : Merged now a l b)
    (h' : Merged now b l' c) : Merged now a (l ++ l') c where
  features := by
    rw [h'.features, h.features, List.flatMap_append]
    exact List.foldl_append.symm
  hasLicense := by rw [h'.hasLicense, h.hasLicense, List.any_append, Bool.or_assoc]
  trial := by rw [h'.trial, h.trial, List.any_append, Bool.or_assoc]
  requireTelemetry := by
    rw [h'.requireTelemetry, h.requireTelemetry, List.any_append, Bool.or_assoc]

theorem merged_applyClaims (ents : Entitlements) (h : claims.isExpired now = false) :
    Merged now ents [claims] (applyClaims ents claims now) := by
  rw [applyClaims_eq ents h]
  exact ⟨by simp, by simp, by simp, by simp⟩

/-- A license is unreadable, expired or in force, and it counts only if in force. -/
theorem merged_refreshLicense (state : Entitlements × List LicenseClaims)
    (license : LicenseRecord) :
    Merged now state.1 (claimsInForce validator now license).toList
      (refreshLicense validator now state license).1 := by
  unfold refreshLicense claimsInForce
  rcases validator.validate license.jwt with e | claims
  · exact .nil rfl rfl rfl rfl
  · dsimp only
    split
    case isTrue => exact .nil rfl rfl rfl rfl
    case isFalse hexpired => exact merged_applyClaims state.1 (Bool.eq_false_iff.mpr hexpired)

theorem merged_foldl (now : OffsetDateTime) (licenses : List LicenseRecord)
    (state : Entitlements × List LicenseClaims) :
    Merged now state.1 (licenses.filterMap (claimsInForce validator now))
      (licenses.foldl (refreshLicense validator now) state).1 := by
  induction licenses generalizing state with
  | nil => exact .nil rfl rfl rfl rfl
  | cons license licenses ih =>
    have hstep := (merged_refreshLicense validator state license).trans (ih _)
    rw [List.foldl_cons]
    rcases h : claimsInForce validator now license with _ | claims
    · rw [List.filterMap_cons_none h]
      rwa [h] at hstep
    · rw [List.filterMap_cons_some h]
      rwa [h] at hstep

theorem addExpiryWarnings_eq (ents : Entitlements) (validClaims : List LicenseClaims)
    (now : OffsetDateTime) :
    ∃ warnings, addExpiryWarnings ents validClaims now = { ents with warnings } := by
  unfold addExpiryWarnings
  dsimp only
  generalize (if ents.trial = true then (7 : Int) else 30) = showWarningDays
  split
  · exact ⟨ents.warnings, rfl⟩
  · split
    · exact ⟨_, rfl⟩
    · split
      · exact ⟨_, rfl⟩
      · exact ⟨ents.warnings, rfl⟩

theorem merged_refreshEntitlements (now : OffsetDateTime) (licenses : List LicenseRecord) :
    Merged now .newUnlicensed (licenses.filterMap (claimsInForce validator now))
      (refreshEntitlements validator now licenses) := by
  let start : Entitlements := { Entitlements.newUnlicensed with refreshedAt := now }
  have hloop := merged_foldl validator now licenses (start, [])
  obtain ⟨warnings, hwarnings⟩ := addExpiryWarnings_eq
    (licenses.foldl (refreshLicense validator now) (start, [])).1
    (licenses.foldl (refreshLicense validator now) (start, [])).2 now
  change Merged now _ _ (addExpiryWarnings _ _ now)
  rw [hwarnings]
  exact ⟨hloop.features, hloop.hasLicense, hloop.trial, hloop.requireTelemetry⟩

end Refresh

/-! ## The best of all offers -/

def unlicensedFeature : Feature := ⟨.notEntitled, false, none, none⟩

theorem lookup_foldl_insert_asStr (names : List FeatureName) (f : Feature)
    (features : HashMap String Feature) (key : String) :
    (names.foldl (fun features name => features.insert name.asStr f) features).lookup key =
      if key ∈ names.map FeatureName.asStr then some f else features.lookup key := by
  induction names generalizing features with
  | nil => simp
  | cons name names ih =>
    rw [List.foldl_cons, ih, HashMap.lookup_insert_ite]
    by_cases hkey : key = name.asStr
    · simp [hkey]
    · simp [hkey]

theorem newUnlicensed_lookup {key : String} {f : Feature} :
    Entitlements.newUnlicensed.features.lookup key = some f ↔
      ∃ name : FeatureName, key = name.asStr ∧ f = unlicensedFeature := by
  change (allFeatureNames.foldl (fun features name => features.insert name.asStr unlicensedFeature)
    (∅ : HashMap String Feature)).lookup key = some f ↔ _
  rw [lookup_foldl_insert_asStr]
  constructor
  · intro h
    split at h
    case isTrue hkey =>
      obtain ⟨name, -, hname⟩ := List.mem_map.mp hkey
      exact ⟨name, hname.symm, (Option.some.inj h).symm⟩
    case isFalse => cases h
  · rintro ⟨name, rfl, rfl⟩
    exact if_pos (List.mem_map_of_mem (FeatureName.mem_allFeatureNames name))

section Offers

variable {DecodingKey Algorithm : Type}
  {validator validator' : LicenseValidator DecodingKey Algorithm}
  {licenses licenses' : List LicenseRecord}

/-- What there is for a feature: what it is without a license, and what the licenses that are
valid and have not expired grant. -/
def Offered (validator : LicenseValidator DecodingKey Algorithm) (now : OffsetDateTime)
    (licenses : List LicenseRecord) (name : FeatureName) (f : Feature) : Prop :=
  f = unlicensedFeature ∨ ∃ license ∈ licenses, ∃ claims,
    validator.validate license.jwt = .ok claims ∧ claims.isExpired now = false ∧
      Grants claims now name f

/-- What a key of the features map was chosen from. -/
def offers (validator : LicenseValidator DecodingKey Algorithm) (now : OffsetDateTime)
    (licenses : List LicenseRecord) (key : String) : List Feature :=
  (Entitlements.newUnlicensed.features.lookup key).toList ++
    (((licenses.filterMap (claimsInForce validator now)).flatMap (·.proposals now)).filter
      (fun p => p.1 = key)).map Prod.snd

theorem mem_offers {key : String} {f : Feature} :
    f ∈ offers validator now licenses key ↔
      ∃ name : FeatureName, key = name.asStr ∧ Offered validator now licenses name f := by
  rw [offers, List.mem_append, Option.mem_toList, newUnlicensed_lookup]
  constructor
  · rintro (⟨name, rfl, rfl⟩ | hf)
    · exact ⟨name, rfl, .inl rfl⟩
    · obtain ⟨⟨key', f'⟩, hp, rfl⟩ := List.mem_map.mp hf
      obtain ⟨hproposed, hkey⟩ := List.mem_filter.mp hp
      obtain rfl : key' = key := of_decide_eq_true hkey
      obtain ⟨claims, hclaims, hproposes⟩ := List.mem_flatMap.mp hproposed
      obtain ⟨name, rfl, hgrants⟩ := mem_proposals.mp hproposes
      obtain ⟨license, hlicense, hforce⟩ := List.mem_filterMap.mp hclaims
      obtain ⟨hvalid, hexpired⟩ := (claimsInForce_eq_some validator).mp hforce
      exact ⟨name, rfl, .inr ⟨license, hlicense, claims, hvalid, hexpired, hgrants⟩⟩
  · rintro ⟨name, rfl, rfl | ⟨license, hlicense, claims, hvalid, hexpired, hgrants⟩⟩
    · exact .inl ⟨name, rfl, rfl⟩
    · have hforce := (claimsInForce_eq_some validator).mpr ⟨hvalid, hexpired⟩
      have hp : (name.asStr, f) ∈
          (licenses.filterMap (claimsInForce validator now)).flatMap (·.proposals now) :=
        List.mem_flatMap.mpr ⟨claims, List.mem_filterMap.mpr ⟨license, hlicense, hforce⟩,
          mem_proposals.mpr ⟨name, rfl, hgrants⟩⟩
      exact .inr (List.mem_map.mpr ⟨_, List.mem_filter.mpr ⟨hp, decide_eq_true rfl⟩, rfl⟩)

theorem refreshEntitlements_lookup (key : String) :
    (refreshEntitlements validator now licenses).features.lookup key =
      (offers validator now licenses key).argmax Feature.rank := by
  rw [(merged_refreshEntitlements validator now licenses).features]
  exact HashMap.lookup_foldl_insertBetter _ _ key

theorem Offered.actual {name : FeatureName} {f : Feature}
    (h : Offered validator now licenses name f) : f.actual = none := by
  obtain rfl | ⟨_, _, _, _, _, hgrants⟩ := h
  · rfl
  · exact hgrants.actual

/-- No two offers tie, so the order in which they are made does not matter. -/
theorem refreshEntitlements_lookup_congr
    (h : ∀ name f, Offered validator now licenses name f ↔ Offered validator' now licenses' name f)
    (key : String) :
    (refreshEntitlements validator now licenses).features.lookup key =
      (refreshEntitlements validator' now licenses').features.lookup key := by
  rw [refreshEntitlements_lookup, refreshEntitlements_lookup]
  apply argmax_congr
  · intro f
    rw [mem_offers, mem_offers]
    exact exists_congr fun name => and_congr_right fun _ => h name f
  · intro f hf g hg hrank
    obtain ⟨_, _, hf⟩ := mem_offers.mp hf
    obtain ⟨_, _, hg⟩ := mem_offers.mp hg
    exact Feature.eq_of_rank hrank (hf.actual.trans hg.actual.symm)

/-- Every feature has a value, and it is the greatest one there is. -/
theorem refreshEntitlements_greatest (validator : LicenseValidator DecodingKey Algorithm)
    (now : OffsetDateTime) (licenses : List LicenseRecord) (name : FeatureName) :
    ∃ f, (refreshEntitlements validator now licenses).features.lookup name.asStr = some f ∧
      Offered validator now licenses name f ∧
        ∀ g, Offered validator now licenses name g → g.rank ≤ f.rank := by
  have hname {f : Feature} : f ∈ offers validator now licenses name.asStr ↔
      Offered validator now licenses name f := by
    rw [mem_offers]
    constructor
    · rintro ⟨name', heq, h⟩
      rwa [FeatureName.asStr_injective heq]
    · exact fun h => ⟨name, rfl, h⟩
  rcases h : (offers validator now licenses name.asStr).argmax Feature.rank with _ | f
  · have hdefault := hname.mpr (.inl rfl)
    rw [List.argmax_eq_none.mp h] at hdefault
    cases hdefault
  · refine ⟨f, (refreshEntitlements_lookup _).trans h, hname.mp (List.argmax_mem h), ?_⟩
    intro g hg
    exact List.le_of_mem_argmax (hname.mpr hg) h

end Offers

/-! ## Order -/

/-- The same claims with their features in some other order of iteration. -/
def LicenseClaims.Same (claims claims' : LicenseClaims) : Prop :=
  ∃ features, claims' = { claims with features } ∧
    claims.features.entries.Perm features.entries

theorem LicenseClaims.Same.symm (h : claims.Same claims') : claims'.Same claims := by
  obtain ⟨features, rfl, hperm⟩ := h
  exact ⟨claims.features, rfl, hperm.symm⟩

theorem Grants.same (h : claims.Same claims') {name : FeatureName} {f : Feature}
    (hgrants : Grants claims now name f) : Grants claims' now name f := by
  obtain ⟨features, rfl, hperm⟩ := h
  have hlookup : features.lookup name.asStr = claims.features.lookup name.asStr :=
    (AList.perm_lookup hperm).symm
  cases hgrants with
  | bySet hset hlimit => exact .bySet hset hlimit
  | byClaim hclaim hpos hlimit => exact .byClaim (hlookup.trans hclaim) hpos hlimit
  | byLimit hclaim hpos hlimit => exact .byLimit (hlookup.trans hclaim) hpos hlimit

section Order

variable {DecodingKey Algorithm : Type}
  {validator validator' : LicenseValidator DecodingKey Algorithm}
  {licenses licenses' : List LicenseRecord}

/-- Two readings of the same tokens. Only the maps in them may iterate differently. -/
def SameReading (validator validator' : LicenseValidator DecodingKey Algorithm) : Prop :=
  ∀ jwt, match validator.validate jwt, validator'.validate jwt with
    | .ok claims, .ok claims' => claims.Same claims'
    | .error e, .error e' => e = e'
    | _, _ => False

theorem SameReading.refl (validator : LicenseValidator DecodingKey Algorithm) :
    SameReading validator validator := by
  intro jwt
  rcases validator.validate jwt with e | claims
  · rfl
  · exact ⟨claims.features, rfl, List.Perm.refl _⟩

theorem SameReading.symm (h : SameReading validator validator') :
    SameReading validator' validator := by
  intro jwt
  have hjwt := h jwt
  revert hjwt
  rcases validator.validate jwt with e | claims <;> rcases validator'.validate jwt with e' | claims'
  · exact Eq.symm
  · exact id
  · exact id
  · exact LicenseClaims.Same.symm

theorem SameReading.ok (h : SameReading validator validator') {jwt : String}
    (hvalid : validator.validate jwt = .ok claims) :
    ∃ claims', validator'.validate jwt = .ok claims' ∧ claims.Same claims' := by
  have hjwt := h jwt
  rw [hvalid] at hjwt
  rcases hvalid' : validator'.validate jwt with e' | claims'
  · rw [hvalid'] at hjwt
    exact hjwt.elim
  · rw [hvalid'] at hjwt
    exact ⟨claims', rfl, hjwt⟩

theorem Offered.reread (h : SameReading validator validator') (hsub : licenses ⊆ licenses')
    {name : FeatureName} {f : Feature} (hoffered : Offered validator now licenses name f) :
    Offered validator' now licenses' name f := by
  obtain rfl | ⟨license, hlicense, claims, hvalid, hexpired, hgrants⟩ := hoffered
  · exact .inl rfl
  · obtain ⟨claims', hvalid', hsame⟩ := h.ok hvalid
    refine .inr ⟨license, hsub hlicense, claims', hvalid', ?_, hgrants.same hsame⟩
    obtain ⟨features, rfl, -⟩ := hsame
    exact hexpired

theorem any_claimsInForce_mono (h : SameReading validator validator') (hsub : licenses ⊆ licenses')
    {p : LicenseClaims → Bool} (hp : ∀ claims features, p { claims with features } = p claims)
    (hany : (licenses.filterMap (claimsInForce validator now)).any p = true) :
    (licenses'.filterMap (claimsInForce validator' now)).any p = true := by
  obtain ⟨claims, hclaims, hpc⟩ := List.any_eq_true.mp hany
  obtain ⟨license, hlicense, hforce⟩ := List.mem_filterMap.mp hclaims
  obtain ⟨hvalid, hexpired⟩ := (claimsInForce_eq_some validator).mp hforce
  obtain ⟨claims', hvalid', features, rfl, -⟩ := h.ok hvalid
  have hforce' : claimsInForce validator' now license = some { claims with features } :=
    (claimsInForce_eq_some validator').mpr ⟨hvalid', hexpired⟩
  refine List.any_eq_true.mpr ⟨_, List.mem_filterMap.mpr ⟨license, hsub hlicense, hforce'⟩, ?_⟩
  rw [hp]
  exact hpc

theorem any_claimsInForce_congr (h : SameReading validator validator')
    (hperm : licenses.Perm licenses') {p : LicenseClaims → Bool}
    (hp : ∀ claims features, p { claims with features } = p claims) :
    (licenses.filterMap (claimsInForce validator now)).any p =
      (licenses'.filterMap (claimsInForce validator' now)).any p :=
  Bool.eq_iff_iff.mpr ⟨any_claimsInForce_mono h hperm.subset hp,
    any_claimsInForce_mono h.symm hperm.symm.subset hp⟩

/-- Two snapshots that agree in everything but their texts and dates. -/
structure Entitlements.Agree (ents ents' : Entitlements) : Prop where
  features : ∀ key, ents.features.lookup key = ents'.features.lookup key
  hasLicense : ents.hasLicense = ents'.hasLicense
  trial : ents.trial = ents'.trial
  requireTelemetry : ents.requireTelemetry = ents'.requireTelemetry

theorem refreshEntitlements_agree (h : SameReading validator validator')
    (hperm : licenses.Perm licenses') :
    (refreshEntitlements validator now licenses).Agree
      (refreshEntitlements validator' now licenses') := by
  have hmerged := merged_refreshEntitlements validator now licenses
  have hmerged' := merged_refreshEntitlements validator' now licenses'
  refine ⟨?_, ?_, ?_, ?_⟩
  · apply refreshEntitlements_lookup_congr
    intro name f
    exact ⟨Offered.reread h hperm.subset, Offered.reread h.symm hperm.symm.subset⟩
  · rw [hmerged.hasLicense, hmerged'.hasLicense,
      any_claimsInForce_congr h hperm (fun _ _ => rfl)]
  · rw [hmerged.trial, hmerged'.trial, any_claimsInForce_congr h hperm (fun _ _ => rfl)]
  · rw [hmerged.requireTelemetry, hmerged'.requireTelemetry,
      any_claimsInForce_congr h hperm (fun _ _ => rfl)]

/-- A refresh merges the licenses to the same result whatever their order and that of the maps
in them: every feature is the greatest of what is granted, and another license lowers none. -/
theorem refreshEntitlements_merges (validator : LicenseValidator DecodingKey Algorithm)
    (now : OffsetDateTime) (licenses : List LicenseRecord) :
    (∀ validator' licenses', SameReading validator validator' → licenses.Perm licenses' →
      (refreshEntitlements validator now licenses).Agree
        (refreshEntitlements validator' now licenses')) ∧
    (∀ name : FeatureName, ∃ f,
      (refreshEntitlements validator now licenses).features.lookup name.asStr = some f ∧
        Offered validator now licenses name f ∧
          ∀ g, Offered validator now licenses name g → g.rank ≤ f.rank) ∧
    (∀ (license : LicenseRecord) (name : FeatureName), ∃ f f',
      (refreshEntitlements validator now licenses).features.lookup name.asStr = some f ∧
        (refreshEntitlements validator now (license :: licenses)).features.lookup name.asStr =
          some f' ∧
        f.rank ≤ f'.rank) := by
  refine ⟨fun _ _ => refreshEntitlements_agree,
    refreshEntitlements_greatest validator now licenses, ?_⟩
  intro license name
  obtain ⟨f, hf, hoffered, -⟩ := refreshEntitlements_greatest validator now licenses name
  obtain ⟨f', hf', -, hgreatest⟩ :=
    refreshEntitlements_greatest validator now (license :: licenses) name
  refine ⟨f, f', hf, hf', hgreatest f ?_⟩
  exact hoffered.reread (.refl validator) (List.subset_cons_self license licenses)

end Order

/-- Two HMAC tokens for up to nine and up to five users, of which the first expires earlier. -/
def nineUsersJwt : String :=
  "eyJ0eXAiOiJKV1QiLCJhbGciOiJIUzI1NiIsImtpZCI6ImRldmVsb3BtZW50In0." ++
    "eyJpYXQiOjEsImxpY2Vuc2VfZXhwaXJlcyI6MTAwLCJleHAiOjMwMCwiYWNjb3VudF90eXBlIjoidCIsImFjY291" ++
    "bnRfaWQiOiJhIiwidmVyc2lvbiI6MywiZmVhdHVyZXMiOnsidXNlcl9saW1pdCI6OX19." ++
    "JiSus69OIuDLIi7w2TbPjc-U9gLveYKxPaIpxIYXz8Y"

def fiveUsersJwt : String :=
  "eyJ0eXAiOiJKV1QiLCJhbGciOiJIUzI1NiIsImtpZCI6ImRldmVsb3BtZW50In0." ++
    "eyJpYXQiOjEsImxpY2Vuc2VfZXhwaXJlcyI6MjAwLCJleHAiOjMwMCwiYWNjb3VudF90eXBlIjoidCIsImFjY291" ++
    "bnRfaWQiOiJiIiwidmVyc2lvbiI6MywiZmVhdHVyZXMiOnsidXNlcl9saW1pdCI6NX19." ++
    "ZBTuzdBB7o2sgjVC0c1YlUMbud_gKdSJZ4PM3vYpAMQ"

def usersClaims (accountId : String) (licenseExpires users : Int) : LicenseClaims where
  exp := 300
  nbf := 0
  iat := 1
  licenseExpires := licenseExpires
  accountType := "t"
  accountId := accountId
  trial := false
  featureSet := .none
  allFeatures := false
  version := 3
  features := (∅ : HashMap String Int).insert "user_limit" users
  requireTelemetry := false

def developmentValidator : LicenseValidator String String where
  jsonwebtoken :=
    { decodeHeader := fun jwt =>
        if jwt = nineUsersJwt ∨ jwt = fiveUsersJwt then .ok (some "development", "HS256")
        else .error "InvalidToken"
      decode := fun jwt key _ =>
        if key ≠ "test-secret" then .error "InvalidSignature"
        else if jwt = nineUsersJwt then .ok (usersClaims "a" 100 9)
        else if jwt = fiveUsersJwt then .ok (usersClaims "b" 200 5)
        else .error "InvalidToken" }
  keys := (∅ : HashMap String String).insert "development" "test-secret"

def usersLicense (id : Int32) (jwt : String) : LicenseRecord := ⟨id, ⟨0⟩, jwt⟩

/-- At 150 seconds the first license is in its grace period, so the second one counts. -/
theorem refreshEntitlements_merges_users :
    (refreshEntitlements developmentValidator ⟨150 * 10 ^ 9, by decide, by decide⟩
        [usersLicense 1 nineUsersJwt, usersLicense 2 fiveUsersJwt]).Agree
      (refreshEntitlements developmentValidator ⟨150 * 10 ^ 9, by decide, by decide⟩
        [usersLicense 2 fiveUsersJwt, usersLicense 1 nineUsersJwt]) ∧
    (refreshEntitlements developmentValidator ⟨150 * 10 ^ 9, by decide, by decide⟩
        [usersLicense 1 nineUsersJwt, usersLicense 2 fiveUsersJwt]).features.lookup "user_limit" =
      some ⟨.entitled, true, some 5, none⟩ :=
  ⟨(refreshEntitlements_merges developmentValidator _ _).1 developmentValidator _
    (.refl developmentValidator) (List.Perm.swap _ _ _), by decide +kernel⟩

end Coderd.License
