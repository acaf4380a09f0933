import Coderd.Workspaces.Builders

namespace Coderd.Provisioner

open Coderd.Foundation
open Coderd.Builds (mergeTags mutateTags)

/-! ## Matching of daemons and jobs -/

def tagScope : String := "scope"

def tagOwner : String := "owner"

def scopeUser : String := "user"

def scopeOrganization : String := "organization"

/-- The value of a daemon's tag that matches every value. -/
def tagWildcard : String := "*"

def isUntaggedOrgScope (tags : Tags) : Bool :=
  tags.entries.length = 2 && tags.lookup tagScope = some scopeOrganization &&
    tags.lookup tagOwner = some ""

def provisionerTagsetMatches (daemonTags jobTags : Tags) : Bool :=
  if isUntaggedOrgScope jobTags then HashMap.beq daemonTags jobTags
  else
    jobTags.entries.all fun tag =>
      match daemonTags.lookup tag.1 with
      | some dv => if dv = tagWildcard then true else dv = tag.2
      | none => false

theorem all_entries_of_lookup {tags : Tags} {admits : (_ : String) × String → Bool}
    (h : tags.entries.all admits = true) {key value : String}
    (hvalue : tags.lookup key = some value) : admits ⟨key, value⟩ = true :=
  List.all_eq_true.mp h _ (AList.mem_lookup_iff.mp hvalue)

/-- A tag of the job is the daemon's too, unless the daemon has the wildcard there. -/
theorem lookup_of_matches {daemonTags jobTags : Tags}
    (h : provisionerTagsetMatches daemonTags jobTags = true) {key value : String}
    (hvalue : jobTags.lookup key = some value) (hwild : daemonTags.lookup key ≠ some tagWildcard) :
    daemonTags.lookup key = some value := by
  unfold provisionerTagsetMatches at h
  split at h
  · rw [HashMap.beq_iff.mp h key, hvalue]
  · have hadmits := all_entries_of_lookup h hvalue
    cases hdaemon : daemonTags.lookup key with
    | none => simp [hdaemon] at hadmits
    | some dv =>
      have hne : dv ≠ tagWildcard := fun heq => hwild (heq ▸ hdaemon)
      simp only [hdaemon, hne, if_false, decide_eq_true_eq] at hadmits
      rw [hadmits]

/-! ## Normalized tags -/

/-- Of the two values of a key the later one is kept, unless it is empty. -/
theorem lookup_mergeTags (target extra : Tags) (key : String) :
    (mergeTags target extra).lookup key =
      ((extra.lookup key).filter fun v => !v.isEmpty).or (target.lookup key) := by
  obtain ⟨entries, hkeys⟩ := extra
  unfold mergeTags
  change (entries.foldl _ target).lookup key =
    ((entries.dlookup key).filter fun v => !v.isEmpty).or _
  induction entries generalizing target with
  | nil => rfl
  | cons e entries ih =>
    obtain ⟨hnot, hrest⟩ := List.nodupKeys_cons.mp hkeys
    rw [List.foldl_cons, ih _ hrest]
    by_cases hkey : key = e.1
    · subst hkey
      rw [List.dlookup_eq_none.mpr hnot, List.dlookup_cons_eq]
      by_cases hempty : e.2.isEmpty = true
      · simp [Option.filter_some, hempty]
      · simp [Option.filter_some, hempty, AList.lookup_insert]
    · rw [List.dlookup_cons_ne _ _ hkey]
      congr 1
      split
      · rfl
      · rw [AList.lookup_insert_ne hkey]

/-- What the maps say together, before the scope and the owner are set. -/
def mergedTags (provided : List Tags) : Tags := provided.foldl mergeTags ∅

theorem lookup_foldl_mergeTags {provided : List Tags} {target : Tags} {key : String}
    (htarget : ∀ v, target.lookup key = some v → v.isEmpty = false) {v : String}
    (h : (provided.foldl mergeTags target).lookup key = some v) : v.isEmpty = false := by
  induction provided generalizing target with
  | nil => exact htarget v h
  | cons extra provided ih =>
    refine ih ?_ h
    intro v hv
    rw [lookup_mergeTags, Option.or_eq_some_iff] at hv
    obtain hextra | ⟨-, hold⟩ := hv
    · simpa using (Option.filter_eq_some_iff.mp hextra).2
    · exact htarget v hold

theorem isEmpty_of_lookup_mergedTags {provided : List Tags} {key v : String}
    (h : (mergedTags provided).lookup key = some v) : v.isEmpty = false :=
  lookup_foldl_mergeTags (fun v hv => by cases hv) h

def scopeOf (tags : Tags) : String :=
  if tags.lookup tagScope = some scopeUser then scopeUser else scopeOrganization

def ownerOf (userId : Uuid) (tags : Tags) : String :=
  if tags.lookup tagScope = some scopeUser then userId.toHyphenated else ""

/-- The scope is one of two, and the owner goes with it, whatever the maps give for them. -/
theorem lookup_mutateTags (userId : Uuid) (provided : List Tags) (key : String) :
    (mutateTags userId provided).lookup key =
      if key = tagOwner then some (ownerOf userId (mergedTags provided))
      else if key = tagScope then some (scopeOf (mergedTags provided))
      else (mergedTags provided).lookup key := by
  have hmerged : provided.foldl mergeTags ∅ = mergedTags provided := rfl
  unfold mutateTags scopeOf ownerOf tagScope tagOwner scopeUser scopeOrganization
  rw [hmerged]
  generalize mergedTags provided = tags
  cases hscope : tags.lookup "scope" with
  | none =>
    have horg : ((tags.insert "scope" "organization").insert "owner" "").lookup "scope" =
        some "organization" := by
      simp
    simp only [hscope, Option.isNone_none, if_true, horg]
    simp [HashMap.lookup_insert_ite]
  | some scope =>
    simp only [Option.isNone_some, Bool.false_eq_true, if_false, hscope, Option.some.injEq]
    by_cases hkey : key = "scope"
    · subst hkey
      split <;> simp_all
    · split <;> simp_all [HashMap.lookup_insert_ite]

theorem lookup_mutateTags_scope (userId : Uuid) (provided : List Tags) :
    (mutateTags userId provided).lookup tagScope = some (scopeOf (mergedTags provided)) := by
  rw [lookup_mutateTags, if_neg (by decide), if_pos rfl]

theorem lookup_mutateTags_owner (userId : Uuid) (provided : List Tags) :
    (mutateTags userId provided).lookup tagOwner = some (ownerOf userId (mergedTags provided)) := by
  rw [lookup_mutateTags, if_pos rfl]

theorem scopeOf_ne_wildcard (tags : Tags) : scopeOf tags ≠ tagWildcard := by
  unfold scopeOf
  split <;> decide

theorem ownerOf_ne_wildcard (userId : Uuid) (tags : Tags) : ownerOf userId tags ≠ tagWildcard := by
  unfold ownerOf
  split
  · exact Uuid.toHyphenated_ne rfl userId
  · decide

/-- Neither the scope nor the owner of a daemon is a wildcard, so that both are the job's. -/
theorem routed_to_owner {a b : Uuid} {p q : List Tags}
    (h : provisionerTagsetMatches (mutateTags b q) (mutateTags a p) = true) :
    scopeOf (mergedTags q) = scopeOf (mergedTags p) ∧
      ownerOf b (mergedTags q) = ownerOf a (mergedTags p) := by
  have hscope := lookup_of_matches h (lookup_mutateTags_scope a p) (by
    rw [lookup_mutateTags_scope]
    exact fun heq => scopeOf_ne_wildcard _ (Option.some.inj heq))
  have howner := lookup_of_matches h (lookup_mutateTags_owner a p) (by
    rw [lookup_mutateTags_owner]
    exact fun heq => ownerOf_ne_wildcard b _ (Option.some.inj heq))
  rw [lookup_mutateTags_scope] at hscope
  rw [lookup_mutateTags_owner] at howner
  exact ⟨Option.some.inj hscope, Option.some.inj howner⟩

theorem scopeOf_eq_user_iff {tags : Tags} :
    scopeOf tags = scopeUser ↔ tags.lookup tagScope = some scopeUser := by
  unfold scopeOf
  split
  · rename_i huser
    simp [huser]
  · rename_i huser
    simp only [huser, iff_false]
    decide

/-- What is normalized once is merged as it is, but for an owner that is empty. -/
theorem lookup_mergedTags_singleton (tags : Tags) (key : String) :
    (mergedTags [tags]).lookup key = (tags.lookup key).filter fun v => !v.isEmpty := by
  rw [mergedTags, List.foldl_cons, List.foldl_nil, lookup_mergeTags, AList.lookup_empty,
    Option.or_none]

theorem mutateTags_mutateTags (userId : Uuid) (provided : List Tags) (key : String) :
    (mutateTags userId [mutateTags userId provided]).lookup key =
      (mutateTags userId provided).lookup key := by
  have hscope : (mergedTags [mutateTags userId provided]).lookup tagScope =
      some (scopeOf (mergedTags provided)) := by
    rw [lookup_mergedTags_singleton, lookup_mutateTags_scope, Option.filter_some, if_pos]
    unfold scopeOf
    split <;> decide
  have huser : (mergedTags [mutateTags userId provided]).lookup tagScope = some scopeUser ↔
      (mergedTags provided).lookup tagScope = some scopeUser := by
    rw [hscope, Option.some.injEq, scopeOf_eq_user_iff]
  rw [lookup_mutateTags, lookup_mutateTags userId provided]
  unfold ownerOf scopeOf
  simp only [huser]
  split
  · rfl
  · rename_i howner
    split
    · rfl
    · rename_i hkey
      rw [lookup_mergedTags_singleton, lookup_mutateTags, if_neg howner, if_neg hkey]
      cases hvalue : (mergedTags provided).lookup key with
      | none => rfl
      | some v => simp [Option.filter_some, isEmpty_of_lookup_mergedTags hvalue]

/-! ## The query -/

theorem Tags.same_iff {tags other : Tags} :
    tags.same other = true ↔ ∀ key, tags.lookup key = other.lookup key := by
  rw [Tags.same, Bool.and_eq_true, Tags.containedIn, Tags.containedIn, HashMap.all_entries_iff,
    HashMap.all_entries_iff]
  constructor
  · rintro ⟨hsub, hsup⟩ key
    exact Option.ext fun v => ⟨hsub key v, hsup key v⟩
  · intro h
    exact ⟨fun key v hv => h key ▸ hv, fun key v hv => (h key).symm ▸ hv⟩

/-- The untagged set has two tags, and a set of two tags that has both has no others. -/
theorem isUntaggedOrgScope_iff {tags : Tags} :
    isUntaggedOrgScope tags = true ↔ tags.same untagged = true := by
  have hentries : untagged.entries = [⟨"owner", ""⟩, ⟨"scope", "organization"⟩] := rfl
  have hbeq : isUntaggedOrgScope tags = true ↔ HashMap.beq untagged tags = true := by
    simp only [isUntaggedOrgScope, HashMap.beq, hentries, List.length_cons, List.length_nil,
      List.all_cons, List.all_nil, Bool.and_eq_true, decide_eq_true_eq, and_true]
    constructor
    · rintro ⟨⟨hlength, hscope⟩, howner⟩
      exact ⟨hlength.symm, howner, hscope⟩
    · rintro ⟨hlength, howner, hscope⟩
      exact ⟨⟨hlength.symm, hscope⟩, howner⟩
  rw [hbeq, HashMap.beq_iff, Tags.same_iff]
  exact forall_congr' fun key => eq_comm

/-- Without a wildcard the matcher in memory agrees with the condition of the query. -/
theorem provisionerTagsetMatches_eq_tagsMatch {daemonTags jobTags : Tags}
    (hwild : ∀ key, daemonTags.lookup key ≠ some tagWildcard) :
    provisionerTagsetMatches daemonTags jobTags = tagsMatch jobTags daemonTags := by
  have huntagged : isUntaggedOrgScope jobTags = jobTags.same untagged :=
    Bool.eq_iff_iff.mpr isUntaggedOrgScope_iff
  have hequal : HashMap.beq daemonTags jobTags = jobTags.same daemonTags :=
    Bool.eq_iff_iff.mpr (HashMap.beq_iff.trans
      ((forall_congr' fun key => eq_comm).trans Tags.same_iff.symm))
  rw [provisionerTagsetMatches, tagsMatch, huntagged, hequal, Tags.containedIn]
  congr 1
  refine List.all_congr rfl fun tag => ?_
  cases hdaemon : daemonTags.lookup tag.1 with
  | none => rfl
  | some dv =>
    have hne : dv ≠ tagWildcard := fun heq => hwild tag.1 (heq ▸ hdaemon)
    simp [hne]

/-! ## Routing -/

/-- Jobs go to the daemons of their owner: a match of normalized tags is one of scope and owner,
normalizing again changes nothing, and the matcher is the one of the query. -/
theorem tags_route_to_owner :
    (∀ (a b : Uuid) (p q : List Tags),
      provisionerTagsetMatches (mutateTags b q) (mutateTags a p) = true →
        (mutateTags b q).lookup tagScope = (mutateTags a p).lookup tagScope ∧
        (mutateTags b q).lookup tagOwner = (mutateTags a p).lookup tagOwner ∧
        ((mutateTags a p).lookup tagScope = some scopeUser → b = a)) ∧
    (∀ (a : Uuid) (p : List Tags),
      HashMap.beq (mutateTags a [mutateTags a p]) (mutateTags a p) = true) ∧
    ∀ jobTags daemonTags : Tags, (∀ key, daemonTags.lookup key ≠ some tagWildcard) →
      provisionerTagsetMatches daemonTags jobTags = tagsMatch jobTags daemonTags := by
  refine ⟨fun a b p q hmatch => ?_, fun a p => ?_, fun jobTags daemonTags hwild => ?_⟩
  · obtain ⟨hscope, howner⟩ := routed_to_owner hmatch
    simp only [lookup_mutateTags_scope, lookup_mutateTags_owner, Option.some.injEq]
    refine ⟨hscope, howner, fun huser => ?_⟩
    have huserDaemon := scopeOf_eq_user_iff.mp (hscope.trans huser)
    rw [ownerOf, ownerOf, if_pos huserDaemon, if_pos (scopeOf_eq_user_iff.mp huser)] at howner
    exact Uuid.toHyphenated_injective howner
  · exact HashMap.beq_iff.mpr (mutateTags_mutateTags a p)
  · exact provisionerTagsetMatches_eq_tagsMatch hwild

/-- A daemon of the user 1 for every environment, and a job of that user for one. -/
theorem tags_route_to_owner_anyEnvironment :
    provisionerTagsetMatches
        (mutateTags ⟨1⟩ [(AList.insert "scope" "user" ∅ : Tags).insert "env" "*"])
        (mutateTags ⟨1⟩ [(AList.insert "scope" "user" ∅ : Tags).insert "env" "prod"]) = true ∧
      (mutateTags ⟨1⟩ [(AList.insert "scope" "user" ∅ : Tags).insert "env" "*"]).lookup tagOwner =
        (mutateTags ⟨1⟩ [(AList.insert "scope" "user" ∅ : Tags).insert "env" "prod"]).lookup
          tagOwner := by
  have hmatch : provisionerTagsetMatches
      (mutateTags ⟨1⟩ [(AList.insert "scope" "user" ∅ : Tags).insert "env" "*"])
      (mutateTags ⟨1⟩ [(AList.insert "scope" "user" ∅ : Tags).insert "env" "prod"]) = true := by
    decide +kernel
  exact ⟨hmatch, (tags_route_to_owner.1 _ _ _ _ hmatch).2.1⟩

end Coderd.Provisioner
