import Coderd.Foundation.WhereClause
import Coderd.Rbac.Roles

namespace Coderd.Rbac

open Coderd.Foundation

/-! ## Filters -/

/-- A clause to be added to the conditions of a query, with the values to bind. -/
structure SqlFilter where
  clause : WhereClause
  uuidParams : List Uuid
  uuidArrayParams : List (List Uuid)

/-- The text of a test, with its parameter as a placeholder token numbered from one. -/
def testText : ColumnTest → String
  | .eq column index => column ++ " = \x7buuid$" ++ toString (index + 1) ++ "\x7d"
  | .eqAny column index => column ++ " = ANY(\x7buuid_array$" ++ toString (index + 1) ++ "\x7d)"

namespace SqlFilter

def clauseText (filter : SqlFilter) : String :=
  match filter.clause with
  | .true => "TRUE"
  | .false => "FALSE"
  | .test test => testText test
  | .or tests => "(" ++ " OR ".intercalate (tests.map testText) ++ ")"

def isAllowAll (filter : SqlFilter) : Bool := filter.clauseText = "TRUE"

def isDenyAll (filter : SqlFilter) : Bool := filter.clauseText = "FALSE"

def allowAll : SqlFilter where
  clause := .true
  uuidParams := []
  uuidArrayParams := []

def denyAll : SqlFilter where
  clause := .false
  uuidParams := []
  uuidArrayParams := []

/-- The clause is true of the row. -/
def selects (filter : SqlFilter) (row : Row Uuid) : Bool :=
  filter.clause.eval filter.uuidParams filter.uuidArrayParams row

/-! The callers recognize the two sentinels by their text, which no column name can forge. -/

theorem eq_mem_testText (test : ColumnTest) : '=' ∈ (testText test).toList := by
  cases test with
  | eq column index => simp [testText]
  | eqAny column index => simp [testText]

theorem clause_of_sentinel {filter : SqlFilter} (heq : '=' ∉ filter.clauseText.toList)
    (hparen : '(' ∉ filter.clauseText.toList) : filter.clause = .true ∨ filter.clause = .false := by
  unfold clauseText at heq hparen
  cases hclause : filter.clause with
  | true => exact .inl rfl
  | false => exact .inr rfl
  | test test =>
    rw [hclause] at heq
    exact absurd (eq_mem_testText test) heq
  | or tests =>
    rw [hclause] at hparen
    simp at hparen

theorem isAllowAll_iff {filter : SqlFilter} : filter.isAllowAll = true ↔ filter.clause = .true := by
  unfold isAllowAll
  rw [decide_eq_true_iff]
  constructor
  · intro htext
    refine (clause_of_sentinel (by simp [htext]) (by simp [htext])).resolve_right fun hfalse => ?_
    simp [clauseText, hfalse] at htext
  · intro htrue
    simp [clauseText, htrue]

theorem isDenyAll_iff {filter : SqlFilter} : filter.isDenyAll = true ↔ filter.clause = .false := by
  unfold isDenyAll
  rw [decide_eq_true_iff]
  constructor
  · intro htext
    refine (clause_of_sentinel (by simp [htext]) (by simp [htext])).resolve_left fun htrue => ?_
    simp [clauseText, htrue] at htext
  · intro hfalse
    simp [clauseText, hfalse]

end SqlFilter

/-! ## The builder -/

structure SqlFilterBuilder where
  actor : Actor
  resourceType : ResourceType
  action : Action
  orgColumn : String
  ownerColumn : Option String
  idColumn : String

namespace SqlFilterBuilder

def new (actor : Actor) (resourceType : ResourceType) (action : Action) : SqlFilterBuilder where
  actor := actor
  resourceType := resourceType
  action := action
  orgColumn := "organization_id"
  ownerColumn := none
  idColumn := "id"

def withOrgColumn (b : SqlFilterBuilder) (col : String) : SqlFilterBuilder :=
  { b with orgColumn := col }

def withOwnerColumn (b : SqlFilterBuilder) (col : String) : SqlFilterBuilder :=
  { b with ownerColumn := some col }

def withIdColumn (b : SqlFilterBuilder) (col : String) : SqlFilterBuilder :=
  { b with idColumn := col }

section

variable [UuidText]

/-- The organizations of the actor's `organization-admin` roles. -/
def collectAdminOrgs (actor : Actor) : List Uuid :=
  actor.orgRoles.filterMap fun entry =>
    match splitOnce entry ':' with
    | some (role, orgIdStr) =>
      if role = "organization-admin" then UuidText.parseStr orgIdStr else none
    | none => none

/-- The first id the scope lists for the type. -/
def pinnedId (b : SqlFilterBuilder) (scope : Scope) : Option Uuid :=
  scope.allowList.findSome? fun (rtStr, idStr) =>
    if rtStr = b.resourceType.asStr then UuidText.parseStr idStr else none

/-- What the scope that replaces the named one leads to, unless it leaves the rows to the
roles. -/
def scopeFilter (b : SqlFilterBuilder) : Option SqlFilter :=
  match b.actor.scopeOverride with
  | none => none
  | some scope =>
    match b.pinnedId scope with
    | some id =>
      some { clause := .test (.eq b.idColumn 0), uuidParams := [id], uuidArrayParams := [] }
    | none =>
      let hasWildcard := scope.allowList.any fun (rt, id) => rt = wildcard ∧ id = wildcard
      if !hasWildcard then some .denyAll else none

end

def memberSelfAllowed (b : SqlFilterBuilder) : Bool :=
  match b.resourceType, b.action with
  | .workspace, .read => true
  | .workspace, .start => true
  | .workspace, .stop => true
  | .workspace, .update => true
  | _, _ => false

def auditorSiteAllowed (b : SqlFilterBuilder) : Bool :=
  (match b.resourceType, b.action with
    | .auditLog, .read => true
    | .template, .read => true
    | _, _ => false) &&
    (b.actor.hasSiteRole "auditor" || b.actor.hasSiteRole "template-admin")

variable [UuidText]

def disjuncts (b : SqlFilterBuilder) : Disjuncts Uuid :=
  let adminOrgs := collectAdminOrgs b.actor
  let isAdminAnywhere := !adminOrgs.isEmpty
  let ors := Disjuncts.empty
  let ors := if isAdminAnywhere then ors.pushEqAny b.orgColumn adminOrgs else ors
  let ors :=
    if b.memberSelfAllowed then
      match b.ownerColumn with
      | some ownerCol => ors.pushEq ownerCol b.actor.userId
      | none => ors
    else ors
  if b.resourceType = .template ∧ b.action = .read ∧ !b.actor.organizationIds.isEmpty ∧
      !isAdminAnywhere then
    ors.pushEqAny b.orgColumn b.actor.organizationIds
  else ors

def build (b : SqlFilterBuilder) : SqlFilter :=
  if b.actor.hasSiteRole "owner" then .allowAll
  else
    match b.scopeFilter with
    | some filter => filter
    | none =>
      if b.auditorSiteAllowed then .allowAll
      else
        let ors := b.disjuncts
        if ors.tests.isEmpty then .denyAll
        else { clause := ors.clause, uuidParams := ors.params, uuidArrayParams := ors.arrayParams }

end SqlFilterBuilder

end Coderd.Rbac
