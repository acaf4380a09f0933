import Mathlib.Data.List.Infix
import Coderd.DbAuthz.Authorized
import Coderd.Foundation.SetMap

namespace Coderd.IdpSync

open Coderd.Foundation Coderd.DbAuthz

/-! ## Tables -/

structure UserRow where
  deleted : Bool
  deriving DecidableEq

structure OrganizationRow where
  isDefault : Bool
  deleted : Bool
  deriving DecidableEq

structure OrganizationMemberRow where
  createdAt : Int
  roles : List String
  isIdpControlled : Bool
  deriving DecidableEq

structure GroupRow where
  name : String
  displayName : String
  organizationId : Uuid
  avatarUrl : String
  quotaAllowance : Int
  source : String
  deriving DecidableEq

/-- The tables that the sync reads and writes, with the indexes that it relies on. `lower` is the
function `LOWER` of the database. A membership of an organization has the key
`(organization_id, user_id)`, one of a group `(group_id, user_id)`. -/
structure Db (lower : String → String) where
  users : HashMap Uuid UserRow
  organizations : HashMap Uuid OrganizationRow
  organizationMembers : HashMap (Uuid × Uuid) OrganizationMemberRow
  groups : HashMap Uuid GroupRow
  groupMembers : HashSet (Uuid × Uuid)
  oneDefault : ∀ id id' row row', organizations.lookup id = some row →
    organizations.lookup id' = some row' → row.isDefault = true → row'.isDefault = true → id = id'
  oneName : ∀ id id' row row', groups.lookup id = some row → groups.lookup id' = some row' →
    row.organizationId = row'.organizationId → lower row.name = lower row'.name → id = id'
  memberOfGroup : ∀ m, m ∈ groupMembers → ∃ row, groups.lookup m.1 = some row

namespace Db

variable {lower : String → String}

/-- The user has not been deleted. -/
def live (db : Db lower) (userId : Uuid) : Bool :=
  (db.users.lookup userId).any fun row => !row.deleted

end Db

/-- The error of an insert whose row refers to one that is not there. -/
def foreignKeyViolation : StorageError := .unavailable "violates foreign key constraint"

/-! ## Claims -/

inductive IdpSyncError where
  | storage (error : StorageError)
  | invalidRegex (message : String)
  deriving DecidableEq

/-- `Regex::new`: what the pattern matches, or why it is not a pattern. -/
abbrev RegexNew := String → Except String (String → Bool)

/-- A pattern without special characters. -/
def literalRegex : RegexNew := fun pattern =>
  .ok fun raw => decide (pattern.toList <:+: raw.toList)

/-- An empty or missing pattern matches everything. -/
def compileFilter (regexNew : RegexNew) :
    Option String → Except IdpSyncError (Option (String → Bool))
  | some pattern =>
    if pattern.isEmpty then .ok none
    else
      match regexNew pattern with
      | .ok regex => .ok (some regex)
      | .error message => .error (.invalidRegex message)
  | none => .ok none

def passes (filter : Option (String → Bool)) (raw : String) : Bool :=
  filter.all fun regex => regex raw

/-- A claim that passes the filter is mapped to the id. -/
def Mapped (filter : Option (String → Bool)) (mapping : HashMap String (List Uuid))
    (rawClaims : List String) (id : Uuid) : Prop :=
  ∃ raw ∈ rawClaims, passes filter raw = true ∧ ∃ ids, mapping.lookup raw = some ids ∧ id ∈ ids

theorem mapped_cons {filter : Option (String → Bool)} {mapping : HashMap String (List Uuid)}
    {raw : String} {rawClaims : List String} {id : Uuid} :
    Mapped filter mapping (raw :: rawClaims) id ↔
      (passes filter raw = true ∧ ∃ ids, mapping.lookup raw = some ids ∧ id ∈ ids) ∨
        Mapped filter mapping rawClaims id :=
  List.exists_mem_cons_iff _ _ _

end Coderd.IdpSync
