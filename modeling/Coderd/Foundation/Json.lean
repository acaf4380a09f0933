import Coderd.Foundation.Integers

namespace Coderd.Foundation

/-! ## JSON values -/

/-- `serde_json::Value`. An integer may be of any size; of the other numbers nothing is read. -/
inductive Json where
  | null
  | bool (b : Bool)
  | integer (n : ℤ)
  | decimal
  | string (s : String)
  | array (items : List Json)
  | object (members : List (String × Json))

namespace Json

/-- The member of an object; other values have none. -/
def get : Json → String → Option Json
  | .object members, field => members.lookup field
  | _, _ => none

def asStr : Json → Option String
  | .string s => some s
  | _ => none

def asArray : Json → Option (List Json)
  | .array items => some items
  | _ => none

/-- An integer in the range of an `i64`. -/
def asI64 : Json → Option ℤ
  | .integer n => if Fits 64 n then some n else none
  | _ => none

theorem asI64_of_fits {n : ℤ} (h : Fits 64 n) : (integer n).asI64 = some n := if_pos h

theorem eq_of_asI64 {n m : ℤ} (h : (integer n).asI64 = some m) : m = n := by
  rw [asI64] at h
  split at h
  · exact (Option.some.inj h).symm
  · cases h

end Json

end Coderd.Foundation
