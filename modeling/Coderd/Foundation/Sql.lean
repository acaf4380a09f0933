import Mathlib.Data.Option.Defs

namespace Coderd.Foundation

variable {α β γ : Type}

/-- A truth value of SQL. -/
inductive SqlBool where
  | true
  | false
  | unknown
  deriving DecidableEq, Repr

namespace SqlBool

def ofBool (b : Bool) : SqlBool := if b then true else false

def and : SqlBool → SqlBool → SqlBool
  | false, _ => false
  | _, false => false
  | true, true => true
  | _, _ => unknown

def or : SqlBool → SqlBool → SqlBool
  | true, _ => true
  | _, true => true
  | false, false => false
  | _, _ => unknown

/-- A comparison of two columns; with `NULL` on one side it is unknown. -/
def compare (r : α → β → Bool) : Option α → Option β → SqlBool
  | some a, some b => ofBool (r a b)
  | _, _ => unknown

def isNull (a : Option α) : SqlBool := ofBool a.isNone

def isNotNull (a : Option α) : SqlBool := ofBool a.isSome

/-- `CASE WHEN … THEN … ELSE … END`. -/
def caseWhen (c : SqlBool) (a b : γ) : γ := if c = true then a else b

/-! ## When a clause is true -/

variable {a b c : SqlBool}

@[simp]
theorem ofBool_eq_true {b : Bool} : ofBool b = true ↔ b = Bool.true := by
  cases b <;> decide

@[simp]
theorem and_eq_true : a.and b = true ↔ a = true ∧ b = true := by
  cases a <;> cases b <;> decide

@[simp]
theorem or_eq_true : a.or b = true ↔ a = true ∨ b = true := by
  cases a <;> cases b <;> decide

@[simp]
theorem isNull_eq_true {x : Option α} : isNull x = true ↔ x = none := by
  simp [isNull]

@[simp]
theorem isNotNull_eq_true {x : Option α} : isNotNull x = true ↔ x.isSome = Bool.true := by
  simp [isNotNull]

@[simp]
theorem compare_eq_true {r : α → β → Bool} {x : Option α} {y : Option β} :
    compare r x y = true ↔ ∃ a b, x = some a ∧ y = some b ∧ r a b = Bool.true := by
  cases x <;> cases y <;> simp [compare]

theorem caseWhen_eq_true :
    caseWhen c a b = true ↔ (c = true ∧ a = true) ∨ (c ≠ true ∧ b = true) := by
  unfold caseWhen
  by_cases h : c = true <;> simp [h]

end SqlBool

end Coderd.Foundation
