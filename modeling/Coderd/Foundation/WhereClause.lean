import Mathlib.Data.List.Defs

namespace Coderd.Foundation

variable {α : Type}

/-! ## Clauses over bound parameters -/

/-- A comparison of a column with a parameter, or with the members of an array parameter.
Parameters and array parameters are numbered apart, from zero. -/
inductive ColumnTest where
  | eq (column : String) (index : Nat)
  | eqAny (column : String) (index : Nat)
  deriving DecidableEq, Repr

inductive WhereClause where
  | true
  | false
  | test (test : ColumnTest)
  | or (tests : List ColumnTest)
  deriving DecidableEq, Repr

/-- The values a row has in its columns. -/
abbrev Row (α : Type) := String → α

section

variable [DecidableEq α]

def ColumnTest.eval (params : List α) (arrayParams : List (List α)) (row : Row α) :
    ColumnTest → Bool
  | eq column index => params[index]? = some (row column)
  | eqAny column index => (arrayParams[index]?.getD []).contains (row column)

def WhereClause.eval (params : List α) (arrayParams : List (List α)) (row : Row α) :
    WhereClause → Bool
  | true => Bool.true
  | false => Bool.false
  | test t => t.eval params arrayParams row
  | or tests => tests.any (ColumnTest.eval params arrayParams row)

end

/-! ## Collecting disjuncts -/

/-- The parameter of the test is among the first ones of its kind. -/
def ColumnTest.Bound (params arrayParams : Nat) : ColumnTest → Prop
  | eq _ index => index < params
  | eqAny _ index => index < arrayParams

theorem ColumnTest.Bound.mono {test : ColumnTest} {params params' arrayParams arrayParams' : Nat}
    (h : test.Bound params arrayParams) (hparams : params ≤ params')
    (harrays : arrayParams ≤ arrayParams') : test.Bound params' arrayParams' := by
  cases test with
  | eq column index => exact Nat.lt_of_lt_of_le h hparams
  | eqAny column index => exact Nat.lt_of_lt_of_le h harrays

/-- Tests gathered together with the parameters they refer to. -/
structure Disjuncts (α : Type) where
  tests : List ColumnTest
  params : List α
  arrayParams : List (List α)
  bound : ∀ test ∈ tests, test.Bound params.length arrayParams.length

namespace Disjuncts

def empty : Disjuncts α := ⟨[], [], [], by simp⟩

/-- Adds `column = value`. -/
def pushEq (d : Disjuncts α) (column : String) (value : α) : Disjuncts α where
  tests := d.tests ++ [.eq column d.params.length]
  params := d.params ++ [value]
  arrayParams := d.arrayParams
  bound := by
    intro test htest
    rw [List.length_append]
    obtain htest | htest := List.mem_append.mp htest
    · exact (d.bound test htest).mono (Nat.le_add_right _ _) Nat.le.refl
    · rw [List.mem_singleton.mp htest]
      exact Nat.lt_succ_self _

/-- Adds `column = ANY(values)`. -/
def pushEqAny (d : Disjuncts α) (column : String) (values : List α) : Disjuncts α where
  tests := d.tests ++ [.eqAny column d.arrayParams.length]
  params := d.params
  arrayParams := d.arrayParams ++ [values]
  bound := by
    intro test htest
    rw [List.length_append]
    obtain htest | htest := List.mem_append.mp htest
    · exact (d.bound test htest).mono Nat.le.refl (Nat.le_add_right _ _)
    · rw [List.mem_singleton.mp htest]
      exact Nat.lt_succ_self _

/-- The clause of the tests: none is `FALSE`, and a single one stands by itself. -/
def clause (d : Disjuncts α) : WhereClause :=
  match d.tests with
  | [] => .false
  | [test] => .test test
  | tests => .or tests

variable [DecidableEq α] {d : Disjuncts α} {row : Row α}

def holds (d : Disjuncts α) (row : Row α) : Bool :=
  d.tests.any (ColumnTest.eval d.params d.arrayParams row)

theorem eval_clause : d.clause.eval d.params d.arrayParams row = d.holds row := by
  unfold clause holds
  rcases d.tests with _ | ⟨test, _ | ⟨test', tests⟩⟩
  · rfl
  · simp [WhereClause.eval]
  · rfl

@[simp] theorem holds_empty : (empty : Disjuncts α).holds row = false := rfl

/-- More parameters at the end change no test that was there before. -/
theorem eval_append {test : ColumnTest} {params params' : List α}
    {arrayParams arrayParams' : List (List α)}
    (h : test.Bound params.length arrayParams.length) :
    test.eval (params ++ params') (arrayParams ++ arrayParams') row =
      test.eval params arrayParams row := by
  cases test with
  | eq column index => simp only [ColumnTest.eval, List.getElem?_append_left h]
  | eqAny column index => simp only [ColumnTest.eval, List.getElem?_append_left h]

theorem any_eval_append (d : Disjuncts α) (row : Row α) (params' : List α)
    (arrayParams' : List (List α)) :
    d.tests.any (ColumnTest.eval (d.params ++ params') (d.arrayParams ++ arrayParams') row) =
      d.holds row := by
  unfold holds
  rw [Bool.eq_iff_iff, List.any_eq_true, List.any_eq_true]
  refine exists_congr fun test => and_congr_right fun htest => ?_
  rw [eval_append (d.bound test htest)]

@[simp] theorem holds_pushEq (column : String) (value : α) :
    (d.pushEq column value).holds row = (d.holds row || decide (row column = value)) := by
  have hold : d.tests.any (ColumnTest.eval (d.params ++ [value]) d.arrayParams row) =
      d.holds row := by
    simpa using d.any_eval_append row [value] []
  have hnew : ColumnTest.eval (d.params ++ [value]) d.arrayParams row (.eq column d.params.length) =
      decide (row column = value) := by
    simp [ColumnTest.eval, eq_comm]
  simp only [holds, pushEq, List.any_append, List.any_cons, List.any_nil, Bool.or_false, hold, hnew]

@[simp] theorem holds_pushEqAny (column : String) (values : List α) :
    (d.pushEqAny column values).holds row = (d.holds row || values.contains (row column)) := by
  have hold : d.tests.any (ColumnTest.eval d.params (d.arrayParams ++ [values]) row) =
      d.holds row := by
    simpa using d.any_eval_append row [] [values]
  have hnew : ColumnTest.eval d.params (d.arrayParams ++ [values]) row
      (.eqAny column d.arrayParams.length) = values.contains (row column) := by
    simp [ColumnTest.eval]
  simp only [holds, pushEqAny, List.any_append, List.any_cons, List.any_nil, Bool.or_false, hold,
    hnew]

end Disjuncts

end Coderd.Foundation
