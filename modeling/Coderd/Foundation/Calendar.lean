import Mathlib.Algebra.Field.Periodic
import Mathlib.Data.Int.LeastGreatest
import Mathlib.Order.Bounds.Basic

namespace Coderd.Foundation

/-! ## Days

A day is the number of days since 1970-01-01, a Thursday, in a calendar without an end. -/

def secondsPerDay : ℤ := 86400

/-- Counted from Monday. -/
def weekday (day : ℤ) : ℕ := ((day + 3) % 7).toNat

theorem weekday_lt (day : ℤ) : weekday day < 7 := by
  unfold weekday
  omega

theorem weekday_add_seven (day : ℤ) : weekday (day + 7) = weekday day := by
  unfold weekday
  omega

theorem exists_weekday {n : ℕ} (h : n < 7) : ∃ day, weekday day = n := by
  refine ⟨n - 3, ?_⟩
  unfold weekday
  omega

/-- The first place from a start on where a periodic predicate holds. -/
theorem exists_isLeast_of_periodic {P : ℤ → Prop} {period : ℤ} (hpos : 0 < period)
    (hperiodic : Function.Periodic P period) (h : ∃ n, P n) (start : ℤ) :
    ∃ n, IsLeast {n | start ≤ n ∧ P n} n ∧ n < start + period := by
  obtain ⟨n, hn⟩ := h
  obtain ⟨m, ⟨hstart, hlt⟩, hm⟩ := hperiodic.exists_mem_Ico hpos n start
  rw [hm] at hn
  obtain ⟨least, hleast, hmin⟩ := Int.exists_least_of_bdd (P := fun n => start ≤ n ∧ P n)
    ⟨start, fun _ h => h.1⟩ ⟨m, hstart, hn⟩
  exact ⟨least, ⟨hleast, fun k hk => hmin k hk⟩, (hmin m ⟨hstart, hn⟩).trans_lt hlt⟩

end Coderd.Foundation
