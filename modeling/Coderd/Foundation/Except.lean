namespace Coderd.Foundation.Except

variable {ε α β : Type}

/-- A chain of fallible steps succeeds when each of them does. -/
theorem bind_eq_ok_iff {m : Except ε α} {k : α → Except ε β} {b : β} :
    (m >>= k) = .ok b ↔ ∃ a, m = .ok a ∧ k a = .ok b := by
  cases m with
  | error e =>
    constructor
    · intro h
      cases h
    · rintro ⟨a, h, -⟩
      cases h
  | ok a =>
    constructor
    · intro h
      exact ⟨a, rfl, h⟩
    · rintro ⟨a', h, hk⟩
      cases h
      exact hk

end Coderd.Foundation.Except
