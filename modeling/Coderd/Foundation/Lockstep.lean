import Coderd.Foundation.Effect

namespace Coderd.Foundation

namespace Effect

variable {σ τ ε α β γ δ : Type}

/-- Both are results, which are related, or both are the same failure. -/
inductive Alike (R : α → β → Prop) : Except ε α → Except ε β → Prop
  | ok {a : α} {b : β} (h : R a b) : Alike R (.ok a) (.ok b)
  | error (e : ε) : Alike R (.error e) (.error e)

theorem Alike.eq {r r' : Except ε α} (h : Alike (· = ·) r r') : r = r' := by
  cases h with
  | ok h => rw [h]
  | error e => rfl

/-- Started in related states, the two end alike and in related states. -/
def Lockstep (S : σ → τ → Prop) (R : α → β → Prop) (m : Effect σ ε α) (m' : Effect τ ε β) : Prop :=
  ∀ s t, S s t → Alike R (m s).1 (m' t).1 ∧ S (m s).2 (m' t).2

variable {S : σ → τ → Prop} {R : α → β → Prop} {R' : γ → δ → Prop}

theorem Lockstep.pure {a : α} {b : β} (h : R a b) :
    Lockstep S R (Pure.pure a : Effect σ ε α) (Pure.pure b : Effect τ ε β) :=
  fun _ _ hs => ⟨.ok h, hs⟩

theorem Lockstep.fail (e : ε) :
    Lockstep S R (fail e : Effect σ ε α) (fail e : Effect τ ε β) :=
  fun _ _ hs => ⟨.error e, hs⟩

theorem Lockstep.bind {m : Effect σ ε α} {m' : Effect τ ε β} {k : α → Effect σ ε γ}
    {k' : β → Effect τ ε δ} (hm : Lockstep S R m m')
    (hk : ∀ a b, R a b → Lockstep S R' (k a) (k' b)) : Lockstep S R' (m >>= k) (m' >>= k') := by
  intro s t hs
  obtain ⟨hend, hs⟩ := hm s t hs
  rcases hms : m s with ⟨r, s'⟩
  rcases hmt : m' t with ⟨r', t'⟩
  rw [hms, hmt] at hend hs
  cases hend with
  | ok h =>
    rw [bind_ok hms, bind_ok hmt]
    exact hk _ _ h s' t' hs
  | error e =>
    rw [bind_error hms, bind_error hmt]
    exact ⟨.error e, hs⟩

theorem Lockstep.ite {p q : Prop} [Decidable p] [Decidable q] {m n : Effect σ ε α}
    {m' n' : Effect τ ε β} (h : p ↔ q) (hthen : p → Lockstep S R m m')
    (helse : ¬ p → Lockstep S R n n') :
    Lockstep S R (if p then m else n) (if q then m' else n') := by
  by_cases hp : p
  · rw [if_pos hp, if_pos (h.mp hp)]
    exact hthen hp
  · rw [if_neg hp, if_neg (mt h.mpr hp)]
    exact helse hp

theorem Lockstep.mono {T : α → β → Prop} {m : Effect σ ε α} {m' : Effect τ ε β}
    (h : Lockstep S R m m') (hT : ∀ a b, R a b → T a b) : Lockstep S T m m' := by
  intro s t hs
  obtain ⟨hend, hs⟩ := h s t hs
  refine ⟨?_, hs⟩
  revert hend
  generalize (m s).1 = r
  generalize (m' t).1 = r'
  rintro (hr | e)
  · exact .ok (hT _ _ hr)
  · exact .error e

theorem Lockstep.attempt {κ : Type} {catches : ε → Option κ} {m : Effect σ ε α}
    {m' : Effect τ ε β} (h : Lockstep S R m m') :
    Lockstep S (Alike R) (attempt catches m) (attempt catches m') := by
  intro s t hs
  obtain ⟨hend, hs⟩ := h s t hs
  rcases hms : m s with ⟨r, s'⟩
  rcases hmt : m' t with ⟨r', t'⟩
  rw [hms, hmt] at hend hs
  cases hend with
  | ok h =>
    simp only [Effect.attempt, hms, hmt]
    exact ⟨.ok (.ok h), hs⟩
  | error e =>
    cases hcatches : catches e with
    | none =>
      simp only [Effect.attempt, hms, hmt, hcatches]
      exact ⟨.error e, hs⟩
    | some d =>
      simp only [Effect.attempt, hms, hmt, hcatches]
      exact ⟨.ok (.error d), hs⟩

end Effect

end Coderd.Foundation
