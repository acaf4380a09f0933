import Mathlib.Data.List.Basic

namespace Coderd.Foundation

variable {σ α : Type}

/-- Every input of the run meets `ok` in the state it arrives in. -/
def Along (step : σ → α → σ) (ok : σ → α → Prop) : σ → List α → Prop
  | _, [] => True
  | s, a :: as => ok s a ∧ Along step ok (step s a) as

instance Along.decidable (step : σ → α → σ) (ok : σ → α → Prop) [∀ s a, Decidable (ok s a)] :
    ∀ (s : σ) (inputs : List α), Decidable (Along step ok s inputs)
  | _, [] => inferInstanceAs (Decidable True)
  | s, a :: as =>
    have := Along.decidable step ok (step s a) as
    inferInstanceAs (Decidable (ok s a ∧ Along step ok (step s a) as))

theorem along_append {step : σ → α → σ} {ok : σ → α → Prop} (s : σ) (as bs : List α) :
    Along step ok s (as ++ bs) ↔ Along step ok s as ∧ Along step ok (as.foldl step s) bs := by
  induction as generalizing s with
  | nil => simp [Along]
  | cons a as ih =>
    simp only [List.cons_append, Along, List.foldl_cons, ih, and_assoc]

theorem along_iff {step : σ → α → σ} {ok : σ → α → Prop} (s : σ) (inputs : List α) :
    Along step ok s inputs ↔
      ∀ p a rest, inputs = p ++ a :: rest → ok (p.foldl step s) a := by
  constructor
  · intro h p a rest hsplit
    rw [hsplit, along_append] at h
    exact h.2.1
  · intro h
    induction inputs generalizing s with
    | nil => trivial
    | cons a as ih =>
      refine ⟨h [] a as rfl, ih (step s a) fun p b rest hsplit => ?_⟩
      exact h (a :: p) b rest (by rw [hsplit]; rfl)

theorem Along.imp {step : σ → α → σ} {ok ok' : σ → α → Prop} {s : σ} {inputs : List α}
    (hrun : Along step ok s inputs) (h : ∀ s a, ok s a → ok' s a) : Along step ok' s inputs := by
  induction inputs generalizing s with
  | nil => trivial
  | cons a as ih => exact ⟨h s a hrun.1, ih hrun.2⟩

/-- The induction rule for runs, with the inputs taken so far as a second argument of the
invariant. -/
theorem Along.history {step : σ → α → σ} {ok : σ → α → Prop} {I : List α → σ → Prop}
    (hstep : ∀ p s a, I p s → ok s a → I (p ++ [a]) (step s a))
    {p : List α} {s : σ} (h : I p s) {inputs : List α} (hrun : Along step ok s inputs) :
    I (p ++ inputs) (inputs.foldl step s) := by
  induction inputs generalizing p s with
  | nil => simpa using h
  | cons a as ih =>
    obtain ⟨hok, hrest⟩ := hrun
    have hnext := ih (hstep p s a h hok) hrest
    simpa using hnext

/-- What holds at the start and is kept by every step that meets `ok` holds after the run. -/
theorem Along.invariant {step : σ → α → σ} {ok : σ → α → Prop} {I : σ → Prop}
    (hstep : ∀ s a, I s → ok s a → I (step s a)) {s : σ} (h : I s) {inputs : List α}
    (hrun : Along step ok s inputs) : I (inputs.foldl step s) :=
  Along.history (I := fun _ s => I s) (p := []) (fun _ s a => hstep s a) h hrun

/-- Two conditions that say the same wherever the invariant holds say the same of runs. -/
theorem along_congr {step : σ → α → σ} {ok ok' : σ → α → Prop} {I : σ → Prop}
    (hstep : ∀ s a, I s → I (step s a)) (hiff : ∀ s a, I s → (ok s a ↔ ok' s a)) {s : σ} (h : I s)
    (inputs : List α) : Along step ok s inputs ↔ Along step ok' s inputs := by
  induction inputs generalizing s with
  | nil => exact Iff.rfl
  | cons a as ih => exact and_congr (hiff s a h) (ih (hstep s a h))

/-- Where `ok` is exactly what keeps the invariant, the runs that meet it are exactly those that
have the invariant in every state. -/
theorem along_iff_invariant {step : σ → α → σ} {ok : σ → α → Prop} {I : σ → Prop}
    (hstep : ∀ s a, I s → (I (step s a) ↔ ok s a)) {s : σ} (h : I s) (inputs : List α) :
    Along step ok s inputs ↔ ∀ first, first <+: inputs → I (first.foldl step s) := by
  induction inputs generalizing s with
  | nil =>
    refine ⟨fun _ first hfirst => ?_, fun _ => trivial⟩
    rw [List.prefix_nil.mp hfirst]
    exact h
  | cons a as ih =>
    constructor
    · rintro ⟨hok, hrest⟩ first hfirst
      cases first with
      | nil => exact h
      | cons a' first =>
        obtain ⟨rfl, hrest'⟩ := List.cons_prefix_cons.mp hfirst
        exact (ih ((hstep s a' h).mpr hok)).mp hrest first hrest'
    · intro hall
      have hone := hall [a] (List.cons_prefix_cons.mpr ⟨rfl, List.nil_prefix⟩)
      refine ⟨(hstep s a h).mp hone, (ih hone).mpr fun first hfirst => ?_⟩
      exact hall (a :: first) (List.cons_prefix_cons.mpr ⟨rfl, hfirst⟩)

end Coderd.Foundation
