import Mathlib.Data.List.Basic

namespace Coderd.Foundation

variable {σ α β κ τ : Type}

/-- Feed a list of inputs to a machine, keeping what each one returned. -/
def runWith (step : σ → α → β × σ) : σ → List α → List β × σ
  | s, [] => ([], s)
  | s, a :: as =>
    let (b, s') := step s a
    let (bs, final) := runWith step s' as
    (b :: bs, final)

theorem runWith_cons (step : σ → α → β × σ) (s : σ) (a : α) (as : List α) :
    runWith step s (a :: as) =
      ((step s a).1 :: (runWith step (step s a).2 as).1, (runWith step (step s a).2 as).2) := rfl

theorem runWith_snd (step : σ → α → β × σ) (s : σ) (inputs : List α) :
    (runWith step s inputs).2 = inputs.foldl (fun s a => (step s a).2) s := by
  induction inputs generalizing s with
  | nil => rfl
  | cons a as ih =>
    rw [runWith_cons, List.foldl_cons]
    exact ih (step s a).2

/-- What the machine returned for the inputs that carry the label `k`, in order. -/
def outputsOf [DecidableEq κ] (key : α → κ) (k : κ) : List α → List β → List β
  | a :: as, b :: bs => if key a = k then b :: outputsOf key k as bs else outputsOf key k as bs
  | _, _ => []

/-- Unwinding conditions for the label `k`: inputs of other labels leave the view of
`k` alone, and inputs of label `k` see nothing of the state but that view. -/
structure Unwinds (step : σ → α → β × σ) (key : α → κ) (view : σ → τ) (k : κ) : Prop where
  respects : ∀ s a, key a ≠ k → view (step s a).2 = view s
  consistent : ∀ s s' a, key a = k → view s = view s' →
    (step s a).1 = (step s' a).1 ∧ view (step s a).2 = view (step s' a).2

theorem Unwinds.run [DecidableEq κ] {step : σ → α → β × σ} {key : α → κ} {view : σ → τ} {k : κ}
    (hu : Unwinds step key view k) (inputs : List α) (s s' : σ) (hv : view s = view s') :
    outputsOf key k inputs (runWith step s inputs).1 =
        (runWith step s' (inputs.filter (fun a => key a = k))).1 ∧
      view (runWith step s inputs).2 =
        view (runWith step s' (inputs.filter (fun a => key a = k))).2 := by
  induction inputs generalizing s s' with
  | nil => exact ⟨rfl, hv⟩
  | cons a as ih =>
    rw [runWith_cons]
    by_cases hk : key a = k
    · obtain ⟨hout, hview⟩ := hu.consistent s s' a hk hv
      obtain ⟨ih1, ih2⟩ := ih _ _ hview
      simp only [outputsOf, hk, if_true, List.filter_cons, decide_true, runWith_cons]
      exact ⟨by rw [ih1, hout], ih2⟩
    · obtain ⟨ih1, ih2⟩ := ih (step s a).2 s' ((hu.respects s a hk).trans hv)
      simp only [outputsOf, hk, if_false, List.filter_cons, decide_false]
      exact ⟨ih1, ih2⟩

end Coderd.Foundation
