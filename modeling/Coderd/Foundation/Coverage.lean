import Mathlib.Order.Lattice
import Mathlib.Data.Set.Basic

namespace Coderd.Foundation

/-- A half-open stretch of time: from `start` on, and before `stop` if there is one. -/
structure Lifetime (τ : Type) where
  start : τ
  stop : Option τ
  deriving DecidableEq

namespace Lifetime

variable {τ : Type} [LinearOrder τ]

def Alive (l : Lifetime τ) (t : τ) : Prop := l.start ≤ t ∧ ∀ d ∈ l.stop, t < d

def ExpiredBy (l : Lifetime τ) (now : τ) : Prop := ∃ d ∈ l.stop, d ≤ now

/-- An open-ended lifetime was cut short, and another takes over no later than that. -/
def SucceededIn (l : Lifetime τ) (T : Set (Lifetime τ)) : Prop :=
  ∃ d s, l.stop = none ∧ ⟨l.start, some d⟩ ∈ T ∧ ⟨s, none⟩ ∈ T ∧ s ≤ d

theorem ExpiredBy.not_alive {l : Lifetime τ} {now t : τ} (h : l.ExpiredBy now) (ht : now ≤ t) :
    ¬ l.Alive t := by
  rintro ⟨-, hstop⟩
  obtain ⟨d, hd, hle⟩ := h
  exact absurd (hstop d hd) (not_lt.mpr (le_trans hle ht))

theorem SucceededIn.alive {l : Lifetime τ} {T : Set (Lifetime τ)} {t : τ} (h : l.SucceededIn T)
    (ht : l.Alive t) : ∃ l' ∈ T, l'.Alive t := by
  obtain ⟨d, s, -, hcut, hnext, hle⟩ := h
  by_cases hd : t < d
  · exact ⟨_, hcut, ht.1, by simpa using hd⟩
  · exact ⟨_, hnext, le_trans hle (not_lt.mp hd), by simp⟩

end Lifetime

open Lifetime

variable {τ : Type} [LinearOrder τ] {S T : Set (Lifetime τ)} {now later : τ}

/-- From `now` on there is no moment at which every lifetime of `S` is over or yet to start. -/
def CoversFrom (S : Set (Lifetime τ)) (now : τ) : Prop :=
  ∀ t, now ≤ t → ∃ l ∈ S, l.Alive t

theorem CoversFrom.delay (h : CoversFrom S now) (hle : now ≤ later) : CoversFrom S later :=
  fun t ht => h t (le_trans hle ht)

theorem CoversFrom.mono (h : CoversFrom S now) (hsub : S ⊆ T) : CoversFrom T now := by
  intro t ht
  obtain ⟨l, hl, halive⟩ := h t ht
  exact ⟨l, hsub hl, halive⟩

theorem CoversFrom.of_mem_open {s : τ} (hs : ⟨s, none⟩ ∈ S) (hle : s ≤ now) :
    CoversFrom S now :=
  fun _ ht => ⟨_, hs, le_trans hle ht, by simp⟩

/-- Coverage survives any change that only drops expired lifetimes and hands open-ended
ones over to a successor. -/
theorem CoversFrom.replace (h : CoversFrom S now)
    (hrep : ∀ l ∈ S, l ∈ T ∨ l.ExpiredBy now ∨ l.SucceededIn T) : CoversFrom T now := by
  intro t ht
  obtain ⟨l, hl, halive⟩ := h t ht
  obtain hkept | hexpired | hnext := hrep l hl
  · exact ⟨l, hkept, halive⟩
  · exact absurd halive (hexpired.not_alive ht)
  · exact hnext.alive halive

end Coderd.Foundation
