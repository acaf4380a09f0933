import Mathlib.Logic.Function.Basic
import Mathlib.Data.List.Induction
import Coderd.Foundation.Transition

namespace Coderd.Foundation.Lease

/-! ## Keys that one token holds at a time

Whoever acquires a key takes it over from the token that held it. A token can give a key back,
which does nothing once another one has taken it over. -/

inductive Event (κ τ : Type) where
  | acquire (key : κ) (token : τ)
  | release (key : κ) (token : τ)
  | revoke (key : κ)
  deriving DecidableEq

variable {κ τ : Type} [DecidableEq κ] [DecidableEq τ]

def apply (holder : κ → Option τ) : Event κ τ → κ → Option τ
  | .acquire key token => Function.update holder key (some token)
  | .release key token =>
    if holder key = some token then Function.update holder key none else holder
  | .revoke key => Function.update holder key none

/-- Who holds each key after the events, if nobody held any before. -/
def holder (events : List (Event κ τ)) : κ → Option τ := events.foldl apply fun _ => none

namespace Event

/-- The key goes to somebody else or to nobody, whoever holds it. -/
def displaces (key : κ) : Event κ τ → Bool
  | acquire k _ | revoke k => k = key
  | release _ _ => false

/-- `token` no longer holds the key because of what was done before. -/
def ends (key : κ) (token : τ) : Event κ τ → Bool
  | release k t => k = key && t = token
  | event => event.displaces key

end Event

theorem apply_release (h : κ → Option τ) (key : κ) (token : τ) (k : κ) :
    apply h (.release key token) k = if k = key ∧ h k = some token then none else h k := by
  by_cases hheld : h key = some token
  · rw [apply, if_pos hheld]
    by_cases hk : k = key
    · subst hk
      rw [Function.update_self, if_pos ⟨rfl, hheld⟩]
    · rw [Function.update_of_ne hk, if_neg fun hboth => hk hboth.1]
  · rw [apply, if_neg hheld, if_neg]
    rintro ⟨rfl, hk⟩
    exact hheld hk

/-- A token holds a key by having just acquired it, or by having held it through an event that
does not end that. -/
theorem apply_eq_some_iff {h : κ → Option τ} {event : Event κ τ} {key : κ} {token : τ} :
    apply h event key = some token ↔
      event = .acquire key token ∨ (h key = some token ∧ event.ends key token = false) := by
  cases event with
  | acquire k t =>
    by_cases hk : key = k
    · subst hk
      simp [apply, Event.ends, Event.displaces]
    · simp [apply, Function.update_of_ne hk, Event.ends, Event.displaces, Ne.symm hk]
  | release k t =>
    rw [apply_release]
    by_cases hboth : key = k ∧ h key = some t
    · obtain ⟨rfl, hheld⟩ := hboth
      rw [if_pos ⟨rfl, hheld⟩, hheld]
      simp [Event.ends]
    · rw [if_neg hboth]
      constructor
      · intro hheld
        refine .inr ⟨hheld, ?_⟩
        simp only [Event.ends, Bool.and_eq_false_iff, decide_eq_false_iff_not]
        by_cases hk : k = key
        · right
          rintro rfl
          exact hboth ⟨hk.symm, hheld⟩
        · exact .inl hk
      · rintro (hacquire | ⟨hheld, -⟩)
        · cases hacquire
        · exact hheld
  | revoke k =>
    by_cases hk : key = k
    · subst hk
      simp [apply, Event.ends, Event.displaces]
    · simp [apply, Function.update_of_ne hk, Event.ends, Event.displaces, Ne.symm hk]

/-- Over a list of events: the token acquired the key and nothing ended that, or it held the
key before and nothing ended that. -/
theorem foldl_apply_eq_some_iff {h : κ → Option τ} {events : List (Event κ τ)} {key : κ}
    {token : τ} : events.foldl apply h key = some token ↔
      (∃ before after, events = before ++ .acquire key token :: after ∧
        ∀ event ∈ after, event.ends key token = false) ∨
      (h key = some token ∧ ∀ event ∈ events, event.ends key token = false) := by
  induction events generalizing h with
  | nil => simp
  | cons first events ih =>
    rw [List.foldl_cons, ih, apply_eq_some_iff]
    constructor
    · rintro (⟨before, after, rfl, hafter⟩ | ⟨rfl | ⟨hheld, hfirst⟩, hrest⟩)
      · exact .inl ⟨first :: before, after, rfl, hafter⟩
      · exact .inl ⟨[], events, rfl, hrest⟩
      · exact .inr ⟨hheld, List.forall_mem_cons.mpr ⟨hfirst, hrest⟩⟩
    · rintro (⟨before, after, hsplit, hafter⟩ | ⟨hheld, hall⟩)
      · cases before with
        | nil =>
          obtain ⟨rfl, rfl⟩ := List.cons.inj hsplit
          exact .inr ⟨.inl rfl, hafter⟩
        | cons first' before =>
          obtain ⟨rfl, rfl⟩ := List.cons.inj hsplit
          exact .inl ⟨before, after, rfl, hafter⟩
      · obtain ⟨hfirst, hrest⟩ := List.forall_mem_cons.mp hall
        exact .inr ⟨.inr ⟨hheld, hfirst⟩, hrest⟩

/-- A key is held by the token that acquired it last, if nothing has ended that. -/
theorem holder_eq_some_iff {events : List (Event κ τ)} {key : κ} {token : τ} :
    holder events key = some token ↔
      ∃ before after, events = before ++ .acquire key token :: after ∧
        ∀ event ∈ after, event.ends key token = false := by
  rw [holder, foldl_apply_eq_some_iff]
  simp

/-! ## Systems that keep such a table -/

variable {σ α : Type}

/-- What a run of a system does to its keys, when `events` is what each step does. -/
def trace (step : σ → α → σ) (events : σ → α → List (Event κ τ)) : σ → List α → List (Event κ τ)
  | _, [] => []
  | s, a :: as => events s a ++ trace step events (step s a) as

omit [DecidableEq κ] [DecidableEq τ] in
theorem trace_concat (step : σ → α → σ) (events : σ → α → List (Event κ τ)) (s : σ)
    (as : List α) (a : α) : trace step events s (as ++ [a]) =
      trace step events s as ++ events (as.foldl step s) a := by
  induction as generalizing s with
  | nil => simp [trace]
  | cons first as ih => simp only [List.cons_append, trace, List.foldl_cons, ih, List.append_assoc]

omit [DecidableEq κ] [DecidableEq τ] in
/-- Every event of a trace is one of some step of the run. -/
theorem exists_of_mem_trace {step : σ → α → σ} {events : σ → α → List (Event κ τ)} {s : σ}
    {as : List α} {event : Event κ τ} (h : event ∈ trace step events s as) :
    ∃ before a after, as = before ++ a :: after ∧ event ∈ events (before.foldl step s) a := by
  induction as generalizing s with
  | nil => cases h
  | cons a as ih =>
    obtain hnow | hlater := List.mem_append.mp h
    · exact ⟨[], a, as, rfl, hnow⟩
    · obtain ⟨before, a', after, rfl, hevent⟩ := ih hlater
      exact ⟨a :: before, a', after, rfl, hevent⟩

/-- If each step changes the holders as its events say, a run changes them as its trace says. -/
theorem view_foldl {step : σ → α → σ} {events : σ → α → List (Event κ τ)}
    {view : σ → κ → Option τ}
    (hstep : ∀ s a, view (step s a) = (events s a).foldl apply (view s)) (s : σ) (as : List α) :
    view (as.foldl step s) = (trace step events s as).foldl apply (view s) := by
  induction as generalizing s with
  | nil => rfl
  | cons a as ih => rw [List.foldl_cons, ih, hstep, trace, List.foldl_append]

/-- A key that was not held is held by `token` because some step acquired it, and none has ended
that since. -/
theorem exists_acquiring {step : σ → α → σ} {events : σ → α → List (Event κ τ)}
    {view : σ → κ → Option τ}
    (hstep : ∀ s a, view (step s a) = (events s a).foldl apply (view s)) {s : σ} {as : List α}
    {key : κ} {token : τ} (hstart : view s key ≠ some token)
    (h : view (as.foldl step s) key = some token) :
    ∃ before a after, as = before ++ a :: after ∧
      .acquire key token ∈ events (before.foldl step s) a ∧
      Along step (fun s b => ∀ event ∈ events s b, event.ends key token = false)
        (step (before.foldl step s) a) after := by
  induction as using List.reverseRecOn with
  | nil => exact absurd h hstart
  | append_singleton as last ih =>
    rw [List.foldl_append, List.foldl_cons, List.foldl_nil, hstep, foldl_apply_eq_some_iff] at h
    obtain ⟨first, rest, hevents, -⟩ | ⟨hheld, hkept⟩ := h
    · refine ⟨as, last, [], rfl, ?_, trivial⟩
      rw [hevents]
      simp
    · obtain ⟨before, a, after, rfl, hacquire, hafter⟩ := ih hheld
      refine ⟨before, a, after ++ [last], by simp, hacquire, ?_⟩
      rw [List.foldl_append, List.foldl_cons] at hkept
      exact (along_append _ _ _).mpr ⟨hafter, hkept, trivial⟩

end Coderd.Foundation.Lease
