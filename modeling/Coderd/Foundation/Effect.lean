import Mathlib.Data.List.Basic

namespace Coderd.Foundation

/-- A computation over a state `σ` that may stop early with an `ε`. The state it stops
in is returned as well, since what was done before the stop stays done. -/
def Effect (σ ε α : Type) := σ → Except ε α × σ

namespace Effect

variable {σ ε α β : Type}

def pure (a : α) : Effect σ ε α := fun s => (.ok a, s)

def bind (m : Effect σ ε α) (k : α → Effect σ ε β) : Effect σ ε β := fun s =>
  match m s with
  | (.ok a, s') => k a s'
  | (.error e, s') => (.error e, s')

instance : Monad (Effect σ ε) where
  pure := pure
  bind := bind

def fail (e : ε) : Effect σ ε α := fun s => (.error e, s)

def ofExcept (r : Except ε α) : Effect σ ε α := fun s => (r, s)

def mapError {ε' : Type} (f : ε → ε') (m : Effect σ ε α) : Effect σ ε' α := fun s =>
  match m s with
  | (.ok a, s') => (.ok a, s')
  | (.error e, s') => (.error (f e), s')

@[simp] theorem mapError_state {ε' : Type} {f : ε → ε'} {m : Effect σ ε α} {s : σ} :
    (m.mapError f s).2 = (m s).2 := by
  unfold mapError
  rcases m s with ⟨e | a, s'⟩
  · rfl
  · rfl

/-- `m` with an entry left in a record. -/
def recorded {κ : Type} (entry : κ) (m : Effect σ ε α) : Effect (σ × List κ) ε α := fun s =>
  ((m s.1).1, (m s.1).2, s.2 ++ [entry])

theorem bind_ok {m : Effect σ ε α} {k : α → Effect σ ε β} {s s' : σ} {a : α}
    (h : m s = (.ok a, s')) : (m >>= k) s = k a s' := by
  change bind m k s = _
  simp only [bind, h]

theorem bind_error {m : Effect σ ε α} {k : α → Effect σ ε β} {s s' : σ} {e : ε}
    (h : m s = (.error e, s')) : (m >>= k) s = (.error e, s') := by
  change bind m k s = _
  simp only [bind, h]

theorem bind_eq_ok {m : Effect σ ε α} {k : α → Effect σ ε β} {s s' : σ} {b : β}
    (h : (m >>= k) s = (.ok b, s')) :
    ∃ a mid, m s = (.ok a, mid) ∧ k a mid = (.ok b, s') := by
  change bind m k s = _ at h
  rcases hm : m s with ⟨r, mid⟩
  cases r with
  | ok a => exact ⟨a, mid, rfl, by simpa only [bind, hm] using h⟩
  | error e => simp [bind, hm] at h

/-- Run `m` and hand its failure to the caller when `catches` recognises it. -/
def attempt {δ : Type} (catches : ε → Option δ) (m : Effect σ ε α) :
    Effect σ ε (Except δ α) := fun s =>
  match m s with
  | (.ok a, s') => (.ok (.ok a), s')
  | (.error e, s') =>
    match catches e with
    | some d => (.ok (.error d), s')
    | none => (.error e, s')

/-- Run `m` and hand its result, or its failure, to the caller. -/
def result {ε' : Type} (m : Effect σ ε α) : Effect σ ε' (Except ε α) := fun s =>
  (.ok (m s).1, (m s).2)

theorem result_ok {ε' : Type} {m : Effect σ ε α} {s s' : σ} {a : α} (h : m s = (.ok a, s')) :
    (result m : Effect σ ε' (Except ε α)) s = (.ok (.ok a), s') := by
  rw [result, h]

theorem result_error {ε' : Type} {m : Effect σ ε α} {s s' : σ} {e : ε}
    (h : m s = (.error e, s')) :
    (result m : Effect σ ε' (Except ε α)) s = (.ok (.error e), s') := by
  rw [result, h]

/-- A failure that comes from outside; what `m` does may have been done all the same. -/
structure Fault (ε : Type) where
  error : ε
  committed : Bool

def through (fault : Option (Fault ε)) (m : Effect σ ε α) : Effect σ ε α := fun s =>
  match fault with
  | none => m s
  | some f => (.error f.error, if f.committed then (m s).2 else s)

@[simp] theorem through_none (m : Effect σ ε α) : through none m = m := rfl

/-- Started in `P`, `m` ends in `Q` of its result, or stops early in `E`. -/
def Triple (P : σ → Prop) (m : Effect σ ε α) (Q : α → σ → Prop) (E : σ → Prop) : Prop :=
  ∀ s, P s → (∀ a s', m s = (.ok a, s') → Q a s') ∧ (∀ e s', m s = (.error e, s') → E s')

variable {P P' E E' : σ → Prop} {Q Q' : α → σ → Prop} {R : β → σ → Prop}

theorem Triple.pure {a : α} (h : ∀ s, P s → Q a s) :
    Triple P (Pure.pure a : Effect σ ε α) Q E := by
  intro s hs
  refine ⟨?_, ?_⟩
  · rintro b s' heq
    obtain ⟨hb, rfl⟩ := Prod.mk.inj heq
    cases hb
    exact h _ hs
  · rintro e s' heq
    exact absurd (Prod.mk.inj heq).1 (by simp)

theorem Triple.fail {e : ε} (h : ∀ s, P s → E s) : Triple P (fail e : Effect σ ε α) Q E := by
  intro s hs
  refine ⟨?_, ?_⟩
  · rintro b s' heq
    exact absurd (Prod.mk.inj heq).1 (by simp)
  · rintro e' s' heq
    obtain ⟨-, rfl⟩ := Prod.mk.inj heq
    exact h _ hs

theorem Triple.bind {m : Effect σ ε α} {k : α → Effect σ ε β} (hm : Triple P m Q E)
    (hk : ∀ a, Triple (Q a) (k a) R E) : Triple P (m >>= k) R E := by
  intro s hs
  obtain ⟨hok, herr⟩ := hm s hs
  change (∀ a s', Effect.bind m k s = _ → _) ∧ (∀ e s', Effect.bind m k s = _ → _)
  rcases hms : m s with ⟨r, mid⟩
  cases r with
  | ok a =>
    simp only [Effect.bind, hms]
    exact hk a mid (hok a mid hms)
  | error e =>
    simp only [Effect.bind, hms]
    refine ⟨?_, ?_⟩
    · rintro b s' heq
      exact absurd (Prod.mk.inj heq).1 (by simp)
    · rintro e' s' heq
      obtain ⟨-, rfl⟩ := Prod.mk.inj heq
      exact herr e mid hms

theorem Triple.mono {m : Effect σ ε α} (h : Triple P m Q E) (hP : ∀ s, P' s → P s)
    (hQ : ∀ a s, Q a s → Q' a s) (hE : ∀ s, E s → E' s) : Triple P' m Q' E' := by
  intro s hs
  obtain ⟨hok, herr⟩ := h s (hP s hs)
  exact ⟨fun a s' heq => hQ a s' (hok a s' heq), fun e s' heq => hE s' (herr e s' heq)⟩

theorem Triple.assume {m : Effect σ ε α} {p : Prop} (h : p → Triple P m Q E) :
    Triple (fun s => P s ∧ p) m Q E :=
  fun s hs => h hs.2 s hs.1

/-- A caught failure is a result, so it has to satisfy what both endings satisfy. -/
theorem Triple.attempt {δ : Type} {catches : ε → Option δ} {m : Effect σ ε α}
    {R : Except δ α → σ → Prop} (h : Triple P m (fun a => R (.ok a)) E)
    (hcaught : ∀ d s, E s → R (.error d) s) : Triple P (attempt catches m) R E := by
  intro s hs
  obtain ⟨hok, herr⟩ := h s hs
  rcases hms : m s with ⟨r, mid⟩
  cases r with
  | ok a =>
    simp only [Effect.attempt, hms, Prod.mk.injEq, Except.ok.injEq, reduceCtorEq, false_and]
    refine ⟨?_, by simp⟩
    rintro b s' ⟨rfl, rfl⟩
    exact hok a _ hms
  | error e =>
    have hmid := herr e mid hms
    rcases hc : catches e with _ | d
    · simp only [Effect.attempt, hms, hc]
      refine ⟨?_, ?_⟩
      · rintro b s' heq
        exact absurd (Prod.mk.inj heq).1 (by simp)
      · rintro e' s' heq
        obtain ⟨-, rfl⟩ := Prod.mk.inj heq
        exact hmid
    · simp only [Effect.attempt, hms, hc]
      refine ⟨?_, ?_⟩
      · rintro b s' heq
        obtain ⟨hb, rfl⟩ := Prod.mk.inj heq
        cases hb
        exact hcaught d _ hmid
      · rintro e' s' heq
        exact absurd (Prod.mk.inj heq).1 (by simp)

theorem Triple.result {ε' : Type} {m : Effect σ ε α} {R : Except ε α → σ → Prop} {E' : σ → Prop}
    (h : Triple P m Q E) (hdone : ∀ a s, Q a s → R (.ok a) s)
    (hfailed : ∀ e s, E s → R (.error e) s) :
    Triple P (result m : Effect σ ε' (Except ε α)) R E' := by
  intro s hs
  obtain ⟨hok, herr⟩ := h s hs
  refine ⟨?_, fun e s' heq => by cases (Prod.mk.inj heq).1⟩
  intro r s' heq
  obtain ⟨hr, rfl⟩ := Prod.mk.inj heq
  cases hr
  rcases hms : m s with ⟨r, mid⟩
  cases r with
  | ok a => exact hdone a mid (hok a mid hms)
  | error e => exact hfailed e mid (herr e mid hms)

theorem Triple.mapError {ε' : Type} {f : ε → ε'} {m : Effect σ ε α} (h : Triple P m Q E) :
    Triple P (m.mapError f) Q E := by
  intro s hs
  obtain ⟨hok, herr⟩ := h s hs
  rcases hms : m s with ⟨r, mid⟩
  cases r with
  | ok a =>
    simp only [Effect.mapError, hms]
    refine ⟨?_, fun e s' heq => by cases (Prod.mk.inj heq).1⟩
    rintro b s' heq
    obtain ⟨hb, rfl⟩ := Prod.mk.inj heq
    cases hb
    exact hok a _ hms
  | error e =>
    simp only [Effect.mapError, hms]
    refine ⟨fun b s' heq => (by cases (Prod.mk.inj heq).1), ?_⟩
    rintro e' s' heq
    obtain ⟨-, rfl⟩ := Prod.mk.inj heq
    exact herr e _ hms

/-- A failure from outside comes before `m` or after it. -/
theorem Triple.through {fault : Option (Fault ε)} {m : Effect σ ε α} (h : Triple P m Q E)
    (hbefore : ∀ s, P s → E s) (hafter : ∀ a s, Q a s → E s) : Triple P (through fault m) Q E := by
  cases fault with
  | none => exact h
  | some f =>
    intro s hs
    refine ⟨fun a s' heq => (by cases (Prod.mk.inj heq).1), ?_⟩
    intro e s' heq
    obtain ⟨-, rfl⟩ := Prod.mk.inj heq
    split
    · obtain ⟨hok, herr⟩ := h s hs
      rcases hms : m s with ⟨r, mid⟩
      cases r with
      | ok a => exact hafter a mid (hok a mid hms)
      | error e => exact herr e mid hms
    · exact hbefore s hs

/-- What each turn of a loop carries on from what was done to one more, the loop carries over
the whole list. -/
theorem Triple.foldlM {xs : List α} {f : β → α → Effect σ ε β} {I : List α → β → σ → Prop}
    (h : ∀ done x rest b, xs = done ++ x :: rest →
      Triple (I done b) (f b x) (I (done ++ [x])) E) (b : β) :
    Triple (I [] b) (xs.foldlM f b) (I xs) E := by
  have hfrom : ∀ rest done b, xs = done ++ rest →
      Triple (I done b) (rest.foldlM f b) (I xs) E := by
    intro rest
    induction rest with
    | nil =>
      rintro done b rfl
      rw [List.append_nil]
      exact Triple.pure fun s hs => hs
    | cons x rest ih =>
      intro done b hsplit
      rw [List.foldlM_cons]
      refine Triple.bind (h done x rest b hsplit) fun b' => ih (done ++ [x]) b' ?_
      rw [hsplit, List.append_assoc, List.singleton_append]
  exact hfrom xs [] b rfl

theorem Triple.of_ok {m : Effect σ ε α} (h : ∀ s, P s → ∃ a s', m s = (.ok a, s') ∧ Q a s') :
    Triple P m Q E := by
  intro s hs
  obtain ⟨a, s', hms, hQ⟩ := h s hs
  rw [hms]
  refine ⟨fun b s'' heq => ?_, fun e s'' heq => by cases (Prod.mk.inj heq).1⟩
  obtain ⟨hb, rfl⟩ := Prod.mk.inj heq
  cases hb
  exact hQ

/-- It is enough to start from each state by itself. -/
theorem Triple.of_each {m : Effect σ ε α} (h : ∀ s, P s → Triple (fun s' => s' = s) m Q E) :
    Triple P m Q E :=
  fun s hs => h s hs s rfl

/-- What holds of the state however `m` ends. -/
theorem Triple.of_final {m : Effect σ ε α} (h : ∀ s, P s → E (m s).2) :
    Triple P m (fun _ => E) E := by
  intro s hs
  have hfinal := h s hs
  refine ⟨fun a s' heq => ?_, fun e s' heq => ?_⟩
  · rwa [heq] at hfinal
  · rwa [heq] at hfinal

/-- What cannot stop early ends with a result. -/
theorem Triple.exists_ok {m : Effect σ ε α} (h : Triple P m Q fun _ => False) {s : σ} (hs : P s) :
    ∃ a s', m s = (.ok a, s') ∧ Q a s' := by
  obtain ⟨hok, herr⟩ := h s hs
  rcases hms : m s with ⟨r, s'⟩
  cases r with
  | ok a => exact ⟨a, s', rfl, hok a s' hms⟩
  | error e => exact (herr e s' hms).elim

/-- Whichever way `m` ends, the state it ends in satisfies `E`. -/
theorem Triple.final {m : Effect σ ε α} (h : Triple P m (fun _ => E) E) {s : σ} (hs : P s) :
    E (m s).2 := by
  obtain ⟨hok, herr⟩ := h s hs
  rcases hms : m s with ⟨r, s'⟩
  cases r with
  | ok a => exact hok a s' hms
  | error e => exact herr e s' hms

end Effect

end Coderd.Foundation
