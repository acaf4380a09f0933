import Coderd.Foundation.Calls

namespace Coderd.Foundation

variable {κ : Type} {ρ : κ → Type} {α β γ σ χ ο ε : Type}

/-- What every call of a service has to meet in the state in which it is made. The states go up
`Later` as long as the calls meet it, so that what a task has seen tells it what it may ask for
later, whatever the other tasks do. -/
structure Guard (svc : Service κ ρ α σ χ ο ε) where
  ok : κ → σ → Prop
  Later : σ → σ → Prop
  refl : ∀ s, Later s s
  trans : ∀ {a b c : σ}, Later a b → Later b c → Later a c
  exec : ∀ {op : κ} {s : σ} {choice : χ} {r : ρ op} {s' : σ}, ok op s →
    svc.exec op s choice = some (r, s') → Later s s'
  outside : ∀ s event, Later s (svc.outside s event)

namespace Guard

variable {svc : Service κ ρ α σ χ ο ε}

/-- A program that has last seen a state meets the guard at each of its calls, and ends in `Q`. -/
def Meets (guard : Guard svc) (Q : σ → β → Prop) : Calls κ ρ β → σ → Prop
  | .done b, seen => Q seen b
  | .call op next, seen => ∀ s, guard.Later seen s → guard.ok op s ∧
      ∀ choice r s', svc.exec op s choice = some (r, s') → guard.Meets Q (next r) s'

variable {guard : Guard svc}

theorem Meets.bind {Q : σ → γ → Prop} {p : Calls κ ρ β} {k : β → Calls κ ρ γ} {seen : σ}
    (h : guard.Meets (fun seen' b => guard.Meets Q (k b) seen') p seen) :
    guard.Meets Q (p.bind k) seen := by
  induction p generalizing seen with
  | done b => exact h
  | call op next ih =>
    intro s hseen
    obtain ⟨hok, hrest⟩ := h s hseen
    exact ⟨hok, fun choice r s' hexec => ih r (hrest choice r s' hexec)⟩

theorem Meets.mono {Q Q' : σ → β → Prop} {p : Calls κ ρ β} {seen : σ} (h : guard.Meets Q p seen)
    (himp : ∀ seen' b, Q seen' b → Q' seen' b) : guard.Meets Q' p seen := by
  induction p generalizing seen with
  | done b => exact himp seen b h
  | call op next ih =>
    intro s hseen
    obtain ⟨hok, hrest⟩ := h s hseen
    exact ⟨hok, fun choice r s' hexec => ih r (hrest choice r s' hexec)⟩

theorem Meets.bindOk {δ : Type} {Q : σ → Except δ γ → Prop} {p : Calls κ ρ (Except δ β)}
    {k : β → Calls κ ρ (Except δ γ)} {seen : σ}
    (h : guard.Meets (fun seen' r => (∀ e, r = .error e → Q seen' (.error e)) ∧
      ∀ b, r = .ok b → guard.Meets Q (k b) seen') p seen) :
    guard.Meets Q (p.bindOk k) seen := by
  refine Meets.bind (h.mono fun seen' r hr => ?_)
  cases r with
  | error e => exact hr.1 e rfl
  | ok b => exact hr.2 b rfl

/-- One call that is always in order. -/
theorem Meets.call {Q : σ → β → Prop} {op : κ} {next : ρ op → Calls κ ρ β} {seen : σ}
    (hok : ∀ s, guard.Later seen s → guard.ok op s)
    (hnext : ∀ s choice r s', guard.Later seen s → svc.exec op s choice = some (r, s') →
      guard.Meets Q (next r) s') : guard.Meets Q (.call op next) seen :=
  fun s hseen => ⟨hok s hseen, fun choice r s' hexec => hnext s choice r s' hseen hexec⟩

/-- Every task of the pool goes on meeting the guard, from what it has seen. -/
def Safe (guard : Guard svc) (w : Pool σ (Calls κ ρ α)) : Prop :=
  ∀ t ∈ w.tasks, ∃ seen, guard.Later seen w.shared ∧ guard.Meets (fun _ _ => True) t seen

variable {w : Pool σ (Calls κ ρ α)}

/-- The call that a task makes next meets the guard. -/
theorem Safe.ok (h : guard.Safe w) {i : Nat} {op : κ} {next : ρ op → Calls κ ρ α}
    (htask : w.tasks[i]? = some (.call op next)) : guard.ok op w.shared := by
  obtain ⟨seen, hseen, hmeets⟩ := h _ (List.mem_of_getElem? htask)
  exact (hmeets w.shared hseen).1

theorem Safe.later (h : guard.Safe w) {s : σ} (hlater : guard.Later w.shared s) :
    guard.Safe { w with shared := s } := by
  intro t ht
  obtain ⟨seen, hseen, hmeets⟩ := h t ht
  exact ⟨seen, guard.trans hseen hlater, hmeets⟩

/-- Requests that meet the guard from the start meet it in every step. -/
theorem Safe.step (henter : ∀ op s, guard.Meets (fun _ _ => True) (svc.enter op) s)
    (h : guard.Safe w) (move : Move ο χ ε) : guard.Safe (svc.program.step w move) := by
  have hsteps := svc.program.steps_step w move
  generalize svc.program.step w move = w' at hsteps ⊢
  cases hsteps with
  | idle => exact h
  | spawn op =>
    intro t ht
    cases List.mem_append.mp ht with
    | inl ht => exact h t ht
    | inr ht =>
      rw [List.mem_singleton.mp ht]
      exact ⟨w.shared, guard.refl _, henter op w.shared⟩
  | @run i choice t t' s htask hadvance =>
    cases t with
    | done a => cases hadvance
    | call op next =>
      obtain ⟨⟨r, s'⟩, hexec, heq⟩ := Option.map_eq_some_iff.mp hadvance
      cases heq
      have hlater := guard.exec (h.ok htask) hexec
      intro u hu
      cases List.mem_or_eq_of_mem_set hu with
      | inl hu => exact h.later hlater u hu
      | inr hu =>
        obtain ⟨seen, hseen, hmeets⟩ := h _ (List.mem_of_getElem? htask)
        rw [hu]
        exact ⟨s', guard.refl _, (hmeets w.shared hseen).2 choice r s' hexec⟩
  | outside event => exact h.later (guard.outside w.shared event)

theorem Safe.start (s : σ) : guard.Safe { shared := s, tasks := [] } := by
  intro t ht
  cases ht

/-- Where the guard is met, the regime allows exactly the steps between states that are related by
`P`. -/
structure Exact (guard : Guard svc) (regime : Regime κ σ χ ο ε) (P : σ → σ → Prop) : Prop where
  refl : ∀ s, P s s
  call : ∀ {op : κ} {s : σ} {choice : χ} {r : ρ op} {s' : σ}, guard.ok op s →
    svc.exec op s choice = some (r, s') → (regime.call op s choice ↔ P s s')
  waits : ∀ {op : κ} {s : σ} {choice : χ}, svc.exec op s choice = none → regime.call op s choice
  spawn : ∀ s op, regime.spawn s op
  outside : ∀ s event, regime.outside s event ↔ P s (svc.outside s event)

variable {regime : Regime κ σ χ ο ε} {P : σ → σ → Prop}

theorem Exact.step_iff (hexact : guard.Exact regime P) (h : guard.Safe w) (move : Move ο χ ε) :
    regime.Allows w move ↔ P w.shared (svc.program.step w move).shared := by
  cases move with
  | spawn op => exact ⟨fun _ => hexact.refl w.shared, fun _ => hexact.spawn w.shared op⟩
  | outside event => exact hexact.outside w.shared event
  | run i choice =>
    obtain ⟨op, next, htask⟩ | hidle := Service.call_or_idle w.tasks i
    · rw [Regime.allows_run_iff htask]
      cases hexec : svc.exec op w.shared choice with
      | none =>
        rw [Service.step_waits htask hexec]
        exact ⟨fun _ => hexact.refl w.shared, fun _ => hexact.waits hexec⟩
      | some result =>
        rw [Service.step_run htask hexec]
        exact hexact.call (h.ok htask) hexec
    · rw [svc.step_idle hidle]
      exact ⟨fun _ => hexact.refl w.shared, fun _ => regime.allows_idle hidle⟩

/-- The runs that the regime allows are exactly those of such steps. -/
theorem Exact.along_iff (hexact : guard.Exact regime P)
    (henter : ∀ op s, guard.Meets (fun _ _ => True) (svc.enter op) s) (s : σ)
    (moves : List (Move ο χ ε)) :
    Along svc.program.step regime.Allows { shared := s, tasks := [] } moves ↔
      Along svc.program.step (fun w move => P w.shared (svc.program.step w move).shared)
        { shared := s, tasks := [] } moves :=
  along_congr (I := guard.Safe) (fun _ move h => h.step henter move)
    (fun _ move h => hexact.step_iff h move) (Safe.start s) moves

end Guard

end Coderd.Foundation
