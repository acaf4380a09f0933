import Mathlib.Data.List.Induction
import Coderd.Foundation.Transition

namespace Coderd.Foundation

/-! ## Tasks on a shared state -/

/-- A shared state and the tasks that work on it, in the order in which they were started. -/
structure Pool (σ τ : Type) where
  shared : σ
  tasks : List τ

/-- The code of the tasks, cut at the points where another one can get in. `advance` is the next
piece of a task, which may depend on a choice that the code does not make; it is `none` when the
task waits for a lock or has returned. -/
structure Program (σ τ ο χ ε : Type) where
  enter : ο → τ
  advance : σ → τ → χ → Option (σ × τ)
  outside : σ → ε → σ

/-- A task is started, one makes its next step, or the shared state is changed from outside. -/
inductive Move (ο χ ε : Type) where
  | spawn (op : ο)
  | run (task : Nat) (choice : χ)
  | outside (event : ε)
  deriving DecidableEq

variable {σ τ ο χ ε : Type}

namespace Program

def step (p : Program σ τ ο χ ε) (w : Pool σ τ) : Move ο χ ε → Pool σ τ
  | .spawn op => { w with tasks := w.tasks ++ [p.enter op] }
  | .run i choice =>
    match w.tasks[i]? with
    | none => w
    | some t =>
      match p.advance w.shared t choice with
      | none => w
      | some (s, t') => { shared := s, tasks := w.tasks.set i t' }
  | .outside event => { w with shared := p.outside w.shared event }

def run (p : Program σ τ ο χ ε) (w : Pool σ τ) (moves : List (Move ο χ ε)) : Pool σ τ :=
  moves.foldl p.step w

theorem run_append (p : Program σ τ ο χ ε) (w : Pool σ τ) (moves moves' : List (Move ο χ ε)) :
    p.run w (moves ++ moves') = p.run (p.run w moves) moves' :=
  List.foldl_append

theorem run_concat (p : Program σ τ ο χ ε) (w : Pool σ τ) (moves : List (Move ο χ ε))
    (move : Move ο χ ε) : p.run w (moves ++ [move]) = p.step (p.run w moves) move :=
  List.foldl_append

/-- All that one move can do. -/
inductive Steps (p : Program σ τ ο χ ε) (w : Pool σ τ) : Move ο χ ε → Pool σ τ → Prop where
  | idle (move : Move ο χ ε) : Steps p w move w
  | spawn (op : ο) : Steps p w (.spawn op) { w with tasks := w.tasks ++ [p.enter op] }
  | run {i : Nat} {choice : χ} {t t' : τ} {s : σ} (htask : w.tasks[i]? = some t)
      (hadvance : p.advance w.shared t choice = some (s, t')) :
    Steps p w (.run i choice) { shared := s, tasks := w.tasks.set i t' }
  | outside (event : ε) :
    Steps p w (.outside event) { w with shared := p.outside w.shared event }

theorem steps_step (p : Program σ τ ο χ ε) (w : Pool σ τ) (move : Move ο χ ε) :
    p.Steps w move (p.step w move) := by
  cases move with
  | spawn op => exact .spawn op
  | outside event => exact .outside event
  | run i choice =>
    cases htask : w.tasks[i]? with
    | none =>
      simp only [step, htask]
      exact .idle _
    | some t =>
      cases hadvance : p.advance w.shared t choice with
      | none =>
        simp only [step, htask, hadvance]
        exact .idle _
      | some next =>
        simp only [step, htask, hadvance]
        exact .run htask hadvance

theorem length_le_run (p : Program σ τ ο χ ε) (w : Pool σ τ) (moves : List (Move ο χ ε)) :
    w.tasks.length ≤ (p.run w moves).tasks.length := by
  refine List.foldlRecOn (motive := fun w' : Pool σ τ => w.tasks.length ≤ w'.tasks.length)
    moves _ (Nat.le_refl _) fun w' hle move _ => ?_
  have hsteps := p.steps_step w' move
  generalize p.step w' move = w'' at hsteps ⊢
  cases hsteps with
  | idle => exact hle
  | outside event => exact hle
  | spawn op => exact Nat.le_trans hle (by simp)
  | run htask hadvance => exact Nat.le_trans hle (by simp)

/-- In the run, task `k` makes a step that gives it the property `Q`. -/
def Enters (p : Program σ τ ο χ ε) (w : Pool σ τ) (moves : List (Move ο χ ε)) (k : Nat)
    (Q : τ → Prop) : Prop :=
  ∃ before choice after t s t', moves = before ++ .run k choice :: after ∧
    (p.run w before).tasks[k]? = some t ∧ ¬ Q t ∧
    p.advance (p.run w before).shared t choice = some (s, t') ∧ Q t'

theorem Enters.concat {p : Program σ τ ο χ ε} {w : Pool σ τ} {moves : List (Move ο χ ε)} {k : Nat}
    {Q : τ → Prop} (h : p.Enters w moves k Q) (move : Move ο χ ε) :
    p.Enters w (moves ++ [move]) k Q := by
  obtain ⟨before, choice, after, t, s, t', rfl, hrest⟩ := h
  exact ⟨before, choice, after ++ [move], t, s, t', by simp, hrest⟩

/-- What no task is started with, a task has from a step of its own. -/
theorem enters_of_task (p : Program σ τ ο χ ε) {Q : τ → Prop} (henter : ∀ op, ¬ Q (p.enter op))
    {s : σ} {moves : List (Move ο χ ε)} {k : Nat} {t : τ}
    (ht : (p.run { shared := s, tasks := [] } moves).tasks[k]? = some t) (hQ : Q t) :
    p.Enters { shared := s, tasks := [] } moves k Q := by
  induction moves using List.reverseRecOn generalizing t with
  | nil => simp [run] at ht
  | append_singleton moves move ih =>
    rw [run_concat] at ht
    generalize hw : p.step (p.run { shared := s, tasks := [] } moves) move = w' at ht
    have hsteps := p.steps_step (p.run { shared := s, tasks := [] } moves) move
    rw [hw] at hsteps
    cases hsteps with
    | idle => exact (ih ht hQ).concat move
    | outside event => exact (ih ht hQ).concat _
    | spawn op =>
      by_cases hk : k < (p.run { shared := s, tasks := [] } moves).tasks.length
      · rw [List.getElem?_append_left hk] at ht
        exact (ih ht hQ).concat _
      · rw [List.getElem?_append_right (Nat.le_of_not_lt hk)] at ht
        obtain rfl := List.mem_singleton.mp (List.mem_of_getElem? ht)
        exact absurd hQ (henter op)
    | run htask hadvance =>
      rename_i i choice t₀ t' s'
      by_cases hk : i = k
      · subst hk
        obtain ⟨hlt, -⟩ := List.getElem?_eq_some_iff.mp htask
        rw [List.getElem?_set_self hlt] at ht
        cases ht
        by_cases hQ₀ : Q t₀
        · exact (ih htask hQ₀).concat _
        · exact ⟨moves, choice, [], t₀, s', t, rfl, htask, hQ₀, hadvance, hQ⟩
      · rw [List.getElem?_set_ne hk] at ht
        exact (ih ht hQ).concat _

/-! ## A task on its own -/

/-- The steps of a task with nothing in between, which meet with the choices in their order. -/
def alone (p : Program σ τ ο χ ε) : List χ → σ → τ → Option (σ × τ)
  | [], s, t => some (s, t)
  | choice :: choices, s, t =>
    match p.advance s t choice with
    | some (s, t) => p.alone choices s t
    | none => none

variable {p : Program σ τ ο χ ε} {s s' : σ} {t t' : τ} {choice : χ} {choices : List χ}
  {w : Pool σ τ}

theorem alone_cons (h : p.advance s t choice = some (s', t')) :
    p.alone (choice :: choices) s t = p.alone choices s' t' := by
  rw [alone, h]

/-- As on its own a task runs as long as no other one moves. -/
theorem run_alone {k : Nat} (htask : w.tasks[k]? = some t)
    (h : p.alone choices w.shared t = some (s', t')) :
    p.run w (choices.map (.run k)) = { shared := s', tasks := w.tasks.set k t' } := by
  induction choices generalizing w t with
  | nil =>
    cases h
    obtain ⟨hlt, hget⟩ := List.getElem?_eq_some_iff.mp htask
    rw [← hget, List.set_getElem_self]
    rfl
  | cons choice choices ih =>
    rw [alone] at h
    split at h
    next s₁ t₁ hadvance =>
      have hstep : p.step w (.run k choice) = { shared := s₁, tasks := w.tasks.set k t₁ } := by
        simp only [step, htask, hadvance]
      obtain ⟨hlt, -⟩ := List.getElem?_eq_some_iff.mp htask
      have hget : (w.tasks.set k t₁)[k]? = some t₁ := List.getElem?_set_self hlt
      have hrest := @ih t₁ { shared := s₁, tasks := w.tasks.set k t₁ } hget h
      rw [List.map_cons, run, List.foldl_cons, hstep]
      rw [List.set_set] at hrest
      exact hrest
    · cases h

theorem run_spawn_alone {op : ο} (h : p.alone choices w.shared (p.enter op) = some (s', t')) :
    p.run w (.spawn op :: choices.map (.run w.tasks.length)) =
      { shared := s', tasks := w.tasks ++ [t'] } := by
  let started : Pool σ τ := { w with tasks := w.tasks ++ [p.enter op] }
  have htask : started.tasks[w.tasks.length]? = some (p.enter op) := List.getElem?_concat_length
  have hrun := run_alone htask h
  have hset : started.tasks.set w.tasks.length t' = w.tasks ++ [t'] := by
    simp [started]
  rw [hset] at hrun
  exact hrun

end Program

/-! ## Tasks that do not interfere -/

namespace Pool

variable {w : Pool σ τ} {i : Nat} {s : σ} {t t' : τ}

/-- The tasks but one. -/
def others (w : Pool σ τ) (i : Nat) : List τ := w.tasks.eraseIdx i

theorem mem_others {u : τ} : u ∈ w.others i ↔ ∃ j ≠ i, w.tasks[j]? = some u :=
  List.mem_eraseIdx_iff_getElem?

theorem getElem?_set_cases {tasks : List τ} {j : Nat} {u : τ} (h : (tasks.set i t')[j]? = some u) :
    (j = i ∧ u = t') ∨ (j ≠ i ∧ tasks[j]? = some u) := by
  by_cases hij : i = j
  · subst hij
    obtain ⟨hlt, hget⟩ := List.getElem?_eq_some_iff.mp h
    rw [List.getElem_set_self] at hget
    exact .inl ⟨rfl, hget.symm⟩
  · rw [List.getElem?_set_ne hij] at h
    exact .inr ⟨Ne.symm hij, h⟩

/-- `J` holds of each task on its own, and `K` between any two of them. -/
structure Noninterfering (J : σ → τ → Prop) (K : τ → τ → Prop) (w : Pool σ τ) : Prop where
  each : ∀ (i : Nat) (t : τ), w.tasks[i]? = some t → J w.shared t
  apart : ∀ (i j : Nat) (t u : τ), i ≠ j → w.tasks[i]? = some t → w.tasks[j]? = some u → K t u

namespace Noninterfering

variable {J : σ → τ → Prop} {K : τ → τ → Prop}

theorem empty (s : σ) : Noninterfering J K { shared := s, tasks := [] } where
  each := by simp
  apart := by simp

/-- A step of one task: what it needs holds where it goes, and the others keep what they need. -/
theorem run (h : Noninterfering J K w) (hown : J s t')
    (hothers : ∀ (j : Nat) (u : τ), j ≠ i → w.tasks[j]? = some u → J s u ∧ K t' u ∧ K u t') :
    Noninterfering J K { shared := s, tasks := w.tasks.set i t' } where
  each := by
    intro j u hu
    obtain ⟨-, rfl⟩ | ⟨hj, hu⟩ := getElem?_set_cases hu
    · exact hown
    · exact (hothers j u hj hu).1
  apart := by
    intro j k u v hjk hu hv
    obtain ⟨rfl, rfl⟩ | ⟨hj, hbefore⟩ := getElem?_set_cases hu
    · obtain ⟨rfl, -⟩ | ⟨hk, hbefore⟩ := getElem?_set_cases hv
      · exact absurd rfl hjk
      · exact (hothers k v hk hbefore).2.1
    · obtain ⟨rfl, rfl⟩ | ⟨hk, hbefore'⟩ := getElem?_set_cases hv
      · exact (hothers j u hj hbefore).2.2
      · exact h.apart j k u v hjk hbefore hbefore'

theorem spawn (h : Noninterfering J K w) (hown : J w.shared t)
    (hothers : ∀ u ∈ w.tasks, K t u ∧ K u t) :
    Noninterfering J K { w with tasks := w.tasks ++ [t] } := by
  have hcases : ∀ {j : Nat} {u : τ}, (w.tasks ++ [t])[j]? = some u →
      (j = w.tasks.length ∧ u = t) ∨ w.tasks[j]? = some u := by
    intro j u hu
    by_cases hj : j < w.tasks.length
    · exact .inr (by rwa [List.getElem?_append_left hj] at hu)
    · rw [List.getElem?_append_right (Nat.le_of_not_lt hj)] at hu
      obtain ⟨hlt, hget⟩ := List.getElem?_eq_some_iff.mp hu
      have hzero : j - w.tasks.length = 0 := by simpa using hlt
      exact .inl ⟨by omega, by simpa [hzero] using hget.symm⟩
  constructor
  · intro j u hu
    obtain ⟨-, rfl⟩ | hu := hcases hu
    · exact hown
    · exact h.each j u hu
  · intro j k u v hjk hu hv
    obtain ⟨rfl, rfl⟩ | hbefore := hcases hu
    · obtain ⟨rfl, -⟩ | hbefore := hcases hv
      · exact absurd rfl hjk
      · exact (hothers v (List.mem_of_getElem? hbefore)).1
    · obtain ⟨rfl, rfl⟩ | hbefore' := hcases hv
      · exact (hothers u (List.mem_of_getElem? hbefore)).2
      · exact h.apart j k u v hjk hbefore hbefore'

theorem outside (h : Noninterfering J K w) (hkeeps : ∀ t, J w.shared t → J s t) :
    Noninterfering J K { w with shared := s } where
  each j t ht := hkeeps t (h.each j t ht)
  apart := h.apart

end Noninterfering

/-! ## Counting tasks -/

theorem countP_set_add {tasks : List τ} (p : τ → Bool) (t' : τ) (h : tasks[i]? = some t) :
    (tasks.set i t').countP p + (if p t then 1 else 0) =
      tasks.countP p + (if p t' then 1 else 0) := by
  obtain ⟨hi, rfl⟩ := List.getElem?_eq_some_iff.mp h
  rw [List.countP_set hi]
  by_cases hp : p tasks[i] = true
  · have hpos : 0 < tasks.countP p :=
      List.countP_pos_iff.mpr ⟨tasks[i], List.getElem_mem hi, hp⟩
    simp only [hp, if_true]
    omega
  · simp only [hp, if_false, Bool.false_eq_true]
    omega

/-- Two tasks of a kind are two. -/
theorem two_le_countP {tasks : List τ} {p : τ → Bool} {j : Nat} {u : τ} (hij : i ≠ j)
    (ht : tasks[i]? = some t) (hu : tasks[j]? = some u) (hpt : p t = true) (hpu : p u = true) :
    2 ≤ tasks.countP p := by
  induction tasks generalizing i j with
  | nil => simp at ht
  | cons first tasks ih =>
    have hpos : ∀ {k : Nat} {v : τ}, tasks[k]? = some v → p v = true → 0 < tasks.countP p :=
      fun hv hpv => List.countP_pos_iff.mpr ⟨_, List.mem_of_getElem? hv, hpv⟩
    rw [List.countP_cons]
    cases i with
    | zero =>
      cases j with
      | zero => exact absurd rfl hij
      | succ j =>
        obtain rfl : first = t := by simpa using ht
        have := hpos (by simpa using hu) hpu
        rw [if_pos hpt]
        omega
    | succ i =>
      cases j with
      | zero =>
        obtain rfl : first = u := by simpa using hu
        have := hpos (by simpa using ht) hpt
        rw [if_pos hpu]
        omega
      | succ j =>
        have := ih (fun h => hij (congrArg Nat.succ h)) (by simpa using ht) (by simpa using hu)
        omega

end Pool

end Coderd.Foundation
