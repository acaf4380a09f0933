import Mathlib.Data.List.Perm.Basic
import Coderd.Foundation.Interleaving

namespace Coderd.Foundation

/-- A program as the tree of its calls: a result, or a call and what follows each response. -/
inductive Calls (κ : Type) (ρ : κ → Type) (α : Type) where
  | done (a : α)
  | call (op : κ) (next : ρ op → Calls κ ρ α)

namespace Calls

variable {κ : Type} {ρ : κ → Type} {α β : Type}

def bind : Calls κ ρ α → (α → Calls κ ρ β) → Calls κ ρ β
  | done a, k => k a
  | call op next, k => call op fun r => (next r).bind k

/-- The second program gets what the first one returns, if that is not an error. -/
def bindOk {ε : Type} (p : Calls κ ρ (Except ε α)) (k : α → Calls κ ρ (Except ε β)) :
    Calls κ ρ (Except ε β) :=
  p.bind fun
    | .error e => .done (.error e)
    | .ok a => k a

/-- No call but those allowed, whatever the responses are. -/
def Uses (allowed : κ → Prop) : Calls κ ρ α → Prop
  | done _ => True
  | call op next => allowed op ∧ ∀ r, (next r).Uses allowed

variable {allowed : κ → Prop}

theorem Uses.bind {p : Calls κ ρ α} {k : α → Calls κ ρ β} (h : p.Uses allowed)
    (hk : ∀ a, (k a).Uses allowed) : (p.bind k).Uses allowed := by
  induction p with
  | done a => exact hk a
  | call op next ih => exact ⟨h.1, fun r => ih r (h.2 r)⟩

theorem Uses.bindOk {ε : Type} {p : Calls κ ρ (Except ε α)} {k : α → Calls κ ρ (Except ε β)}
    (h : p.Uses allowed) (hk : ∀ a, (k a).Uses allowed) : (p.bindOk k).Uses allowed := by
  refine h.bind fun r => ?_
  cases r with
  | error e => trivial
  | ok a => exact hk a

theorem Uses.mono {allowed' : κ → Prop} {p : Calls κ ρ α} (h : p.Uses allowed)
    (himp : ∀ op, allowed op → allowed' op) : p.Uses allowed' := by
  induction p with
  | done a => trivial
  | call op next ih => exact ⟨himp op h.1, fun r => ih r (h.2 r)⟩

def isDone : Calls κ ρ α → Bool
  | done _ => true
  | call _ _ => false

theorem isDone_iff {p : Calls κ ρ α} : p.isDone = true ↔ ∃ a, p = done a := by
  cases p <;> simp [isDone]

end Calls

/-! ## Services -/

/-- Requests that are answered by programs over a shared state. A call is one step; it is `none`
where the choice is not one that the call can meet with. -/
structure Service (κ : Type) (ρ : κ → Type) (α σ χ ο ε : Type) where
  exec : (op : κ) → σ → χ → Option (ρ op × σ)
  enter : ο → Calls κ ρ α
  outside : σ → ε → σ

/-- What may happen: which calls meet with which choice, what is asked for, what comes from
outside. -/
structure Regime (κ σ χ ο ε : Type) where
  call : κ → σ → χ → Prop
  spawn : σ → ο → Prop
  outside : σ → ε → Prop

variable {κ : Type} {ρ : κ → Type} {α β γ σ χ ο ε ω : Type}

namespace Service

def program (svc : Service κ ρ α σ χ ο ε) : Program σ (Calls κ ρ α) ο χ ε where
  enter := svc.enter
  advance s t choice :=
    match t with
    | .done _ => none
    | .call op next => (svc.exec op s choice).map fun r => (r.2, next r.1)
  outside := svc.outside

/-! A task makes a call, or its moves do nothing. -/

theorem call_or_idle (tasks : List (Calls κ ρ α)) (i : Nat) :
    (∃ op next, tasks[i]? = some (.call op next)) ∨
      ∀ op next, tasks[i]? ≠ some (.call op next) := by
  by_cases h : ∃ op next, tasks[i]? = some (.call op next)
  · exact .inl h
  · exact .inr fun op next hsome => h ⟨op, next, hsome⟩

section

variable (svc : Service κ ρ α σ χ ο ε) {w : Pool σ (Calls κ ρ α)} {i : Nat} {choice : χ}

theorem step_idle (hidle : ∀ op next, w.tasks[i]? ≠ some (.call op next)) :
    svc.program.step w (.run i choice) = w := by
  cases hget : w.tasks[i]? with
  | none => simp [Program.step, hget]
  | some t =>
    cases t with
    | done a => simp [Program.step, hget, program]
    | call op next => exact absurd hget (hidle op next)

variable {svc} {op : κ} {next : ρ op → Calls κ ρ α}

theorem step_run {r : ρ op} {s' : σ} (htask : w.tasks[i]? = some (.call op next))
    (hexec : svc.exec op w.shared choice = some (r, s')) :
    svc.program.step w (.run i choice) = { shared := s', tasks := w.tasks.set i (next r) } := by
  simp [Program.step, htask, program, hexec]

theorem step_waits (htask : w.tasks[i]? = some (.call op next))
    (hexec : svc.exec op w.shared choice = none) : svc.program.step w (.run i choice) = w := by
  simp [Program.step, htask, program, hexec]

end

end Service

namespace Regime

/-- Nothing is ruled out. -/
def any : Regime κ σ χ ο ε where
  call _ _ _ := True
  spawn _ _ := True
  outside _ _ := True

def Allows (regime : Regime κ σ χ ο ε) (w : Pool σ (Calls κ ρ α)) : Move ο χ ε → Prop
  | .spawn op => regime.spawn w.shared op
  | .run i choice => ∀ op next, w.tasks[i]? = some (.call op next) → regime.call op w.shared choice
  | .outside event => regime.outside w.shared event

theorem any_along (svc : Service κ ρ α σ χ ο ε) (w : Pool σ (Calls κ ρ α))
    (moves : List (Move ο χ ε)) : Along svc.program.step any.Allows w moves := by
  induction moves generalizing w with
  | nil => trivial
  | cons move moves ih =>
    refine ⟨?_, ih _⟩
    cases move with
    | spawn op => trivial
    | run i choice =>
      intro op next _
      trivial
    | outside event => trivial

/-- A check of the call that a move makes. -/
def checkMove (ok : κ → σ → χ → Bool) (w : Pool σ (Calls κ ρ α)) : Move ο χ ε → Bool
  | .spawn _ => true
  | .outside _ => true
  | .run i choice =>
    match w.tasks[i]? with
    | some (.call op _) => ok op w.shared choice
    | _ => true

/-- The calls of a run, each checked in the state it is made in. -/
def checks (svc : Service κ ρ α σ χ ο ε) (ok : κ → σ → χ → Bool) :
    Pool σ (Calls κ ρ α) → List (Move ο χ ε) → Bool
  | _, [] => true
  | w, move :: moves => checkMove ok w move && checks svc ok (svc.program.step w move) moves

/-- A run whose calls pass a check that implies the condition, where the condition is on calls
alone. -/
theorem along_of_checks {svc : Service κ ρ α σ χ ο ε} {regime : Regime κ σ χ ο ε}
    {ok : κ → σ → χ → Bool} (hspawn : ∀ s op, regime.spawn s op)
    (houtside : ∀ s event, regime.outside s event)
    (hok : ∀ op s choice, ok op s choice = true → regime.call op s choice)
    {w : Pool σ (Calls κ ρ α)} {moves : List (Move ο χ ε)}
    (h : checks svc ok w moves = true) : Along svc.program.step regime.Allows w moves := by
  induction moves generalizing w with
  | nil => trivial
  | cons move moves ih =>
    rw [checks, Bool.and_eq_true] at h
    refine ⟨?_, ih h.2⟩
    cases move with
    | spawn op => exact hspawn w.shared op
    | outside event => exact houtside w.shared event
    | run i choice =>
      intro op next htask
      have hcheck := h.1
      simp only [checkMove, htask] at hcheck
      exact hok op w.shared choice hcheck

theorem allows_run_iff {regime : Regime κ σ χ ο ε} {w : Pool σ (Calls κ ρ α)} {i : Nat} {choice : χ}
    {op : κ} {next : ρ op → Calls κ ρ α} (htask : w.tasks[i]? = some (.call op next)) :
    regime.Allows w (.run i choice : Move ο χ ε) ↔ regime.call op w.shared choice := by
  constructor
  · intro hallowed
    exact hallowed op next htask
  · intro hallowed op' next' hsome
    rw [htask] at hsome
    cases hsome
    exact hallowed

theorem allows_idle (regime : Regime κ σ χ ο ε) {w : Pool σ (Calls κ ρ α)} {i : Nat} {choice : χ}
    (hidle : ∀ op next, w.tasks[i]? ≠ some (.call op next)) :
    regime.Allows w (.run i choice : Move ο χ ε) :=
  fun op next hsome => absurd hsome (hidle op next)

/-- The regime allows exactly the steps that keep `I`. -/
structure Exact (svc : Service κ ρ α σ χ ο ε) (regime : Regime κ σ χ ο ε) (I : σ → Prop) :
    Prop where
  call : ∀ {op : κ} {s : σ} {choice : χ} {r : ρ op} {s' : σ}, I s →
    svc.exec op s choice = some (r, s') → (I s' ↔ regime.call op s choice)
  waits : ∀ {op : κ} {s : σ} {choice : χ}, svc.exec op s choice = none → regime.call op s choice
  spawn : ∀ s op, regime.spawn s op
  outside : ∀ s event, I s → (I (svc.outside s event) ↔ regime.outside s event)

variable {svc : Service κ ρ α σ χ ο ε} {regime : Regime κ σ χ ο ε} {I : σ → Prop}

theorem Exact.step_iff (h : Exact svc regime I) {w : Pool σ (Calls κ ρ α)} (hinv : I w.shared)
    (move : Move ο χ ε) : I (svc.program.step w move).shared ↔ regime.Allows w move := by
  cases move with
  | spawn op => exact ⟨fun _ => h.spawn w.shared op, fun _ => hinv⟩
  | outside event => exact h.outside w.shared event hinv
  | run i choice =>
    obtain ⟨op, next, htask⟩ | hidle := Service.call_or_idle w.tasks i
    · rw [allows_run_iff htask]
      cases hexec : svc.exec op w.shared choice with
      | none =>
        rw [Service.step_waits htask hexec]
        exact ⟨fun _ => h.waits hexec, fun _ => hinv⟩
      | some result =>
        rw [Service.step_run htask hexec]
        exact h.call hinv hexec
    · rw [svc.step_idle hidle]
      exact ⟨fun _ => regime.allows_idle hidle, fun _ => hinv⟩

/-- What holds at the start holds in every state of a run exactly if the regime allows the run. -/
theorem Exact.along_iff (h : Exact svc regime I) {w : Pool σ (Calls κ ρ α)} (hinv : I w.shared)
    (moves : List (Move ο χ ε)) :
    Along svc.program.step regime.Allows w moves ↔
      ∀ first, first <+: moves → I (svc.program.run w first).shared :=
  along_iff_invariant (I := fun w : Pool σ (Calls κ ρ α) => I w.shared)
    (fun _ move hinv => h.step_iff hinv move) hinv moves

end Regime

/-! ## What no step undoes -/

/-- An order on the states that every step goes up. What is seen once and kept by `Later` is known
from then on, whatever the other tasks do. -/
structure Growth (svc : Service κ ρ α σ χ ο ε) where
  Later : σ → σ → Prop
  refl : ∀ s, Later s s
  trans : ∀ {a b c : σ}, Later a b → Later b c → Later a c
  exec : ∀ {op : κ} {s : σ} {choice : χ} {r : ρ op} {s' : σ},
    svc.exec op s choice = some (r, s') → Later s s'
  outside : ∀ s event, Later s (svc.outside s event)

namespace Growth

variable {svc : Service κ ρ α σ χ ο ε} (growth : Growth svc)

theorem step (w : Pool σ (Calls κ ρ α)) (move : Move ο χ ε) :
    growth.Later w.shared (svc.program.step w move).shared := by
  have hsteps := svc.program.steps_step w move
  generalize svc.program.step w move = w' at hsteps ⊢
  cases hsteps with
  | idle => exact growth.refl _
  | spawn op => exact growth.refl _
  | @run i choice t t' s htask hadvance =>
    cases t with
    | done a => cases hadvance
    | call op next =>
      obtain ⟨⟨r, s''⟩, hexec, heq⟩ := Option.map_eq_some_iff.mp hadvance
      cases heq
      exact growth.exec hexec
  | outside event => exact growth.outside _ event

theorem run (w : Pool σ (Calls κ ρ α)) (moves : List (Move ο χ ε)) :
    growth.Later w.shared (svc.program.run w moves).shared := by
  induction moves generalizing w with
  | nil => exact growth.refl _
  | cons move moves ih => exact growth.trans (growth.step w move) (ih _)

end Growth

/-! ## Roles

Each task plays a role, which says what is its own, and knows what it has seen. The invariant is
one of the state and of the roles that are being played; their order does not matter. A program
plays a role when each of its calls takes the invariant to one with a new role, which the rest of
it plays. -/

structure Method {svc : Service κ ρ α σ χ ο ε} (growth : Growth svc) (regime : Regime κ σ χ ο ε)
    (ω : Type) where
  inv : σ → List ω → Prop
  perm : ∀ {s : σ} {roles roles' : List ω}, roles.Perm roles' → inv s roles → inv s roles'

namespace Method

variable {svc : Service κ ρ α σ χ ο ε} {growth : Growth svc} {regime : Regime κ σ χ ο ε}

/-- An invariant of the state alone. -/
def ofState (growth : Growth svc) (regime : Regime κ σ χ ο ε) (I : σ → Prop) :
    Method growth regime Unit where
  inv s _ := I s
  perm _ h := h

/-- The weakest condition on the state that the task has seen last and on its role under which it
ends in `Q`. -/
def Plays (m : Method growth regime ω) (Q : σ → ω → β → Prop) : Calls κ ρ β → σ → ω → Prop
  | .done a, seen, o => Q seen o a
  | .call op next, seen, o => ∀ s others choice r s', growth.Later seen s →
      m.inv s (o :: others) → regime.call op s choice → svc.exec op s choice = some (r, s') →
      ∃ o', m.inv s' (o' :: others) ∧ m.Plays Q (next r) s' o'

variable {m : Method growth regime ω}

theorem Plays.bind {Q : σ → ω → γ → Prop} {p : Calls κ ρ β} {k : β → Calls κ ρ γ} {seen : σ} {o : ω}
    (h : m.Plays (fun seen' o' b => m.Plays Q (k b) seen' o') p seen o) :
    m.Plays Q (p.bind k) seen o := by
  induction p generalizing seen o with
  | done b => exact h
  | call op next ih =>
    intro s others choice r s' hseen hinv hallowed hexec
    obtain ⟨o', hinv', hrest⟩ := h s others choice r s' hseen hinv hallowed hexec
    exact ⟨o', hinv', ih r hrest⟩

theorem Plays.mono {Q Q' : σ → ω → β → Prop} {p : Calls κ ρ β} {seen : σ} {o : ω}
    (h : m.Plays Q p seen o)
    (himp : ∀ seen' o' b, growth.Later seen seen' → Q seen' o' b → Q' seen' o' b) :
    m.Plays Q' p seen o := by
  induction p generalizing seen o with
  | done b => exact himp seen o b (growth.refl seen) h
  | call op next ih =>
    intro s others choice r s' hseen hinv hallowed hexec
    obtain ⟨o', hinv', hrest⟩ := h s others choice r s' hseen hinv hallowed hexec
    refine ⟨o', hinv', ih r hrest fun seen' o'' b hlater => ?_⟩
    exact himp seen' o'' b (growth.trans hseen (growth.trans (growth.exec hexec) hlater))

theorem Plays.bindOk {δ : Type} {Q : σ → ω → Except δ γ → Prop} {p : Calls κ ρ (Except δ β)}
    {k : β → Calls κ ρ (Except δ γ)} {seen : σ} {o : ω}
    (h : m.Plays (fun seen' o' r => (∀ e, r = .error e → Q seen' o' (.error e)) ∧
      ∀ b, r = .ok b → m.Plays Q (k b) seen' o') p seen o) :
    m.Plays Q (p.bindOk k) seen o := by
  refine Plays.bind (Plays.mono h fun seen' o' r _ hr => ?_)
  cases r with
  | error e => exact hr.1 e rfl
  | ok b => exact hr.2 b rfl

/-- The calls keep the invariant, whoever makes them. -/
structure Keeps (m : Method growth regime ω) (quiet : κ → Prop) : Prop where
  keeps : ∀ {op : κ} {s : σ} {o : ω} {others : List ω} {choice : χ} {r : ρ op} {s' : σ}, quiet op →
    m.inv s (o :: others) → regime.call op s choice → svc.exec op s choice = some (r, s') →
    m.inv s' (o :: others)

section

variable {quiet : κ → Prop} {Q : σ → ω → β → Prop} {seen : σ} {o : ω}

theorem Keeps.mono {quiet' : κ → Prop} (h : m.Keeps quiet) (himp : ∀ op, quiet' op → quiet op) :
    m.Keeps quiet' :=
  ⟨fun hop hinv hallowed hexec => h.keeps (himp _ hop) hinv hallowed hexec⟩

/-- One such call. -/
theorem Keeps.call (h : m.Keeps quiet) {op : κ} {next : ρ op → Calls κ ρ β} (hop : quiet op)
    (hnext : ∀ s choice r s', growth.Later seen s → svc.exec op s choice = some (r, s') →
      m.Plays Q (next r) s' o) : m.Plays Q (.call op next) seen o := by
  intro s others choice r s' hseen hinv hallowed hexec
  exact ⟨o, h.keeps hop hinv hallowed hexec, hnext s choice r s' hseen hexec⟩

/-- A program of such calls plays the role it has all the way. -/
theorem Keeps.uses (h : m.Keeps quiet) {p : Calls κ ρ β} (hp : p.Uses quiet)
    (hends : ∀ seen' b, growth.Later seen seen' → Q seen' o b) : m.Plays Q p seen o := by
  induction p generalizing seen with
  | done b => exact hends seen b (growth.refl seen)
  | call op next ih =>
    refine h.call hp.1 fun s choice r s' hseen hexec => ih r (hp.2 r) fun seen' b hlater => ?_
    exact hends seen' b (growth.trans hseen (growth.trans (growth.exec hexec) hlater))

end

/-- The tasks of the pool play roles together; `Q` is what is left of one that has returned. -/
structure Cast (m : Method growth regime ω) (Q : σ → ω → α → Prop) (w : Pool σ (Calls κ ρ α))
    (roles : List (σ × ω)) : Prop where
  inv : m.inv w.shared (roles.map (·.2))
  length : roles.length = w.tasks.length
  seen : ∀ o ∈ roles, growth.Later o.1 w.shared
  plays : ∀ (i : Nat) (t : Calls κ ρ α) (o : σ × ω), w.tasks[i]? = some t → roles[i]? = some o →
    m.Plays Q t o.1 o.2

/-- What must be shown of a method: every request has a role to start in, and what comes from
outside keeps the invariant. -/
structure Sound (m : Method growth regime ω) (Q : σ → ω → α → Prop) : Prop where
  spawn : ∀ s roles op, m.inv s roles → regime.spawn s op →
    ∃ o, m.inv s (o :: roles) ∧ m.Plays Q (svc.enter op) s o
  outside : ∀ s roles event, m.inv s roles → regime.outside s event →
    m.inv (svc.outside s event) roles

variable {Q : σ → ω → α → Prop} {w : Pool σ (Calls κ ρ α)} {roles : List (σ × ω)}

theorem Cast.spawn (h : m.Cast Q w roles) (hm : m.Sound Q) {op : ο}
    (hallowed : regime.spawn w.shared op) :
    ∃ roles', m.Cast Q (svc.program.step w (.spawn op)) roles' := by
  obtain ⟨o, hinv, hplays⟩ := hm.spawn w.shared _ op h.inv hallowed
  refine ⟨roles ++ [(w.shared, o)], ?_, ?_, ?_, ?_⟩
  · rw [List.map_append]
    exact m.perm (List.perm_append_singleton o _).symm hinv
  · simp [Program.step, h.length]
  · intro u hu
    cases List.mem_append.mp hu with
    | inl hu => exact h.seen u hu
    | inr hu =>
      rw [List.mem_singleton.mp hu]
      exact growth.refl _
  · intro i t u ht hu
    simp only [Program.step, Service.program] at ht
    by_cases hi : i < w.tasks.length
    · rw [List.getElem?_append_left hi] at ht
      rw [List.getElem?_append_left (h.length ▸ hi)] at hu
      exact h.plays i t u ht hu
    · have hle : w.tasks.length ≤ i := Nat.le_of_not_lt hi
      rw [List.getElem?_append_right hle] at ht
      rw [List.getElem?_append_right (h.length ▸ hle), h.length] at hu
      obtain ⟨hlt, hget⟩ := List.getElem?_eq_some_iff.mp ht
      have hzero : i - w.tasks.length = 0 := by simpa using hlt
      simp only [hzero, List.getElem?_cons_zero, Option.some.injEq] at hu
      obtain rfl : svc.enter op = t := by simpa [hzero] using hget
      cases hu
      exact hplays

theorem Cast.run (h : m.Cast Q w roles) {i : Nat} {choice : χ}
    (hallowed : regime.Allows w (.run i choice : Move ο χ ε)) :
    ∃ roles', m.Cast Q (svc.program.step w (.run i choice)) roles' := by
  obtain ⟨op, next, htask⟩ | hidle := Service.call_or_idle w.tasks i
  · cases hexec : svc.exec op w.shared choice with
    | none =>
      rw [Service.step_waits htask hexec]
      exact ⟨roles, h⟩
    | some result =>
      obtain ⟨r, s'⟩ := result
      have hi : i < w.tasks.length := (List.getElem?_eq_some_iff.mp htask).choose
      have hroles : i < roles.length := h.length ▸ hi
      have hmap : i < (roles.map (·.2)).length := by simpa using hroles
      have hplays := h.plays i _ roles[i] htask (List.getElem?_eq_getElem hroles)
      have hseen := h.seen roles[i] (List.getElem_mem hroles)
      have hinv := m.perm (List.getElem_cons_eraseIdx_perm hmap).symm h.inv
      rw [List.getElem_map] at hinv
      -- the role of the task comes first, its others after it
      obtain ⟨o', hinv', hrest⟩ := hplays w.shared ((roles.map (·.2)).eraseIdx i) choice r s'
        hseen hinv (hallowed op next htask) hexec
      refine ⟨roles.set i (s', o'), ?_⟩
      rw [Service.step_run htask hexec]
      refine ⟨?_, ?_, ?_, ?_⟩
      · rw [List.map_set]
        exact m.perm (List.set_perm_cons_eraseIdx hmap o').symm hinv'
      · simp [h.length]
      · intro u hu
        cases List.mem_or_eq_of_mem_set hu with
        | inl hu => exact growth.trans (h.seen u hu) (growth.exec hexec)
        | inr hu =>
          rw [hu]
          exact growth.refl s'
      · intro j t u ht hu
        obtain ⟨rfl, rfl⟩ | ⟨hj, ht⟩ := Pool.getElem?_set_cases ht
        · rw [List.getElem?_set_self hroles, Option.some.injEq] at hu
          exact hu ▸ hrest
        · rw [List.getElem?_set_ne (Ne.symm hj)] at hu
          exact h.plays j t u ht hu
  · rw [svc.step_idle hidle]
    exact ⟨roles, h⟩

theorem Cast.step (h : m.Cast Q w roles) (hm : m.Sound Q) {move : Move ο χ ε}
    (hallowed : regime.Allows w move) : ∃ roles', m.Cast Q (svc.program.step w move) roles' := by
  cases move with
  | spawn op => exact h.spawn hm hallowed
  | run i choice => exact h.run hallowed
  | outside event =>
    have hinv := hm.outside w.shared _ event h.inv hallowed
    exact ⟨roles, hinv, h.length,
      fun o ho => growth.trans (h.seen o ho) (growth.outside w.shared event), h.plays⟩

/-- In a run that the regime allows, the tasks go on playing roles together. -/
theorem Cast.along (h : m.Cast Q w roles) (hm : m.Sound Q) {moves : List (Move ο χ ε)}
    (hrun : Along svc.program.step regime.Allows w moves) :
    ∃ roles', m.Cast Q (svc.program.run w moves) roles' := by
  induction moves generalizing w roles with
  | nil => exact ⟨roles, h⟩
  | cons move moves ih =>
    obtain ⟨hallowed, hrest⟩ := hrun
    obtain ⟨roles', hstep⟩ := h.step hm hallowed
    exact ih hstep hrest

/-- The pool that no request has reached. -/
theorem Cast.start {s : σ} (h : m.inv s []) : m.Cast Q { shared := s, tasks := [] } [] where
  inv := h
  length := rfl
  seen := by simp
  plays i t o ht := by simp at ht

/-- The invariant holds after every run that the regime allows, for some roles. -/
theorem Sound.invariant (hm : m.Sound Q) {s : σ} (h : m.inv s []) {moves : List (Move ο χ ε)}
    (hrun : Along svc.program.step regime.Allows { shared := s, tasks := [] } moves) :
    ∃ roles, m.inv (svc.program.run { shared := s, tasks := [] } moves).shared roles := by
  obtain ⟨roles, hcast⟩ := (Cast.start (Q := Q) h).along hm hrun
  exact ⟨_, hcast.inv⟩

/-- Once all tasks have returned, every role is one that a result leaves. -/
theorem Cast.ended (h : m.Cast Q w roles) (hdone : ∀ t ∈ w.tasks, ∃ a, t = .done a) :
    ∀ o ∈ roles, ∃ a, Q o.1 o.2 a := by
  intro o ho
  obtain ⟨i, hi, hget⟩ := List.getElem_of_mem ho
  have htasks : i < w.tasks.length := h.length ▸ hi
  obtain ⟨a, ha⟩ := hdone w.tasks[i] (List.getElem_mem htasks)
  have hplays := h.plays i w.tasks[i] o (List.getElem?_eq_getElem htasks)
    (by rw [List.getElem?_eq_getElem hi, hget])
  rw [ha] at hplays
  exact ⟨a, hplays⟩

end Method

/-! ## Invariants of a common shape -/

/-- Something of the state alone, something of each role, and something between any two. -/
structure Ensemble (Global : σ → Prop) (Valid : σ → ω → Prop) (Apart : ω → ω → Prop) (s : σ)
    (roles : List ω) : Prop where
  shared : Global s
  valid : ∀ r ∈ roles, Valid s r
  apart : roles.Pairwise Apart

namespace Ensemble

variable {Global : σ → Prop} {Valid : σ → ω → Prop} {Apart : ω → ω → Prop} {s s' : σ} {o o' : ω}
  {roles others : List ω}

theorem perm (hsymm : ∀ {a b : ω}, Apart a b → Apart b a) {roles' : List ω}
    (hperm : roles.Perm roles') (h : Ensemble Global Valid Apart s roles) :
    Ensemble Global Valid Apart s roles' where
  shared := h.shared
  valid r hr := h.valid r (hperm.mem_iff.mpr hr)
  apart := h.apart.perm hperm hsymm

theorem own (h : Ensemble Global Valid Apart s (o :: others)) : Valid s o :=
  h.valid o List.mem_cons_self

theorem others_apart (h : Ensemble Global Valid Apart s (o :: others)) {u : ω} (hu : u ∈ others) :
    Apart o u :=
  List.rel_of_pairwise_cons h.apart hu

theorem others_valid (h : Ensemble Global Valid Apart s (o :: others)) {u : ω} (hu : u ∈ others) :
    Valid s u :=
  h.valid u (List.mem_cons_of_mem o hu)

/-- One role becomes another in a new state, where the others are still played. -/
theorem step (h : Ensemble Global Valid Apart s (o :: others)) (hshared : Global s')
    (hown : Valid s' o')
    (hothers : ∀ u ∈ others, Valid s u → Apart o u → Valid s' u ∧ Apart o' u) :
    Ensemble Global Valid Apart s' (o' :: others) where
  shared := hshared
  valid r hr := by
    cases List.mem_cons.mp hr with
    | inl hr => exact hr ▸ hown
    | inr hr => exact (hothers r hr (h.others_valid hr) (h.others_apart hr)).1
  apart := List.pairwise_cons.mpr
    ⟨fun u hu => (hothers u hu (h.others_valid hu) (h.others_apart hu)).2,
      (List.pairwise_cons.mp h.apart).2⟩

/-- A role becomes another without a change of the state. -/
theorem become (h : Ensemble Global Valid Apart s (o :: others)) (hown : Valid s o')
    (hapart : ∀ u, Apart o u → Apart o' u) : Ensemble Global Valid Apart s (o' :: others) :=
  h.step h.shared hown fun u _ hu hou => ⟨hu, hapart u hou⟩

/-- A new role comes in. -/
theorem join (h : Ensemble Global Valid Apart s roles) (hown : Valid s o)
    (hapart : ∀ u ∈ roles, Apart o u) : Ensemble Global Valid Apart s (o :: roles) where
  shared := h.shared
  valid r hr := by
    cases List.mem_cons.mp hr with
    | inl hr => exact hr ▸ hown
    | inr hr => exact h.valid r hr
  apart := List.pairwise_cons.mpr ⟨hapart, h.apart⟩

end Ensemble

end Coderd.Foundation
