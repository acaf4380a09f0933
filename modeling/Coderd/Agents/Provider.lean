import Mathlib.Data.List.Induction
import Coderd.Foundation.HashMap
import Coderd.Foundation.Interleaving
import Coderd.Foundation.Leases
import Coderd.Foundation.Uuid

namespace Coderd.Agents

open Coderd.Foundation

/-! ## The provider -/

structure WorkspaceAgentListeningPort where
  processName : String
  network : String
  port : UInt16
  deriving DecidableEq, Repr

/-- A connection stands for its `Arc`: the number counts the connections that were made. The lock
of `agents` is taken by a removal that goes on to take the one of `listening_ports`; nobody else
keeps a lock from one step to the next. -/
structure InMemoryAgentProvider where
  agents : HashMap Uuid Nat
  agentsLocked : Bool
  listeningPorts : HashMap Uuid (List WorkspaceAgentListeningPort)
  connections : Nat

namespace InMemoryAgentProvider

def new : InMemoryAgentProvider := ⟨∅, false, ∅, 0⟩

/-- `None` is also what a reader finds while it waits for the lock. -/
def getAgentConnection (p : InMemoryAgentProvider) (agentId : Uuid) : Option Nat :=
  p.agents.lookup agentId

def getListeningPorts (p : InMemoryAgentProvider) (agentId : Uuid) :
    List WorkspaceAgentListeningPort :=
  (p.listeningPorts.lookup agentId).getD []

end InMemoryAgentProvider

/-! ## The sockets of the agents -/

/-- `register_agent` is over once its second lock was taken, and so is `remove_agent` if the
connection was still the registered one. -/
inductive SocketPhase where
  | connecting
  | registering (conn : Nat)
  | clearing (conn : Nat)
  | serving (conn : Nat)
  | reporting (conn : Nat) (ports : List WorkspaceAgentListeningPort)
  | removing (conn : Nat)
  | disconnecting (conn : Nat)
  | closed (conn : Nat)
  deriving DecidableEq

/-- `handle_agent_rpc_socket`. -/
structure Socket where
  agentId : Uuid
  phase : SocketPhase
  deriving DecidableEq

/-- What comes next on a socket: a report of its ports, anything else, or its end. -/
inductive SocketEvent where
  | reportListeningPorts (ports : List WorkspaceAgentListeningPort)
  | other
  | ends
  deriving DecidableEq

def Socket.advance (p : InMemoryAgentProvider) (s : Socket) (event : SocketEvent) :
    Option (InMemoryAgentProvider × Socket) :=
  match s.phase with
  | .connecting =>
    some ({ p with connections := p.connections + 1 },
      { s with phase := .registering p.connections })
  | .registering conn =>
    if p.agentsLocked then none
    else some ({ p with agents := p.agents.insert s.agentId conn },
      { s with phase := .clearing conn })
  | .clearing conn =>
    some ({ p with listeningPorts := p.listeningPorts.erase s.agentId },
      { s with phase := .serving conn })
  | .serving conn =>
    match event with
    | .reportListeningPorts ports => some (p, { s with phase := .reporting conn ports })
    | .other => some (p, s)
    | .ends => some (p, { s with phase := .removing conn })
  | .reporting conn ports =>
    some ({ p with listeningPorts := p.listeningPorts.insert s.agentId ports },
      { s with phase := .serving conn })
  | .removing conn =>
    if p.agentsLocked then none
    else if p.agents.lookup s.agentId = some conn then
      some ({ p with agents := p.agents.erase s.agentId, agentsLocked := true },
        { s with phase := .disconnecting conn })
    else some (p, { s with phase := .closed conn })
  | .disconnecting conn =>
    some ({ p with listeningPorts := p.listeningPorts.erase s.agentId, agentsLocked := false },
      { s with phase := .closed conn })
  | .closed _ => none

def program : Program InMemoryAgentProvider Socket Uuid SocketEvent Empty where
  enter agentId := { agentId, phase := .connecting }
  advance := Socket.advance
  outside p _ := p

abbrev World := Pool InMemoryAgentProvider Socket

abbrev ProviderMove := Move Uuid SocketEvent Empty

def World.start : World := ⟨.new, []⟩

/-! ## Who is registered -/

def SocketPhase.conn : SocketPhase → Option Nat
  | connecting => none
  | registering conn | clearing conn | serving conn | reporting conn _ | removing conn
  | disconnecting conn | closed conn => some conn

/-- From the first half of `register_agent` to the first half of `remove_agent`. -/
def SocketPhase.registered : SocketPhase → Bool
  | clearing _ | serving _ | reporting _ _ | removing _ => true
  | connecting | registering _ | disconnecting _ | closed _ => false

/-- After the first half of `remove_agent`. -/
def SocketPhase.over : SocketPhase → Bool
  | disconnecting _ | closed _ => true
  | connecting | registering _ | clearing _ | serving _ | reporting _ _ | removing _ => false

/-- What a step of a socket does to the agents. -/
def Socket.agentLeases (p : InMemoryAgentProvider) (s : Socket) : List (Lease.Event Uuid Nat) :=
  match s.phase with
  | .registering conn => if p.agentsLocked then [] else [.acquire s.agentId conn]
  | .removing conn => if p.agentsLocked then [] else [.release s.agentId conn]
  | _ => []

/-- What it does to the ports, whose holder is what was reported. -/
def Socket.portLeases (s : Socket) : List (Lease.Event Uuid (List WorkspaceAgentListeningPort)) :=
  match s.phase with
  | .clearing _ | .disconnecting _ => [.revoke s.agentId]
  | .reporting _ ports => [.acquire s.agentId ports]
  | _ => []

/-- What a move does, by what the socket that takes its step does. -/
def leasesOf {τ : Type} (leases : InMemoryAgentProvider → Socket → List (Lease.Event Uuid τ))
    (w : World) : ProviderMove → List (Lease.Event Uuid τ)
  | .run k _ =>
    match w.tasks[k]? with
    | some s => leases w.shared s
    | none => []
  | _ => []

/-- The registrations and removals of a run, in order. -/
def history (moves : List ProviderMove) : List (Lease.Event Uuid Nat) :=
  Lease.trace program.step (leasesOf Socket.agentLeases) World.start moves

theorem history_concat (moves : List ProviderMove) (move : ProviderMove) :
    history (moves ++ [move]) =
      history moves ++ leasesOf Socket.agentLeases (program.run World.start moves) move :=
  Lease.trace_concat _ _ _ _ _

theorem lookup_insert_eq {ν : Type} (m : HashMap Uuid ν) (k : Uuid) (v : ν) :
    (fun q => (m.insert k v).lookup q) = Function.update (fun q => m.lookup q) k (some v) := by
  funext q
  rw [HashMap.lookup_insert_ite, Function.update_apply]

theorem lookup_erase_eq {ν : Type} (m : HashMap Uuid ν) (k : Uuid) :
    (fun q => (m.erase k).lookup q) = Function.update (fun q => m.lookup q) k none := by
  funext q
  rw [HashMap.lookup_erase_ite, Function.update_apply]

variable {p p' : InMemoryAgentProvider} {s s' : Socket} {event : SocketEvent}

/-- All that a step of a socket can do. -/
inductive Advances (p : InMemoryAgentProvider) (s : Socket) (event : SocketEvent) :
    InMemoryAgentProvider → Socket → Prop where
  | connect (hphase : s.phase = .connecting) :
    Advances p s event { p with connections := p.connections + 1 }
      { s with phase := .registering p.connections }
  | register {conn : Nat} (hphase : s.phase = .registering conn) (hlocked : p.agentsLocked = false) :
    Advances p s event { p with agents := p.agents.insert s.agentId conn }
      { s with phase := .clearing conn }
  | clear {conn : Nat} (hphase : s.phase = .clearing conn) :
    Advances p s event { p with listeningPorts := p.listeningPorts.erase s.agentId }
      { s with phase := .serving conn }
  | serve {conn : Nat} {phase : SocketPhase} (hphase : s.phase = .serving conn)
    (hnext : phase = .serving conn ∨ phase = .removing conn ∨ ∃ ports, phase = .reporting conn ports) :
    Advances p s event p { s with phase }
  | report {conn : Nat} {ports : List WorkspaceAgentListeningPort}
    (hphase : s.phase = .reporting conn ports) :
    Advances p s event { p with listeningPorts := p.listeningPorts.insert s.agentId ports }
      { s with phase := .serving conn }
  | remove {conn : Nat} (hphase : s.phase = .removing conn) (hlocked : p.agentsLocked = false)
    (hcurrent : p.agents.lookup s.agentId = some conn) :
    Advances p s event { p with agents := p.agents.erase s.agentId, agentsLocked := true }
      { s with phase := .disconnecting conn }
  | replaced {conn : Nat} (hphase : s.phase = .removing conn) (hlocked : p.agentsLocked = false)
    (hother : p.agents.lookup s.agentId ≠ some conn) :
    Advances p s event p { s with phase := .closed conn }
  | disconnect {conn : Nat} (hphase : s.phase = .disconnecting conn) :
    Advances p s event
      { p with listeningPorts := p.listeningPorts.erase s.agentId, agentsLocked := false }
      { s with phase := .closed conn }

theorem advances_of_advance (h : s.advance p event = some (p', s')) :
    Advances p s event p' s' := by
  cases hphase : s.phase with
  | connecting =>
    simp only [Socket.advance, hphase] at h
    cases h
    exact .connect hphase
  | registering conn =>
    simp only [Socket.advance, hphase] at h
    split at h
    next => cases h
    next hlocked =>
      cases h
      exact .register hphase (by simpa using hlocked)
  | clearing conn =>
    simp only [Socket.advance, hphase] at h
    cases h
    exact .clear hphase
  | serving conn =>
    simp only [Socket.advance, hphase] at h
    cases event with
    | reportListeningPorts ports =>
      cases h
      exact .serve hphase (.inr (.inr ⟨ports, rfl⟩))
    | other =>
      cases h
      exact @Advances.serve _ _ _ _ s.phase hphase (.inl hphase)
    | ends =>
      cases h
      exact .serve hphase (.inr (.inl rfl))
  | reporting conn ports =>
    simp only [Socket.advance, hphase] at h
    cases h
    exact .report hphase
  | removing conn =>
    simp only [Socket.advance, hphase] at h
    split at h
    next => cases h
    next hlocked =>
      have hlocked : p.agentsLocked = false := by simpa using hlocked
      split at h
      next hcurrent =>
        cases h
        exact .remove hphase hlocked hcurrent
      next hother =>
        cases h
        exact .replaced hphase hlocked hother
  | disconnecting conn =>
    simp only [Socket.advance, hphase] at h
    cases h
    exact .disconnect hphase
  | closed conn =>
    simp only [Socket.advance, hphase] at h
    cases h

theorem Advances.agents (h : Advances p s event p' s') :
    (fun a => p'.agents.lookup a) =
      (s.agentLeases p).foldl Lease.apply fun a => p.agents.lookup a := by
  cases h with
  | register hphase hlocked =>
    simp only [Socket.agentLeases, hphase, hlocked]
    exact lookup_insert_eq _ _ _
  | remove hphase hlocked hcurrent =>
    simp only [Socket.agentLeases, hphase, hlocked, Bool.false_eq_true, if_false, List.foldl_cons,
      List.foldl_nil, Lease.apply, hcurrent, if_true]
    exact lookup_erase_eq _ _
  | replaced hphase hlocked hother =>
    simp only [Socket.agentLeases, hphase, hlocked, Bool.false_eq_true, if_false, List.foldl_cons,
      List.foldl_nil, Lease.apply, hother]
  | connect hphase => simp only [Socket.agentLeases, hphase, List.foldl_nil]
  | clear hphase => simp only [Socket.agentLeases, hphase, List.foldl_nil]
  | serve hphase => simp only [Socket.agentLeases, hphase, List.foldl_nil]
  | report hphase => simp only [Socket.agentLeases, hphase, List.foldl_nil]
  | disconnect hphase => simp only [Socket.agentLeases, hphase, List.foldl_nil]

theorem Advances.ports (h : Advances p s event p' s') :
    (fun a => p'.listeningPorts.lookup a) =
      s.portLeases.foldl Lease.apply fun a => p.listeningPorts.lookup a := by
  cases h with
  | clear hphase =>
    simp only [Socket.portLeases, hphase]
    exact lookup_erase_eq _ _
  | report hphase =>
    simp only [Socket.portLeases, hphase]
    exact lookup_insert_eq _ _ _
  | disconnect hphase =>
    simp only [Socket.portLeases, hphase]
    exact lookup_erase_eq _ _
  | connect hphase => simp only [Socket.portLeases, hphase, List.foldl_nil]
  | register hphase => simp only [Socket.portLeases, hphase, List.foldl_nil]
  | serve hphase => simp only [Socket.portLeases, hphase, List.foldl_nil]
  | remove hphase => simp only [Socket.portLeases, hphase, List.foldl_nil]
  | replaced hphase => simp only [Socket.portLeases, hphase, List.foldl_nil]

/-- A socket that waits for the lock or is closed does nothing. -/
theorem leases_of_waiting (h : s.advance p event = none) :
    s.agentLeases p = [] ∧ s.portLeases = [] := by
  cases hphase : s.phase with
  | registering conn =>
    simp only [Socket.advance, hphase] at h
    split at h
    next hlocked => simp [Socket.agentLeases, Socket.portLeases, hphase, hlocked]
    next => cases h
  | removing conn =>
    simp only [Socket.advance, hphase] at h
    split at h
    next hlocked => simp [Socket.agentLeases, Socket.portLeases, hphase, hlocked]
    next => split at h <;> cases h
  | closed conn => simp [Socket.agentLeases, Socket.portLeases, hphase]
  | connecting => simp [Socket.advance, hphase] at h
  | clearing conn => simp [Socket.advance, hphase] at h
  | serving conn => cases event <;> simp [Socket.advance, hphase] at h
  | reporting conn ports => simp [Socket.advance, hphase] at h
  | disconnecting conn => simp [Socket.advance, hphase] at h

/-- All that a move can do. -/
inductive Steps (w : World) : ProviderMove → World → Prop where
  | idle {move : ProviderMove} (hagents : leasesOf Socket.agentLeases w move = [])
    (hports : leasesOf (fun _ => Socket.portLeases) w move = []) : Steps w move w
  | spawn (agentId : Uuid) :
    Steps w (.spawn agentId)
      { w with tasks := w.tasks ++ [{ agentId, phase := .connecting }] }
  | run {k : Nat} {event : SocketEvent} {s s' : Socket} {p' : InMemoryAgentProvider}
    (hs : w.tasks[k]? = some s) (h : Advances w.shared s event p' s') :
    Steps w (.run k event) ⟨p', w.tasks.set k s'⟩

theorem steps_step (w : World) (move : ProviderMove) : Steps w move (program.step w move) := by
  cases move with
  | spawn agentId => exact .spawn agentId
  | outside event => exact event.elim
  | run k event =>
    cases hs : w.tasks[k]? with
    | none =>
      simp only [Program.step, hs]
      exact .idle (by simp only [leasesOf, hs]) (by simp only [leasesOf, hs])
    | some s =>
      cases hnext : s.advance w.shared event with
      | none =>
        obtain ⟨hagents, hports⟩ := leases_of_waiting hnext
        simp only [Program.step, hs, program, hnext]
        exact .idle (by simp only [leasesOf, hs, hagents]) (by simp only [leasesOf, hs, hports])
      | some next =>
        obtain ⟨p', s'⟩ := next
        simp only [Program.step, hs, program, hnext]
        exact .run hs (advances_of_advance hnext)

theorem agents_step (w : World) (move : ProviderMove) :
    (fun a => (program.step w move).shared.agents.lookup a) =
      (leasesOf Socket.agentLeases w move).foldl Lease.apply fun a => w.shared.agents.lookup a := by
  have hsteps := steps_step w move
  generalize program.step w move = w' at hsteps
  cases hsteps with
  | idle hagents => rw [hagents, List.foldl_nil]
  | spawn agentId => rfl
  | run hs h =>
    simp only [leasesOf, hs]
    exact h.agents

theorem ports_step (w : World) (move : ProviderMove) :
    (fun a => (program.step w move).shared.listeningPorts.lookup a) =
      (leasesOf (fun _ => Socket.portLeases) w move).foldl Lease.apply
        fun a => w.shared.listeningPorts.lookup a := by
  have hsteps := steps_step w move
  generalize program.step w move = w' at hsteps
  cases hsteps with
  | idle _ hports => rw [hports, List.foldl_nil]
  | spawn agentId => rfl
  | run hs h =>
    simp only [leasesOf, hs]
    exact h.ports

/-- The table of the agents is what the registrations and removals make of it. -/
theorem agents_run (moves : List ProviderMove) (a : Uuid) :
    (program.run World.start moves).shared.agents.lookup a = Lease.holder (history moves) a :=
  congrFun (@Lease.view_foldl _ _ _ _ _ _ _ _ (fun w : World => fun a => w.shared.agents.lookup a)
    agents_step World.start moves) a

/-! ## Connections -/

/-- The sockets have connections of their own, and none that was not made. -/
def Socket.Made (p : InMemoryAgentProvider) (s : Socket) : Prop :=
  ∀ conn, s.phase.conn = some conn → conn < p.connections

def Socket.Apart (s t : Socket) : Prop :=
  ∀ conn, s.phase.conn = some conn → t.phase.conn ≠ some conn

abbrev Distinct (w : World) : Prop := Pool.Noninterfering Socket.Made Socket.Apart w

theorem Advances.conn (h : Advances p s event p' s') :
    (s.phase = .connecting ∧ p'.connections = p.connections + 1 ∧
        s'.phase.conn = some p.connections) ∨
      (p'.connections = p.connections ∧ s'.phase.conn = s.phase.conn) := by
  cases h with
  | connect hphase => exact .inl ⟨hphase, rfl, rfl⟩
  | register hphase => exact .inr ⟨rfl, by rw [hphase]; rfl⟩
  | clear hphase => exact .inr ⟨rfl, by rw [hphase]; rfl⟩
  | report hphase => exact .inr ⟨rfl, by rw [hphase]; rfl⟩
  | remove hphase => exact .inr ⟨rfl, by rw [hphase]; rfl⟩
  | replaced hphase => exact .inr ⟨rfl, by rw [hphase]; rfl⟩
  | disconnect hphase => exact .inr ⟨rfl, by rw [hphase]; rfl⟩
  | serve hphase hnext =>
    right
    obtain rfl | rfl | ⟨ports, rfl⟩ := hnext
    · exact ⟨rfl, by rw [hphase]⟩
    · exact ⟨rfl, by rw [hphase]; rfl⟩
    · exact ⟨rfl, by rw [hphase]; rfl⟩

theorem Advances.agentId (h : Advances p s event p' s') : s'.agentId = s.agentId := by
  cases h <;> rfl

theorem Distinct.step {w : World} (h : Distinct w) (move : ProviderMove) :
    Distinct (program.step w move) := by
  have hsteps := steps_step w move
  generalize program.step w move = w' at hsteps
  cases hsteps with
  | idle => exact h
  | spawn agentId =>
    have hnone : ∀ conn, ¬ (SocketPhase.connecting.conn = some conn) := by rintro conn ⟨⟩
    refine h.spawn (fun conn hconn => absurd hconn (hnone conn)) fun t _ => ⟨?_, ?_⟩
    · exact fun conn hconn => absurd hconn (hnone conn)
    · exact fun conn _ hconn => hnone conn hconn
  | @run k event s s' p' hs hadvances =>
    obtain ⟨-, hmade, hconn⟩ | ⟨hmade, hconn⟩ := hadvances.conn
    · refine h.run ?_ fun j t hj ht => ⟨?_, ?_, ?_⟩
      · intro conn hnew
        rw [hconn] at hnew
        cases hnew
        omega
      · intro conn hold
        have hlt := h.each j t ht conn hold
        omega
      · intro conn hnew hold
        rw [hconn] at hnew
        cases hnew
        exact Nat.lt_irrefl _ (h.each j t ht _ hold)
      · intro conn hold hnew
        rw [hconn] at hnew
        cases hnew
        exact Nat.lt_irrefl _ (h.each j t ht _ hold)
    · refine h.run ?_ fun j t hj ht => ⟨?_, ?_, ?_⟩
      · intro conn hsame
        rw [hmade]
        exact h.each k s hs conn (hconn ▸ hsame)
      · intro conn hold
        rw [hmade]
        exact h.each j t ht conn hold
      · intro conn hsame
        exact h.apart k j s t (Ne.symm hj) hs ht conn (hconn ▸ hsame)
      · intro conn hold
        rw [hconn]
        exact h.apart j k t s hj ht hs conn hold

theorem distinct_run (moves : List ProviderMove) : Distinct (program.run World.start moves) :=
  List.foldlRecOn moves _ (.empty _) fun _ h move _ => Distinct.step h move

/-- A socket for the agent has its connection registered. -/
def Socket.Holds (s : Socket) (a : Uuid) (conn : Nat) : Prop :=
  s.agentId = a ∧ s.phase.conn = some conn ∧ s.phase.registered = true

/-- A socket that goes on holding its agent, or that is not the one that takes the step. -/
theorem Advances.holds (h : Advances p s event p' s') {a : Uuid} {conn : Nat}
    (hheld : s.Holds a conn) (hfound : p'.agents.lookup a = some conn) : s'.Holds a conn := by
  obtain ⟨rfl, hconn, hregistered⟩ := hheld
  cases h with
  | connect hphase => simp [hphase, SocketPhase.registered] at hregistered
  | register hphase => simp [hphase, SocketPhase.registered] at hregistered
  | disconnect hphase => simp [hphase, SocketPhase.registered] at hregistered
  | clear hphase => exact ⟨rfl, by rw [← hconn, hphase]; rfl, rfl⟩
  | report hphase => exact ⟨rfl, by rw [← hconn, hphase]; rfl, rfl⟩
  | serve hphase hnext =>
    obtain rfl | rfl | ⟨ports, rfl⟩ := hnext
    · exact ⟨rfl, by rw [← hconn, hphase], rfl⟩
    · exact ⟨rfl, by rw [← hconn, hphase]; rfl, rfl⟩
    · exact ⟨rfl, by rw [← hconn, hphase]; rfl, rfl⟩
  | remove => rw [HashMap.lookup_erase_ite, if_pos rfl] at hfound; cases hfound
  | replaced hphase _ hother =>
    rw [hphase] at hconn
    cases hconn
    exact absurd hfound hother

/-- Only `register_agent` puts a connection into the table. -/
theorem Advances.found (h : Advances p s event p' s') {a : Uuid} {conn : Nat}
    (hfound : p'.agents.lookup a = some conn) :
    p.agents.lookup a = some conn ∨ s'.Holds a conn := by
  cases h with
  | register hphase =>
    rw [HashMap.lookup_insert_ite] at hfound
    split at hfound
    next ha =>
      cases hfound
      exact .inr ⟨ha.symm, rfl, rfl⟩
    next => exact .inl hfound
  | remove =>
    rw [HashMap.lookup_erase_ite] at hfound
    split at hfound
    · cases hfound
    · exact .inl hfound
  | connect => exact .inl hfound
  | clear => exact .inl hfound
  | serve => exact .inl hfound
  | report => exact .inl hfound
  | replaced => exact .inl hfound
  | disconnect => exact .inl hfound

/-- Every connection in the table is that of a socket that has not begun to remove it. -/
theorem holds_of_found (moves : List ProviderMove) {a : Uuid} {conn : Nat}
    (hfound : (program.run World.start moves).shared.agents.lookup a = some conn) :
    ∃ s ∈ (program.run World.start moves).tasks, s.Holds a conn := by
  induction moves using List.reverseRecOn with
  | nil => cases hfound
  | append_singleton moves move ih =>
    rw [Program.run_concat] at hfound ⊢
    have hsteps := steps_step (program.run World.start moves) move
    generalize program.step (program.run World.start moves) move = w' at hsteps hfound
    cases hsteps with
    | idle => exact ih hfound
    | spawn agentId =>
      obtain ⟨s, hs, hheld⟩ := ih hfound
      exact ⟨s, List.mem_append_left _ hs, hheld⟩
    | @run k event s s' p' hs hadvances =>
      obtain ⟨hk, -⟩ := List.getElem?_eq_some_iff.mp hs
      have hnew : s' ∈ (program.run World.start moves).tasks.set k s' :=
        List.mem_of_getElem? (List.getElem?_set_self hk)
      obtain hbefore | hheld := hadvances.found hfound
      · obtain ⟨t, ht, hheld⟩ := ih hbefore
        obtain ⟨j, hj⟩ := List.mem_iff_getElem?.mp ht
        by_cases hjk : j = k
        · subst hjk
          rw [hs] at hj
          cases hj
          exact ⟨s', hnew, hadvances.holds hheld hfound⟩
        · exact ⟨t, List.mem_of_getElem? ((List.getElem?_set_ne (Ne.symm hjk)).trans hj), hheld⟩
      · exact ⟨s', hnew, hheld⟩

theorem Advances.over (h : Advances p s event p' s') (hover : s.phase.over = true) :
    s'.phase.over = true ∧ s'.phase.conn = s.phase.conn := by
  cases h with
  | disconnect hphase => exact ⟨rfl, by rw [hphase]; rfl⟩
  | connect hphase => simp [hphase, SocketPhase.over] at hover
  | register hphase => simp [hphase, SocketPhase.over] at hover
  | clear hphase => simp [hphase, SocketPhase.over] at hover
  | serve hphase => simp [hphase, SocketPhase.over] at hover
  | report hphase => simp [hphase, SocketPhase.over] at hover
  | remove hphase => simp [hphase, SocketPhase.over] at hover
  | replaced hphase => simp [hphase, SocketPhase.over] at hover

/-- Who has released a connection is over. -/
theorem Advances.releases (h : Advances p s event p' s') {a : Uuid} {conn : Nat}
    (hrelease : .release a conn ∈ s.agentLeases p) :
    s'.phase.over = true ∧ s'.phase.conn = some conn := by
  cases h with
  | remove hphase hlocked =>
    simp only [Socket.agentLeases, hphase, hlocked, Bool.false_eq_true, if_false,
      List.mem_singleton, Lease.Event.release.injEq] at hrelease
    exact ⟨rfl, hrelease.2 ▸ rfl⟩
  | replaced hphase hlocked =>
    simp only [Socket.agentLeases, hphase, hlocked, Bool.false_eq_true, if_false,
      List.mem_singleton, Lease.Event.release.injEq] at hrelease
    exact ⟨rfl, hrelease.2 ▸ rfl⟩
  | register hphase hlocked => simp [Socket.agentLeases, hphase, hlocked] at hrelease
  | connect hphase => simp [Socket.agentLeases, hphase] at hrelease
  | clear hphase => simp [Socket.agentLeases, hphase] at hrelease
  | serve hphase => simp [Socket.agentLeases, hphase] at hrelease
  | report hphase => simp [Socket.agentLeases, hphase] at hrelease
  | disconnect hphase => simp [Socket.agentLeases, hphase] at hrelease

theorem over_of_release (moves : List ProviderMove) {a : Uuid} {conn : Nat}
    (hrelease : .release a conn ∈ history moves) :
    ∃ s ∈ (program.run World.start moves).tasks,
      s.phase.over = true ∧ s.phase.conn = some conn := by
  induction moves using List.reverseRecOn with
  | nil => cases hrelease
  | append_singleton moves move ih =>
    rw [history_concat, List.mem_append] at hrelease
    rw [Program.run_concat]
    have hsteps := steps_step (program.run World.start moves) move
    generalize program.step (program.run World.start moves) move = w' at hsteps
    cases hsteps with
    | idle hagents =>
      rw [hagents] at hrelease
      exact ih (hrelease.resolve_right List.not_mem_nil)
    | spawn agentId =>
      obtain ⟨s, hs, hover⟩ := ih (hrelease.resolve_right fun hnone => nomatch hnone)
      exact ⟨s, List.mem_append_left _ hs, hover⟩
    | @run k event s s' p' hs hadvances =>
      obtain ⟨hk, -⟩ := List.getElem?_eq_some_iff.mp hs
      have hnew : s' ∈ (program.run World.start moves).tasks.set k s' :=
        List.mem_of_getElem? (List.getElem?_set_self hk)
      obtain hbefore | hnow := hrelease
      · obtain ⟨t, ht, hover, hconn⟩ := ih hbefore
        obtain ⟨j, hj⟩ := List.mem_iff_getElem?.mp ht
        by_cases hjk : j = k
        · subst hjk
          rw [hs] at hj
          cases hj
          obtain ⟨hover', hconn'⟩ := hadvances.over hover
          exact ⟨s', hnew, hover', hconn'.trans hconn⟩
        · exact ⟨t, List.mem_of_getElem? ((List.getElem?_set_ne (Ne.symm hjk)).trans hj), hover, hconn⟩
      · simp only [leasesOf, hs] at hnow
        exact ⟨s', hnew, hadvances.releases hnow⟩

/-- Whoever asks for the connection of an agent finds that of the last socket that registered one,
if this socket has not removed it, and otherwise none. -/
theorem agents_lookup_iff (moves : List ProviderMove) (a : Uuid) (conn : Nat) :
    (program.run World.start moves).shared.getAgentConnection a = some conn ↔
      (∃ before after, history moves = before ++ .acquire a conn :: after ∧
        ∀ event ∈ after, event.displaces a = false) ∧
      ∃ s ∈ (program.run World.start moves).tasks, s.Holds a conn := by
  show (program.run World.start moves).shared.agents.lookup a = some conn ↔ _
  constructor
  · intro hfound
    refine ⟨?_, holds_of_found moves hfound⟩
    rw [agents_run, Lease.holder_eq_some_iff] at hfound
    obtain ⟨before, after, hsplit, hkept⟩ := hfound
    refine ⟨before, after, hsplit, fun event hevent => ?_⟩
    have hends := hkept event hevent
    cases event with
    | release k t => rfl
    | acquire k t => exact hends
    | revoke k => exact hends
  · rintro ⟨⟨before, after, hsplit, hlast⟩, s, hs, -, hconn, hregistered⟩
    rw [agents_run, Lease.holder_eq_some_iff]
    refine ⟨before, after, hsplit, fun event hevent => ?_⟩
    cases event with
    | acquire k t => exact hlast _ hevent
    | revoke k => exact hlast _ hevent
    | release k t =>
      -- a socket that has released the connection is not the one that holds it
      by_cases hsame : k = a ∧ t = conn
      · obtain ⟨rfl, rfl⟩ := hsame
        have hrelease : .release k t ∈ history moves := by
          rw [hsplit]
          exact List.mem_append_right _ (List.mem_cons_of_mem _ hevent)
        obtain ⟨t', ht', hover, hconn'⟩ := over_of_release moves hrelease
        obtain ⟨i, hi⟩ := List.mem_iff_getElem?.mp hs
        obtain ⟨j, hj⟩ := List.mem_iff_getElem?.mp ht'
        by_cases hij : i = j
        · subst hij
          rw [hi] at hj
          cases hj
          cases hphase : s.phase <;>
            simp [hphase, SocketPhase.over, SocketPhase.registered] at hover hregistered
        · exact absurd hconn' ((distinct_run moves).apart i j s t' hij hi hj t hconn)
      · simpa [Lease.Event.ends] using not_and.mp hsame

/-! ## Listening ports -/

/-- After the second half of `register_agent`. -/
def SocketPhase.cleared : SocketPhase → Bool
  | serving _ | reporting _ _ | removing _ | disconnecting _ | closed _ => true
  | connecting | registering _ | clearing _ => false

theorem Advances.cleared (h : Advances p s event p' s') (hafter : s'.phase.cleared = true) :
    s.phase.cleared = true ∨ .revoke s.agentId ∈ s.portLeases := by
  cases h with
  | clear hphase => exact .inr (by simp [Socket.portLeases, hphase])
  | connect => cases hafter
  | register => cases hafter
  | serve hphase => exact .inl (by rw [hphase]; rfl)
  | report hphase => exact .inl (by rw [hphase]; rfl)
  | remove hphase => exact .inl (by rw [hphase]; rfl)
  | replaced hphase => exact .inl (by rw [hphase]; rfl)
  | disconnect hphase => exact .inl (by rw [hphase]; rfl)

/-- What the moves `later` do to the ports. -/
def portHistory (first later : List ProviderMove) :
    List (Lease.Event Uuid (List WorkspaceAgentListeningPort)) :=
  Lease.trace program.step (leasesOf fun _ => Socket.portLeases) (program.run World.start first)
    later

theorem portHistory_concat (first later : List ProviderMove) (move : ProviderMove) :
    portHistory first (later ++ [move]) = portHistory first later ++
      leasesOf (fun _ => Socket.portLeases) (program.run World.start (first ++ later)) move := by
  rw [Program.run_append]
  exact Lease.trace_concat _ _ _ _ _

/-- A socket that has come through `register_agent` has cleared the ports of its agent. -/
theorem revoke_of_cleared (first later : List ProviderMove) {k : Nat} {s : Socket}
    (hbefore : ∀ s, (program.run World.start first).tasks[k]? = some s → s.phase.cleared = false)
    (hs : (program.run World.start (first ++ later)).tasks[k]? = some s)
    (hcleared : s.phase.cleared = true) : .revoke s.agentId ∈ portHistory first later := by
  induction later using List.reverseRecOn generalizing s with
  | nil =>
    rw [List.append_nil] at hs
    rw [hbefore s hs] at hcleared
    cases hcleared
  | append_singleton later move ih =>
    rw [← List.append_assoc, Program.run_concat] at hs
    rw [portHistory_concat, List.mem_append]
    have hsteps := steps_step (program.run World.start (first ++ later)) move
    generalize program.step (program.run World.start (first ++ later)) move = w' at hsteps hs
    cases hsteps with
    | idle => exact .inl (ih hs hcleared)
    | spawn agentId =>
      dsimp only at hs
      by_cases hk : k < (program.run World.start (first ++ later)).tasks.length
      · rw [List.getElem?_append_left hk] at hs
        exact .inl (ih hs hcleared)
      · rw [List.getElem?_append_right (by omega)] at hs
        obtain rfl := List.mem_singleton.mp (List.mem_of_getElem? hs)
        cases hcleared
    | @run j event t t' p' ht hadvances =>
      obtain ⟨rfl, rfl⟩ | ⟨hjk, hold⟩ := Pool.getElem?_set_cases hs
      · rw [hadvances.agentId]
        obtain hsame | hrevoke := hadvances.cleared hcleared
        · exact .inl (ih ht hsame)
        · refine .inr ?_
          simp only [leasesOf, ht]
          exact hrevoke
      · exact .inl (ih hold hcleared)

theorem ports_run (first later : List ProviderMove) (a : Uuid) :
    (program.run World.start (first ++ later)).shared.listeningPorts.lookup a =
      (portHistory first later).foldl Lease.apply
        (fun a => (program.run World.start first).shared.listeningPorts.lookup a) a := by
  rw [Program.run_append]
  exact congrFun (@Lease.view_foldl _ _ _ _ _ _ _ _
    (fun w : World => fun a => w.shared.listeningPorts.lookup a) ports_step
    (program.run World.start first) later) a

/-- Only the report of a socket puts ports into the table. -/
theorem reporting_of_acquire {w : World} {move : ProviderMove} {a : Uuid}
    {ports : List WorkspaceAgentListeningPort}
    (h : .acquire a ports ∈ leasesOf (fun _ => Socket.portLeases) w move) :
    ∃ j event conn, move = .run j event ∧ w.tasks[j]? = some ⟨a, .reporting conn ports⟩ := by
  cases move with
  | spawn agentId => cases h
  | outside event => exact event.elim
  | run j event =>
    simp only [leasesOf] at h
    cases ht : w.tasks[j]? with
    | none => simp [ht] at h
    | some t =>
      obtain ⟨agentId, phase⟩ := t
      simp only [ht, Socket.portLeases] at h
      cases phase with
      | reporting conn reported =>
        simp only [List.mem_singleton, Lease.Event.acquire.injEq] at h
        obtain ⟨rfl, rfl⟩ := h
        exact ⟨j, event, conn, rfl, ht⟩
      | connecting => simp at h
      | registering conn => simp at h
      | clearing conn => simp at h
      | serving conn => simp at h
      | removing conn => simp at h
      | disconnecting conn => simp at h
      | closed conn => simp at h

/-- Once a socket has come through `register_agent`, no port is served for its agent that was not
reported since the socket came. -/
theorem ports_reported_since (first later : List ProviderMove) (k : Nat) (s : Socket)
    (hbefore : (program.run World.start first).tasks.length ≤ k)
    (hs : (program.run World.start (first ++ later)).tasks[k]? = some s)
    (hcleared : s.phase.cleared = true) :
    ∀ port ∈ (program.run World.start (first ++ later)).shared.getListeningPorts s.agentId,
      ∃ mid j event rest conn ports, later = mid ++ .run j event :: rest ∧ port ∈ ports ∧
        (program.run World.start (first ++ mid)).tasks[j]? =
          some ⟨s.agentId, .reporting conn ports⟩ := by
  intro port hport
  have hrevoke := revoke_of_cleared first later (fun t ht => by
    rw [List.getElem?_eq_none hbefore] at ht
    cases ht) hs hcleared
  cases hlookup : (program.run World.start (first ++ later)).shared.listeningPorts.lookup
      s.agentId with
  | none =>
    rw [InMemoryAgentProvider.getListeningPorts, hlookup] at hport
    cases hport
  | some ports =>
    rw [InMemoryAgentProvider.getListeningPorts, hlookup] at hport
    rw [ports_run, Lease.foldl_apply_eq_some_iff] at hlookup
    obtain ⟨before, after, hsplit, -⟩ | ⟨-, hkept⟩ := hlookup
    · have hevent : .acquire s.agentId ports ∈ portHistory first later := by
        rw [hsplit]
        exact List.mem_append_right _ List.mem_cons_self
      obtain ⟨mid, move, rest, rfl, hmove⟩ := Lease.exists_of_mem_trace hevent
      obtain ⟨j, event, conn, rfl, htask⟩ := reporting_of_acquire hmove
      refine ⟨mid, j, event, rest, conn, ports, rfl, hport, ?_⟩
      rw [Program.run_append]
      exact htask
    · have hends := hkept _ hrevoke
      simp [Lease.Event.ends, Lease.Event.displaces] at hends

def sshPort : WorkspaceAgentListeningPort := ⟨"sshd", "tcp", 22⟩

/-- A socket comes, is registered and reports a port. -/
def visit : List ProviderMove :=
  [.spawn ⟨1⟩, .run 0 .other, .run 0 .other, .run 0 .other,
    .run 0 (.reportListeningPorts [sshPort]), .run 0 .other]

theorem ports_reported_since_visit :
    ∃ mid j event rest conn ports, visit = mid ++ .run j event :: rest ∧ sshPort ∈ ports ∧
      (program.run World.start mid).tasks[j]? = some ⟨⟨1⟩, .reporting conn ports⟩ :=
  ports_reported_since [] visit 0 ⟨⟨1⟩, .serving 0⟩ (by decide) (by decide) rfl sshPort (by decide)

/-! ## After the last socket -/

/-- Whoever stores its report is the one that is registered for the agent. -/
def reportsCurrent (w : World) : ProviderMove → Bool
  | .run k _ =>
    match w.tasks[k]? with
    | some ⟨agentId, .reporting conn _⟩ => w.shared.agents.lookup agentId = some conn
    | _ => true
  | _ => true

/-- Ports are only kept for an agent with a connection, or with a socket that is about to clear
them. -/
def Tidy (w : World) : Prop :=
  ∀ a ports, w.shared.listeningPorts.lookup a = some ports →
    (w.shared.agents.lookup a).isSome = true ∨
      ∃ (k : Nat) (conn : Nat), w.tasks[k]? = some ⟨a, .disconnecting conn⟩

theorem Tidy.run {w : World} (h : Tidy w) {k : Nat} (hs : w.tasks[k]? = some s)
    (hadvances : Advances w.shared s event p' s')
    (hcurrent : reportsCurrent w (.run k event) = true) : Tidy ⟨p', w.tasks.set k s'⟩ := by
  obtain ⟨hk, -⟩ := List.getElem?_eq_some_iff.mp hs
  intro a ports hports
  -- another socket that is about to clear the ports is still there
  have hother {j conn : Nat} (hj : w.tasks[j]? = some ⟨a, .disconnecting conn⟩)
      (hne : ∀ conn, s.phase = .disconnecting conn → s.agentId ≠ a) :
      (w.tasks.set k s')[j]? = some ⟨a, .disconnecting conn⟩ := by
    have hjk : j ≠ k := by
      rintro rfl
      rw [hs] at hj
      cases hj
      exact hne conn rfl rfl
    exact (List.getElem?_set_ne hjk.symm).trans hj
  have hkept (hbefore : w.shared.listeningPorts.lookup a = some ports)
      (hagents : p'.agents.lookup a = w.shared.agents.lookup a)
      (hne : ∀ conn, s.phase = .disconnecting conn → s.agentId ≠ a) :
      (p'.agents.lookup a).isSome = true ∨
        ∃ (j : Nat) (conn : Nat), (w.tasks.set k s')[j]? = some ⟨a, .disconnecting conn⟩ := by
    rw [hagents]
    refine (h a ports hbefore).imp_right ?_
    rintro ⟨j, conn, hj⟩
    exact ⟨j, conn, hother hj hne⟩
  cases hadvances with
  | connect hphase => exact hkept hports rfl (by simp [hphase])
  | serve hphase => exact hkept hports rfl (by simp [hphase])
  | replaced hphase => exact hkept hports rfl (by simp [hphase])
  | clear hphase =>
    rw [HashMap.lookup_erase_ite] at hports
    split at hports
    · cases hports
    · exact hkept hports rfl (by simp [hphase])
  | disconnect hphase =>
    rw [HashMap.lookup_erase_ite] at hports
    split at hports
    next => cases hports
    next ha => exact hkept hports rfl fun _ _ hsame => ha hsame.symm
  | register hphase =>
    by_cases ha : a = s.agentId
    · left
      simp [HashMap.lookup_insert_ite, ha]
    · refine hkept hports ?_ (by simp [hphase])
      rw [HashMap.lookup_insert_ite, if_neg ha]
  | remove hphase =>
    by_cases ha : a = s.agentId
    · subst ha
      exact .inr ⟨k, _, List.getElem?_set_self hk⟩
    · refine hkept hports ?_ (by simp [hphase])
      rw [HashMap.lookup_erase_ite, if_neg ha]
  | report hphase =>
    rw [HashMap.lookup_insert_ite] at hports
    split at hports
    next ha =>
      obtain ⟨agentId, phase⟩ := s
      cases hphase
      left
      rw [ha]
      simp only [reportsCurrent, hs, decide_eq_true_eq] at hcurrent
      rw [hcurrent]
      rfl
    next => exact hkept hports rfl (by simp [hphase])

theorem Tidy.step {w : World} (h : Tidy w) {move : ProviderMove}
    (hcurrent : reportsCurrent w move = true) : Tidy (program.step w move) := by
  have hsteps := steps_step w move
  generalize program.step w move = w' at hsteps
  cases hsteps with
  | idle => exact h
  | run hs hadvances => exact h.run hs hadvances hcurrent
  | spawn agentId =>
    intro a ports hports
    refine (h a ports hports).imp_right ?_
    rintro ⟨k, conn, hk⟩
    obtain ⟨hlt, -⟩ := List.getElem?_eq_some_iff.mp hk
    exact ⟨k, conn, (List.getElem?_append_left hlt).trans hk⟩

/-- If reports are only stored for connections that are registered, nothing is left of an agent
whose sockets are all closed. -/
theorem closed_leaves_nothing (moves : List ProviderMove)
    (hcurrent : Along program.step (fun w move => reportsCurrent w move = true) World.start moves)
    (a : Uuid)
    (hclosed : ∀ s ∈ (program.run World.start moves).tasks, s.agentId = a →
      ∃ conn, s.phase = .closed conn) :
    (program.run World.start moves).shared.getAgentConnection a = none ∧
      (program.run World.start moves).shared.getListeningPorts a = [] := by
  have hnone : (program.run World.start moves).shared.agents.lookup a = none := by
    rw [Option.eq_none_iff_forall_not_mem]
    intro conn hfound
    obtain ⟨s, hs, ha, -, hregistered⟩ := holds_of_found moves hfound
    obtain ⟨conn', hphase⟩ := hclosed s hs ha
    rw [hphase] at hregistered
    cases hregistered
  refine ⟨hnone, ?_⟩
  have htidy : Tidy (program.run World.start moves) :=
    Along.invariant (I := Tidy) (fun _ _ h hok => h.step hok) (fun _ _ hports => by cases hports)
      hcurrent
  rw [InMemoryAgentProvider.getListeningPorts]
  cases hports : (program.run World.start moves).shared.listeningPorts.lookup a with
  | none => rfl
  | some ports =>
    exfalso
    obtain hsome | ⟨k, conn, hk⟩ := htidy a ports hports
    · rw [hnone] at hsome
      cases hsome
    · obtain ⟨conn', hphase⟩ := hclosed _ (List.mem_of_getElem? hk) rfl
      cases hphase

/-- The socket of the visit comes to its end. -/
def leave : List ProviderMove := [.run 0 .ends, .run 0 .other, .run 0 .other]

theorem closed_leaves_nothing_leave :
    (program.run World.start visit).shared.getAgentConnection ⟨1⟩ = some 0 ∧
      (program.run World.start (visit ++ leave)).shared.getAgentConnection ⟨1⟩ = none ∧
      (program.run World.start (visit ++ leave)).shared.getListeningPorts ⟨1⟩ = [] :=
  ⟨by decide, closed_leaves_nothing (visit ++ leave) (by decide) ⟨1⟩ (by
    intro s hs _
    obtain rfl : s = ⟨⟨1⟩, .closed 0⟩ := by
      have htasks : (program.run World.start (visit ++ leave)).tasks = [⟨⟨1⟩, .closed 0⟩] := by
        decide
      rw [htasks] at hs
      exact List.mem_singleton.mp hs
    exact ⟨0, rfl⟩)⟩

/-- A second socket takes over, is gone again, and then the first one, which nobody knows any
longer, stores a report: it stays when both are closed. -/
example :
    let moves := visit ++ [.spawn ⟨1⟩, .run 1 .other, .run 1 .other, .run 1 .other, .run 1 .ends,
      .run 1 .other, .run 1 .other, .run 0 (.reportListeningPorts [sshPort]), .run 0 .other,
      .run 0 .ends, .run 0 .other]
    (program.run World.start moves).tasks = [⟨⟨1⟩, .closed 0⟩, ⟨⟨1⟩, .closed 1⟩] ∧
      (program.run World.start moves).shared.getAgentConnection ⟨1⟩ = none ∧
      (program.run World.start moves).shared.getListeningPorts ⟨1⟩ = [sshPort] := by decide

end Coderd.Agents
