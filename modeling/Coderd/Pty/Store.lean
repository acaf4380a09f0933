import Coderd.CryptoKeys.Rotator
import Coderd.Foundation.HashMap
import Coderd.Foundation.Interleaving
import Coderd.Foundation.Uuid

namespace Coderd.Pty

open Coderd.Foundation
open CryptoKeys (Duration)

/-! ## Sessions and the store -/

structure ReconnectingPtyOptions where
  agentGrace : Duration
  idleTimeout : Duration

instance : Inhabited ReconnectingPtyOptions where
  default := { agentGrace := .fromSecs 60, idleTimeout := .fromSecs 3600 }

inductive ReconnectingPtyError where
  | agentMismatch
  | closed
  deriving DecidableEq

/-- Instants are readings of the monotone clock in nanoseconds. -/
structure Session where
  agentId : Uuid
  lastActivity : Nat
  readers : Nat
  writers : Nat
  graceDeadline : Option Nat

def Session.new (agentId : Uuid) (now : Nat) : Session where
  agentId := agentId
  lastActivity := now
  readers := 0
  writers := 0
  graceDeadline := none

/-- The store, the clock, and the sessions that were ever made: a reference to one is its place
among them. The map is locked for writing within one step only, but for reading as long as a
pruner scans it. -/
structure Store where
  options : ReconnectingPtyOptions
  now : Nat
  sessions : HashMap Uuid Nat
  made : List Session
  scanners : Nat

namespace Store

def withOptions (options : ReconnectingPtyOptions) : Store where
  options := options
  now := 0
  sessions := ∅
  made := []
  scanners := 0

def modify (store : Store) (arc : Nat) (f : Session → Session) : Store :=
  { store with made := store.made.modify arc f }

/-- The session of a reconnect id, unless another agent's. -/
def get (store : Store) (reconnectId agentId : Uuid) :
    Option (Except ReconnectingPtyError Nat) :=
  (store.sessions.lookup reconnectId).bind fun arc =>
    (store.made[arc]?).map fun existing =>
      if existing.agentId ≠ agentId then .error .agentMismatch else .ok arc

def insert (store : Store) (reconnectId agentId : Uuid) : Store :=
  { store with
    sessions := store.sessions.insert reconnectId store.made.length
    made := store.made ++ [.new agentId store.now] }

def remove (store : Store) (reconnectIds : List Uuid) : Store :=
  { store with
    sessions := reconnectIds.foldl (fun sessions id => sessions.erase id) store.sessions }

end Store

/-- A grace window that is over at `now`. -/
def Session.expired (session : Session) (now : Nat) : Bool :=
  match session.graceDeadline with
  | some deadline => deadline ≤ now
  | none => false

/-! ## Attaching and detaching -/

inductive Side where
  | client
  | agent
  deriving DecidableEq

/-- Where `attach_client` or `attach_agent` is, its guard, or the task that the guard's drop
has spawned. A right-hand side that reads the clock does so before the lock is taken. -/
inductive Phase where
  /-- `get_or_create`, about to read the map. -/
  | lookup
  | clock (arc : Nat)
  | checkGrace (arc now : Nat)
  /-- About to remove the expired session. -/
  | expire
  /-- About to look again, under the write lock. -/
  | create
  /-- This one, like the two of the grace window, is an agent's phase only. -/
  | clearGrace (arc : Nat)
  /-- About to count the guard among the readers or writers. -/
  | join (arc : Nat)
  | touchClock (arc : Nat)
  | touch (arc now : Nat)
  /-- The guard is alive. -/
  | attached (arc : Nat)
  /-- The guard has been dropped, and its task is about to take it out of the count. -/
  | leave (arc : Nat)
  | leftClock (arc remaining : Nat)
  | left (arc remaining now : Nat)
  | graceClock (arc : Nat)
  | setGrace (arc now : Nat)
  | returned (result : Except ReconnectingPtyError Unit)

structure Attach where
  side : Side
  reconnectId : Uuid
  agentId : Uuid
  phase : Phase

namespace Attach

def goto (a : Attach) (phase : Phase) : Attach := { a with phase }

/-- What comes after `get_or_create`. -/
def use (a : Attach) (arc : Nat) : Attach :=
  match a.side with
  | .client => a.goto (.join arc)
  | .agent => a.goto (.clearGrace arc)

def advance (store : Store) (a : Attach) : Option (Store × Attach) :=
  match a.phase with
  | .lookup =>
    match store.get a.reconnectId a.agentId with
    | some (.ok arc) => some (store, a.goto (.clock arc))
    | some (.error e) => some (store, a.goto (.returned (.error e)))
    | none => some (store, a.goto .create)
  | .clock arc => some (store, a.goto (.checkGrace arc store.now))
  | .checkGrace arc now =>
    (store.made[arc]?).map fun existing =>
      (store, if existing.expired now then a.goto .expire else a.use arc)
  | .expire =>
    if store.scanners = 0 then
      some (store.remove [a.reconnectId], a.goto (.returned (.error .closed)))
    else
      none
  | .create =>
    if store.scanners = 0 then
      match store.get a.reconnectId a.agentId with
      | some (.ok arc) => some (store, a.use arc)
      | some (.error e) => some (store, a.goto (.returned (.error e)))
      | none => some (store.insert a.reconnectId a.agentId, a.use store.made.length)
    else
      none
  | .clearGrace arc =>
    match a.side with
    | .client => none
    | .agent =>
      some (store.modify arc fun session => { session with graceDeadline := none },
        a.goto (.join arc))
  | .join arc =>
    match a.side with
    | .client =>
      some (store.modify arc fun session => { session with readers := session.readers + 1 },
        a.goto (.touchClock arc))
    | .agent =>
      some (store.modify arc fun session => { session with writers := session.writers + 1 },
        a.goto (.touchClock arc))
  | .touchClock arc => some (store, a.goto (.touch arc store.now))
  | .touch arc now =>
    some (store.modify arc fun session => { session with lastActivity := now },
      a.goto (.attached arc))
  | .attached arc => some (store, a.goto (.leave arc))
  | .leave arc =>
    match a.side with
    | .client =>
      (store.made[arc]?).map fun session =>
        (store.modify arc fun session => { session with readers := session.readers - 1 },
          a.goto (.leftClock arc (session.readers - 1)))
    | .agent =>
      (store.made[arc]?).map fun session =>
        (store.modify arc fun session => { session with writers := session.writers - 1 },
          a.goto (.leftClock arc (session.writers - 1)))
  | .leftClock arc remaining => some (store, a.goto (.left arc remaining store.now))
  | .left arc remaining now =>
    some (store.modify arc fun session => { session with lastActivity := now },
      if a.side = .agent ∧ remaining = 0 then a.goto (.graceClock arc)
      else a.goto (.returned (.ok ())))
  | .graceClock arc => some (store, a.goto (.setGrace arc store.now))
  | .setGrace arc now =>
    match a.side with
    | .client => none
    | .agent =>
      some (store.modify arc fun session =>
          { session with graceDeadline := some (now + store.options.agentGrace.nanos) },
        a.goto (.returned (.ok ())))
  | .returned _ => none

end Attach

/-! ## Pruning -/

/-- The loop of `prune`: the time it has read, the sessions it has still to look at, in the
order of the map's iterator, and the ids it has collected. -/
structure Scan where
  now : Nat
  todo : List (Uuid × Nat)
  toRemove : List Uuid

def Scan.collect (scan : Scan) (id : Uuid) : Scan :=
  { scan with toRemove := scan.toRemove ++ [id] }

inductive Prune where
  | clock
  | lock (now : Nat)
  /-- Between two sessions. -/
  | next (scan : Scan)
  | readers (scan : Scan) (id : Uuid) (arc : Nat)
  | writers (scan : Scan) (id : Uuid) (arc readerCount : Nat)
  | lastActivity (scan : Scan) (id : Uuid) (arc readerCount writerCount : Nat)
  | remove (toRemove : List Uuid)
  | returned

namespace Prune

/-- The map's iterator may yield the sessions in any order: `choice` is the place of the next
one among those that are left. -/
def advance (store : Store) (choice : Nat) : Prune → Option (Store × Prune)
  | clock => some (store, .lock store.now)
  | lock now =>
    some ({ store with scanners := store.scanners + 1 },
      .next { now, todo := store.sessions.entries.map fun e => (e.1, e.2), toRemove := [] })
  | next scan =>
    match scan.todo[choice]? with
    | some (id, arc) =>
      (store.made[arc]?).map fun session =>
        let scan := { scan with todo := scan.todo.eraseIdx choice }
        (store, if session.expired scan.now then .next (scan.collect id)
          else .readers scan id arc)
    | none =>
      if scan.todo = [] then
        some ({ store with scanners := store.scanners - 1 },
          if scan.toRemove = [] then .returned else .remove scan.toRemove)
      else
        none
  | readers scan id arc =>
    (store.made[arc]?).map fun session => (store, .writers scan id arc session.readers)
  | writers scan id arc readerCount =>
    (store.made[arc]?).map fun session =>
      (store, .lastActivity scan id arc readerCount session.writers)
  | lastActivity scan id arc readerCount writerCount =>
    (store.made[arc]?).map fun session =>
      (store,
        if readerCount = 0 ∧ writerCount = 0 ∧
            store.options.idleTimeout.nanos ≤ scan.now - session.lastActivity then
          .next (scan.collect id)
        else
          .next scan)
  | remove toRemove =>
    if store.scanners = 0 then some (store.remove toRemove, .returned) else none
  | returned => none

end Prune

/-! ## The tasks of a store -/

inductive Task where
  | attach (a : Attach)
  | prune (p : Prune)

inductive Op where
  | attachClient (reconnectId agentId : Uuid)
  | attachAgent (reconnectId agentId : Uuid)
  | prune

/-- The tasks of a store, cut at their locks and clock readings; what comes from outside is
that time passes. -/
def program : Program Store Task Op Nat Nat where
  enter
    | .attachClient reconnectId agentId =>
      .attach { side := .client, reconnectId, agentId, phase := .lookup }
    | .attachAgent reconnectId agentId =>
      .attach { side := .agent, reconnectId, agentId, phase := .lookup }
    | .prune => .prune .clock
  advance store task choice :=
    match task with
    | .attach a => (a.advance store).map fun next => (next.1, .attach next.2)
    | .prune p => (p.advance store choice).map fun next => (next.1, .prune next.2)
  outside store delay := { store with now := store.now + delay }

def start (options : ReconnectingPtyOptions) : Pool Store Task where
  shared := .withOptions options
  tasks := []

end Coderd.Pty
