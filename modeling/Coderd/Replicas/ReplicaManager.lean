import Coderd.CryptoKeys.Rotator
import Coderd.Foundation.Interleaving
import Coderd.Foundation.Uuid

namespace Coderd.Replicas

open Coderd.Foundation
open Coderd.CryptoKeys

/-! ## The table -/

/-- A row of `replicas`, without its id. -/
structure ReplicaRow where
  proxyId : Option Uuid
  hostname : String
  relayAddress : String
  regionId : Int
  version : String
  error : String
  databaseLatency : Int
  primaryReplica : Bool
  startedAt : OffsetDateTime
  stoppedAt : Option OffsetDateTime
  createdAt : OffsetDateTime
  updatedAt : OffsetDateTime

abbrev ReplicaTable := HashMap Uuid ReplicaRow

structure InsertCoderdReplicaInput where
  id : Uuid
  hostname : String
  relayAddress : String
  regionId : Int
  version : String
  databaseLatency : Int
  createdAt : OffsetDateTime
  startedAt : OffsetDateTime
  updatedAt : OffsetDateTime

def InsertCoderdReplicaInput.row (input : InsertCoderdReplicaInput) : ReplicaRow where
  proxyId := none
  hostname := input.hostname
  relayAddress := input.relayAddress
  regionId := input.regionId
  version := input.version
  error := ""
  databaseLatency := input.databaseLatency
  primaryReplica := true
  startedAt := input.startedAt
  stoppedAt := none
  createdAt := input.createdAt
  updatedAt := input.updatedAt

namespace ReplicaTable

variable (table : ReplicaTable)

/-- The id is the primary key. -/
def insertCoderdReplica (input : InsertCoderdReplicaInput) :
    Except StorageError ReplicaRow × ReplicaTable :=
  match table.lookup input.id with
  | some _ =>
    (.error (.unavailable ("error returned from database: " ++
      "duplicate key value violates unique constraint \"replicas_pkey\"")), table)
  | none => (.ok input.row, table.insert input.id input.row)

def refreshCoderdReplica (id : Uuid) (updatedAt : OffsetDateTime) : Bool × ReplicaTable :=
  match (table.lookup id).filter fun row => row.proxyId.isNone && row.stoppedAt.isNone with
  | some row => (true, table.insert id { row with updatedAt })
  | none => (false, table)

def deleteCoderdReplica (id : Uuid) : Bool × ReplicaTable :=
  match (table.lookup id).filter fun row => row.proxyId.isNone with
  | some _ => (true, table.erase id)
  | none => (false, table)

def pruneStaleCoderdReplicas (olderThan : OffsetDateTime) : Nat × ReplicaTable :=
  let kept := table.retain fun _ row => !(row.proxyId.isNone && decide (row.updatedAt < olderThan))
  (table.entries.length - kept.entries.length, kept)

end ReplicaTable

/-! ## Intervals -/

def minUpdateInterval : Duration := ⟨10 * 10 ^ 6, by decide⟩

def staleMultiplier : Nat := 3

def staleCutoff (updateInterval : Duration) : Int :=
  durationToTimeDuration (updateInterval.saturatingMul staleMultiplier)

/-! ## Replicas -/

structure ReplicaManagerOptions where
  id : Uuid
  hostname : String
  relayAddress : String
  regionId : Int
  version : String
  updateInterval : Duration

/-- Where `start` is, and after it `shutdown`: at the read of the clock or at the insert; the
handle is held; at the join of the task or at the delete. -/
inductive Manager where
  | starting
  | registering (now : OffsetDateTime)
  | failed (e : StorageError)
  | running
  | joining
  | deleting
  | stopped
  | dropped

/-- Where the task of the heartbeat is: it is not spawned yet, waits for its timer, is at one of
the two calls of a cycle, or has ended. -/
inductive Heartbeat where
  | idle
  | waiting
  | refreshing (now : OffsetDateTime)
  | pruning (now : OffsetDateTime)
  | ended
  deriving DecidableEq

structure Replica where
  options : ReplicaManagerOptions
  manager : Manager
  cancelled : Bool
  heartbeat : Heartbeat

/-- Who goes on: the calls of the handle, the task of the heartbeat, or the handle is dropped. -/
inductive Party where
  | manager | heartbeat | drop
  deriving DecidableEq

/-- What the code does not decide: who goes on, the clock, whether the timer has fired, the latency
that the ping has measured, and the error of a call that fails without effect. -/
structure Choice where
  party : Party
  now : OffsetDateTime
  ticked : Bool
  latency : Int
  fails : Option StorageError

namespace Replica

variable (r : Replica)

def updateInterval : Duration :=
  if r.options.updateInterval.nanos ≤ minUpdateInterval.nanos then minUpdateInterval
  else r.options.updateInterval

/-- What a cycle that started at `now` prunes; `none` where the crate panics. -/
def threshold (now : OffsetDateTime) : Option OffsetDateTime :=
  now.add (-staleCutoff r.updateInterval)

def input (now : OffsetDateTime) (latency : Int) : InsertCoderdReplicaInput where
  id := r.options.id
  hostname := r.options.hostname
  relayAddress := r.options.relayAddress
  regionId := r.options.regionId
  version := r.options.version
  databaseLatency := latency
  createdAt := now
  startedAt := now
  updatedAt := now

def enter (options : ReplicaManagerOptions) : Replica where
  options := options
  manager := .starting
  cancelled := false
  heartbeat := .idle

/-- `ReplicaManager::start`, and `shutdown`, which can be called more than once. -/
def advanceManager (table : ReplicaTable) (choice : Choice) : Option (ReplicaTable × Replica) :=
  match r.manager with
  | .starting => some (table, { r with manager := .registering choice.now })
  | .registering now =>
    match choice.fails with
    | some e => some (table, { r with manager := .failed e })
    | none =>
      match table.insertCoderdReplica (r.input now choice.latency) with
      | (.error e, table) => some (table, { r with manager := .failed e })
      | (.ok _, table) =>
        some (table, { r with
          manager := .running
          heartbeat := .waiting })
  | .running =>
    some (table, { r with
      manager := .joining
      cancelled := true })
  | .joining =>
    match r.heartbeat with
    | .ended => some (table, { r with manager := .deleting })
    | _ => none
  | .deleting =>
    match choice.fails with
    | some _ => some (table, { r with manager := .stopped })
    | none => some ((table.deleteCoderdReplica r.options.id).2, { r with manager := .stopped })
  | .stopped => some (table, { r with manager := .deleting })
  | .failed _ | .dropped => none

/-- `run_heartbeat_loop` with `refresh_and_prune`. Of the two branches of the `select!` either is
taken where both are ready. -/
def advanceHeartbeat (table : ReplicaTable) (choice : Choice) : Option (ReplicaTable × Replica) :=
  match r.heartbeat with
  | .waiting =>
    if choice.ticked then some (table, { r with heartbeat := .refreshing choice.now })
    else if r.cancelled then some (table, { r with heartbeat := .ended })
    else none
  | .refreshing now =>
    match choice.fails with
    | some _ => some (table, { r with heartbeat := .waiting })
    | none =>
      -- where there is no row to refresh, a warning is logged
      some ((table.refreshCoderdReplica r.options.id now).2, { r with heartbeat := .pruning now })
  | .pruning now =>
    match r.threshold now with
    | none => some (table, { r with heartbeat := .ended })
    | some threshold =>
      match choice.fails with
      | some _ => some (table, { r with heartbeat := .waiting })
      | none =>
        some ((table.pruneStaleCoderdReplicas threshold).2, { r with heartbeat := .waiting })
  | .idle | .ended => none

def advance (table : ReplicaTable) (r : Replica) (choice : Choice) :
    Option (ReplicaTable × Replica) :=
  match choice.party with
  | .manager => r.advanceManager table choice
  | .heartbeat => r.advanceHeartbeat table choice
  | .drop =>
    match r.manager with
    | .running | .stopped =>
      some (table, { r with
        manager := .dropped
        cancelled := true })
    | _ => none

end Replica

/-- Any number of replicas on one table. -/
def fleet : Program ReplicaTable Replica ReplicaManagerOptions Choice Empty where
  enter := Replica.enter
  advance := Replica.advance
  outside table _ := table

abbrev fleetAfter (table : ReplicaTable) (moves : List (Move ReplicaManagerOptions Choice Empty)) :
    Pool ReplicaTable Replica :=
  fleet.run { shared := table, tasks := [] } moves

/-! ## What a step can do -/

/-- The cycle of the replica that started at `now` prunes, and returns after that. -/
structure Replica.Prunes (r : Replica) (choice : Choice) (now threshold : OffsetDateTime) : Prop where
  party : choice.party = .heartbeat
  heartbeat : r.heartbeat = .pruning now
  cutoff : r.threshold now = some threshold
  fails : choice.fails = none

/-- The delete at the end of `shutdown`. -/
structure Replica.Deletes (r : Replica) (choice : Choice) : Prop where
  party : choice.party = .manager
  manager : r.manager = .deleting
  fails : choice.fails = none

/-- The table after a step: as before, or with the one write of the replica. -/
inductive Effect (table : ReplicaTable) (r : Replica) (choice : Choice) : ReplicaTable → Prop where
  | none : Effect table r choice table
  | insert {now : OffsetDateTime} (hmanager : r.manager = .registering now)
      (hfree : table.lookup r.options.id = .none) :
    Effect table r choice (table.insert r.options.id (r.input now choice.latency).row)
  | refresh {now : OffsetDateTime} {row : ReplicaRow} (hheartbeat : r.heartbeat = .refreshing now)
      (hrow : table.lookup r.options.id = some row) :
    Effect table r choice (table.insert r.options.id { row with updatedAt := now })
  | delete (hdeletes : r.Deletes choice) : Effect table r choice (table.erase r.options.id)
  | prune {now threshold : OffsetDateTime} (hprunes : r.Prunes choice now threshold) :
    Effect table r choice (table.pruneStaleCoderdReplicas threshold).2

variable {table table' : ReplicaTable} {r r' : Replica} {choice : Choice}

theorem effect_of_advance (h : r.advance table choice = some (table', r')) :
    Effect table r choice table' := by
  unfold Replica.advance at h
  split at h
  · rename_i hparty
    unfold Replica.advanceManager at h
    split at h
    · cases h
      exact .none
    · rename_i now hmanager
      split at h
      · cases h
        exact .none
      · simp only [ReplicaTable.insertCoderdReplica] at h
        split at h
        · rename_i hinsert
          split at hinsert <;> cases hinsert
          cases h
          exact .none
        · rename_i hinsert
          split at hinsert <;> cases hinsert
          rename_i hfree
          cases h
          exact .insert hmanager hfree
    · cases h
      exact .none
    · split at h <;> cases h
      exact .none
    · rename_i hmanager
      split at h
      · cases h
        exact .none
      · rename_i hfails
        cases h
        simp only [ReplicaTable.deleteCoderdReplica]
        split
        · exact .delete ⟨hparty, hmanager, hfails⟩
        · exact .none
    · cases h
      exact .none
    · cases h
    · cases h
  · rename_i hparty
    unfold Replica.advanceHeartbeat at h
    split at h
    · split at h
      · cases h
        exact .none
      · split at h <;> cases h
        exact .none
    · rename_i now hheartbeat
      split at h
      · cases h
        exact .none
      · cases h
        simp only [ReplicaTable.refreshCoderdReplica]
        split
        · rename_i row hrow
          exact .refresh hheartbeat (Option.filter_eq_some_iff.mp hrow).1
        · exact .none
    · rename_i now hheartbeat
      split at h
      · cases h
        exact .none
      · rename_i threshold hcutoff
        split at h
        · cases h
          exact .none
        · rename_i hfails
          cases h
          exact .prune ⟨hparty, hheartbeat, hcutoff, hfails⟩
    · cases h
    · cases h
  · split at h <;> cases h <;> exact .none

theorem options_advance (h : r.advance table choice = some (table', r')) :
    r'.options = r.options := by
  unfold Replica.advance Replica.advanceManager Replica.advanceHeartbeat at h
  repeat' split at h
  all_goals cases h
  all_goals rfl

end Coderd.Replicas
