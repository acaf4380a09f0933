import Coderd.Replicas.ReplicaManager

namespace Coderd.Replicas

open Coderd.Foundation
open Coderd.CryptoKeys

/-! ## What is claimed -/

/-- The task of the heartbeat is there. -/
def Replica.Runs (r : Replica) : Prop := r.heartbeat ≠ .idle ∧ r.heartbeat ≠ .ended

/-- A cycle of the replica that started at `now` returns `Ok`. -/
def Beats (w : Pool ReplicaTable Replica) (move : Move ReplicaManagerOptions Choice Empty)
    (id : Uuid) (now : OffsetDateTime) : Prop :=
  ∃ i choice r threshold, move = .run i choice ∧ w.tasks[i]? = some r ∧ r.options.id = id ∧
    r.Prunes choice now threshold

/-- The row of the replica is deleted by its `shutdown`. -/
def ShutsDown (w : Pool ReplicaTable Replica) (move : Move ReplicaManagerOptions Choice Empty)
    (id : Uuid) : Prop :=
  ∃ i choice r, move = .run i choice ∧ w.tasks[i]? = some r ∧ r.options.id = id ∧
    r.Deletes choice ∧ (w.shared.deleteCoderdReplica id).1 = true

/-- No replica prunes the row of another one that runs, and each has an id of its own. -/
def Spares (w : Pool ReplicaTable Replica) : Move ReplicaManagerOptions Choice Empty → Prop
  | .spawn options => ∀ r ∈ w.tasks, r.options.id ≠ options.id
  | .run i choice => ∀ r now threshold j r' row, w.tasks[i]? = some r →
    r.Prunes choice now threshold → j ≠ i → w.tasks[j]? = some r' → r'.Runs →
      w.shared.lookup r'.options.id = some row → threshold ≤ row.updatedAt
  | .outside _ => True

/-! ## What steps keep -/

/-- A replica that runs has its row, with the time of the cycle that has refreshed it; no heartbeat
runs before the row is inserted, or when it is deleted. -/
structure Registered (table : ReplicaTable) (r : Replica) : Prop where
  row : r.Runs → ∃ row, table.lookup r.options.id = some row ∧ row.proxyId = none ∧
    row.stoppedAt = none ∧ ∀ now, r.heartbeat = .pruning now → row.updatedAt = now
  joined : r.manager = .deleting ∨ r.manager = .stopped → r.heartbeat = .ended

section

variable {table table' : ReplicaTable} {r r' u : Replica} {choice : Choice} {id : Uuid}

theorem staleCutoff_nonneg (d : Duration) : 0 ≤ staleCutoff d := durationToTimeDuration_nonneg _

theorem threshold_le {now threshold : OffsetDateTime} (h : r.threshold now = some threshold) :
    threshold ≤ now := by
  have hcutoff := staleCutoff_nonneg r.updateInterval
  unfold Replica.threshold OffsetDateTime.add at h
  split at h
  · cases h
    show now.unixNanos + -staleCutoff r.updateInterval ≤ now.unixNanos
    omega
  · cases h

theorem lookup_prune {row : ReplicaRow} {threshold : OffsetDateTime}
    (h : table.lookup id = some row) (hle : threshold ≤ row.updatedAt) :
    (table.pruneStaleCoderdReplicas threshold).2.lookup id = some row := by
  refine (HashMap.lookup_retain _ _ _).trans ?_
  rw [h, Option.filter_some, if_pos]
  simp [hle]

/-- What one replica does leaves the row of another one, if it is not pruned. -/
theorem Effect.lookup_other (h : Effect table r choice table') (hne : id ≠ r.options.id)
    {row : ReplicaRow} (hrow : table.lookup id = some row)
    (hfresh : ∀ now threshold, r.Prunes choice now threshold → threshold ≤ row.updatedAt) :
    table'.lookup id = some row := by
  cases h with
  | none => exact hrow
  | insert => exact (HashMap.lookup_insert_ite _ _ _ _).trans ((if_neg hne).trans hrow)
  | refresh => exact (HashMap.lookup_insert_ite _ _ _ _).trans ((if_neg hne).trans hrow)
  | delete => exact (HashMap.lookup_erase_ite _ _ _).trans ((if_neg hne).trans hrow)
  | prune hprunes => exact lookup_prune hrow (hfresh _ _ hprunes)

/-- And it makes none. -/
theorem Effect.lookup_none (h : Effect table r choice table') (hne : id ≠ r.options.id)
    (hnone : table.lookup id = .none) : table'.lookup id = .none := by
  cases h with
  | none => exact hnone
  | insert => exact (HashMap.lookup_insert_ite _ _ _ _).trans ((if_neg hne).trans hnone)
  | refresh => exact (HashMap.lookup_insert_ite _ _ _ _).trans ((if_neg hne).trans hnone)
  | delete => exact (HashMap.lookup_erase_ite _ _ _).trans ((if_neg hne).trans hnone)
  | prune =>
    refine (HashMap.lookup_retain _ _ _).trans ?_
    rw [hnone]
    rfl

theorem insertCoderdReplica_cases (table : ReplicaTable) (input : InsertCoderdReplicaInput) :
    (∃ e, table.insertCoderdReplica input = (.error e, table)) ∨
      table.insertCoderdReplica input = (.ok input.row, table.insert input.id input.row) := by
  unfold ReplicaTable.insertCoderdReplica
  cases table.lookup input.id with
  | some row => exact .inl ⟨_, rfl⟩
  | none => exact .inr rfl

theorem Registered.manager (h : Registered table r)
    (hadvance : r.advanceManager table choice = some (table', r')) : Registered table' r' := by
  unfold Replica.advanceManager at hadvance
  split at hadvance
  · cases hadvance
    exact ⟨h.row, nofun⟩
  · rename_i now _
    split at hadvance
    · cases hadvance
      exact ⟨h.row, nofun⟩
    · -- the insert is refused, or makes the row
      obtain ⟨e, hinsert⟩ | hinsert := insertCoderdReplica_cases table (r.input now choice.latency)
      · rw [hinsert] at hadvance
        cases hadvance
        exact ⟨h.row, nofun⟩
      · rw [hinsert] at hadvance
        cases hadvance
        refine ⟨fun _ => ⟨_, (HashMap.lookup_insert_ite _ _ _ _).trans (if_pos rfl), rfl, rfl,
          fun _ hnot => (by cases hnot)⟩, nofun⟩
  · cases hadvance
    exact ⟨h.row, nofun⟩
  · split at hadvance
    · rename_i hended
      cases hadvance
      exact ⟨h.row, fun _ => hended⟩
    · cases hadvance
  · rename_i hmanager
    have hended := h.joined (.inl hmanager)
    split at hadvance <;> cases hadvance <;>
      exact ⟨fun hruns => absurd hended hruns.2, fun _ => hended⟩
  · rename_i hmanager
    cases hadvance
    exact ⟨h.row, fun _ => h.joined (.inr hmanager)⟩
  · cases hadvance
  · cases hadvance

theorem Registered.heartbeat (h : Registered table r)
    (hadvance : r.advanceHeartbeat table choice = some (table', r')) : Registered table' r' := by
  have hruns : r.heartbeat ≠ .ended → ¬ (r.manager = .deleting ∨ r.manager = .stopped) :=
    fun hrunning hjoined => hrunning (h.joined hjoined)
  unfold Replica.advanceHeartbeat at hadvance
  split at hadvance
  · rename_i hwaiting
    obtain ⟨row, hrow, hproxy, hstopped, -⟩ := h.row ⟨by simp [hwaiting], by simp [hwaiting]⟩
    have hnot := hruns (by simp [hwaiting])
    split at hadvance
    · cases hadvance
      exact ⟨fun _ => ⟨row, hrow, hproxy, hstopped, fun _ heq => (by cases heq)⟩,
        fun hjoined => absurd hjoined hnot⟩
    · split at hadvance <;> cases hadvance
      exact ⟨fun hruns => absurd rfl hruns.2, fun _ => rfl⟩
  · rename_i now hrefreshing
    obtain ⟨row, hrow, hproxy, hstopped, -⟩ := h.row ⟨by simp [hrefreshing], by simp [hrefreshing]⟩
    have hnot := hruns (by simp [hrefreshing])
    split at hadvance
    · cases hadvance
      exact ⟨fun _ => ⟨row, hrow, hproxy, hstopped, fun _ heq => (by cases heq)⟩,
        fun hjoined => absurd hjoined hnot⟩
    · cases hadvance
      refine ⟨fun _ => ⟨{ row with updatedAt := now }, ?_, hproxy, hstopped, fun now' heq => ?_⟩,
        fun hjoined => absurd hjoined hnot⟩
      · simp only [ReplicaTable.refreshCoderdReplica, hrow, Option.filter_some, hproxy, hstopped,
          Option.isNone_none, Bool.and_self, if_true]
        exact (HashMap.lookup_insert_ite _ _ _ _).trans (if_pos rfl)
      · cases heq
        rfl
  · rename_i now hpruning
    obtain ⟨row, hrow, hproxy, hstopped, hupdated⟩ :=
      h.row ⟨by simp [hpruning], by simp [hpruning]⟩
    have hnot := hruns (by simp [hpruning])
    split at hadvance
    · cases hadvance
      exact ⟨fun hruns => absurd rfl hruns.2, fun _ => rfl⟩
    · rename_i threshold hthreshold
      split at hadvance
      · cases hadvance
        exact ⟨fun _ => ⟨row, hrow, hproxy, hstopped, fun _ heq => (by cases heq)⟩,
          fun hjoined => absurd hjoined hnot⟩
      · cases hadvance
        refine ⟨fun _ => ⟨row, lookup_prune hrow ?_, hproxy, hstopped, fun _ heq => (by cases heq)⟩,
          fun hjoined => absurd hjoined hnot⟩
        rw [hupdated now hpruning]
        exact threshold_le hthreshold
  · cases hadvance
  · cases hadvance

theorem Registered.advance (h : Registered table r)
    (hadvance : r.advance table choice = some (table', r')) : Registered table' r' := by
  unfold Replica.advance at hadvance
  split at hadvance
  · exact h.manager hadvance
  · exact h.heartbeat hadvance
  · split at hadvance <;> cases hadvance
    · exact ⟨h.row, nofun⟩
    · exact ⟨h.row, nofun⟩

theorem Registered.other (h : Registered table u) (heffect : Effect table r choice table')
    (hne : u.options.id ≠ r.options.id)
    (hspares : ∀ now threshold row, r.Prunes choice now threshold → u.Runs →
      table.lookup u.options.id = some row → threshold ≤ row.updatedAt) : Registered table' u where
  row hruns := by
    obtain ⟨row, hrow, hkept⟩ := h.row hruns
    exact ⟨row, heffect.lookup_other hne hrow fun now threshold hprunes =>
      hspares now threshold row hprunes hruns hrow, hkept⟩
  joined := h.joined

end

/-- Every replica is registered, under an id of its own. -/
abbrev AllRegistered (w : Pool ReplicaTable Replica) : Prop :=
  w.Noninterfering Registered fun r r' => r.options.id ≠ r'.options.id

theorem AllRegistered.step {w : Pool ReplicaTable Replica} (h : AllRegistered w)
    {move : Move ReplicaManagerOptions Choice Empty} (hallowed : Spares w move) :
    AllRegistered (fleet.step w move) := by
  have hsteps := fleet.steps_step w move
  generalize fleet.step w move = w' at hsteps ⊢
  cases hsteps with
  | idle => exact h
  | spawn options =>
    refine Pool.Noninterfering.spawn h ⟨fun hruns => absurd rfl hruns.1, ?_⟩ fun r hr =>
      ⟨(hallowed r hr).symm, hallowed r hr⟩
    rintro (hnot | hnot) <;> cases hnot
  | @run i choice r r' table hr hadvance =>
    have hid := options_advance hadvance
    refine Pool.Noninterfering.run h ((h.each i r hr).advance hadvance) fun j u hne hu => ?_
    have hapart := h.apart i j r u hne.symm hr hu
    refine ⟨(h.each j u hu).other (effect_of_advance hadvance) hapart.symm ?_, ?_, ?_⟩
    · intro now threshold row hprunes hruns hrow
      exact hallowed r now threshold j u row hr hprunes hne hu hruns hrow
    · rw [hid]
      exact hapart
    · rw [hid]
      exact hapart.symm
  | outside event => cases event

/-- The replica has been shut down, and its row is gone. -/
structure Gone (table : ReplicaTable) (r : Replica) : Prop where
  row : table.lookup r.options.id = none
  heartbeat : r.heartbeat = .ended
  manager : r.manager = .stopped ∨ r.manager = .deleting ∨ r.manager = .dropped

theorem Gone.advance {table table' : ReplicaTable} {r r' : Replica} {choice : Choice}
    (h : Gone table r) (hadvance : r.advance table choice = some (table', r')) :
    Gone table' r' := by
  unfold Replica.advance at hadvance
  split at hadvance
  · unfold Replica.advanceManager at hadvance
    obtain hmanager | hmanager | hmanager := h.manager <;> simp only [hmanager] at hadvance
    · cases hadvance
      exact ⟨h.row, h.heartbeat, .inr (.inl rfl)⟩
    · split at hadvance
      · cases hadvance
        exact ⟨h.row, h.heartbeat, .inl rfl⟩
      · cases hadvance
        refine ⟨?_, h.heartbeat, .inl rfl⟩
        simp only [ReplicaTable.deleteCoderdReplica, h.row, Option.filter_none]
    · cases hadvance
  · simp only [Replica.advanceHeartbeat, h.heartbeat] at hadvance
    cases hadvance
  · split at hadvance <;> cases hadvance
    · exact ⟨h.row, h.heartbeat, .inr (.inr rfl)⟩
    · exact ⟨h.row, h.heartbeat, .inr (.inr rfl)⟩

/-- A replica with an id of its own that is gone stays gone. -/
theorem gone_step {w : Pool ReplicaTable Replica} (h : AllRegistered w) {i : Nat} {r : Replica}
    (hr : w.tasks[i]? = some r) (hgone : Gone w.shared r)
    (move : Move ReplicaManagerOptions Choice Empty) :
    ∃ r', (fleet.step w move).tasks[i]? = some r' ∧ r'.options.id = r.options.id ∧
      Gone (fleet.step w move).shared r' := by
  have hsteps := fleet.steps_step w move
  generalize fleet.step w move = w' at hsteps ⊢
  cases hsteps with
  | idle => exact ⟨r, hr, rfl, hgone⟩
  | spawn options =>
    refine ⟨r, ?_, rfl, hgone⟩
    rw [List.getElem?_append_left (List.getElem?_eq_some_iff.mp hr).1]
    exact hr
  | @run j choice u u' table hu hadvance =>
    by_cases hij : j = i
    · subst hij
      obtain rfl : u = r := Option.some.inj (hu.symm.trans hr)
      refine ⟨u', ?_, congrArg (·.id) (options_advance hadvance), hgone.advance hadvance⟩
      exact List.getElem?_set_self (List.getElem?_eq_some_iff.mp hr).1
    · refine ⟨r, (List.getElem?_set_ne hij).trans hr, rfl, ?_, hgone.heartbeat, hgone.manager⟩
      exact (effect_of_advance hadvance).lookup_none (h.apart i j r u (Ne.symm hij) hr hu) hgone.row
  | outside event => cases event

theorem gone_run {w : Pool ReplicaTable Replica} (h : AllRegistered w) {i : Nat} {r : Replica}
    (hr : w.tasks[i]? = some r) (hgone : Gone w.shared r)
    {moves : List (Move ReplicaManagerOptions Choice Empty)}
    (hrun : Along fleet.step Spares w moves) :
    (moves.foldl fleet.step w).shared.lookup r.options.id = none := by
  induction moves generalizing w r with
  | nil => exact hgone.row
  | cons move moves ih =>
    obtain ⟨hallowed, hrest⟩ := hrun
    obtain ⟨r', hr', hid, hgone'⟩ := gone_step h hr hgone move
    rw [← hid]
    exact ih (h.step hallowed) hr' hgone' hrest

theorem step_of_prunes {w : Pool ReplicaTable Replica} {i : Nat} {choice : Choice} {r : Replica}
    {now threshold : OffsetDateTime} (hr : w.tasks[i]? = some r)
    (h : r.Prunes choice now threshold) :
    fleet.step w (.run i choice) =
      { shared := (w.shared.pruneStaleCoderdReplicas threshold).2
        tasks := w.tasks.set i { r with heartbeat := .waiting } } := by
  have hadvance : fleet.advance w.shared r choice =
      some ((w.shared.pruneStaleCoderdReplicas threshold).2, { r with heartbeat := .waiting }) := by
    simp only [fleet, Replica.advance, h.party, Replica.advanceHeartbeat, h.heartbeat, h.cutoff,
      h.fails]
  simp only [Program.step, hr, hadvance]

theorem step_of_deletes {w : Pool ReplicaTable Replica} {i : Nat} {choice : Choice} {r : Replica}
    (hr : w.tasks[i]? = some r) (h : r.Deletes choice) :
    fleet.step w (.run i choice) =
      { shared := (w.shared.deleteCoderdReplica r.options.id).2
        tasks := w.tasks.set i { r with manager := .stopped } } := by
  have hadvance : fleet.advance w.shared r choice =
      some ((w.shared.deleteCoderdReplica r.options.id).2, { r with manager := .stopped }) := by
    simp only [fleet, Replica.advance, h.party, Replica.advanceManager, h.manager, h.fails]
  simp only [Program.step, hr, hadvance]

theorem lookup_delete {table : ReplicaTable} {id : Uuid}
    (h : (table.deleteCoderdReplica id).1 = true) :
    (table.deleteCoderdReplica id).2.lookup id = none := by
  unfold ReplicaTable.deleteCoderdReplica at h ⊢
  split at h
  · exact (HashMap.lookup_erase_ite _ _ _).trans (if_pos rfl)
  · cases h

/-- In every run in which replicas have ids of their own and none prunes the row of another one that
runs: a cycle that returns `Ok` leaves the row of its replica with the time of the cycle, and a row
that was deleted by `shutdown` never comes back. -/
theorem replica_stays_registered (table : ReplicaTable)
    (moves : List (Move ReplicaManagerOptions Choice Empty))
    (hrun : Along fleet.step Spares { shared := table, tasks := [] } moves) :
    (∀ first move rest id now, moves = first ++ move :: rest →
      Beats (fleetAfter table first) move id now →
      ∃ row, (fleetAfter table (first ++ [move])).shared.lookup id = some row ∧
        row.updatedAt = now) ∧
    ∀ first move middle rest id, moves = first ++ move :: middle ++ rest →
      ShutsDown (fleetAfter table first) move id →
      (fleetAfter table (first ++ move :: middle)).shared.lookup id = none := by
  have hall : ∀ moves, Along fleet.step Spares { shared := table, tasks := [] } moves →
      AllRegistered (fleetAfter table moves) := fun moves hrun =>
    Along.invariant (I := AllRegistered) (fun _ _ h hallowed => h.step hallowed)
      (Pool.Noninterfering.empty table) hrun
  constructor
  · rintro first move rest id now rfl ⟨i, choice, r, threshold, rfl, hr, rfl, hprunes⟩
    have hregistered := hall first ((along_append _ _ _).mp hrun).1
    obtain ⟨row, hrow, -, -, hupdated⟩ := (hregistered.each i r hr).row
      ⟨by simp [hprunes.heartbeat], by simp [hprunes.heartbeat]⟩
    have hafter : fleetAfter table (first ++ [.run i choice]) =
        fleet.step (fleetAfter table first) (.run i choice) := fleet.run_concat _ _ _
    refine ⟨row, ?_, hupdated now hprunes.heartbeat⟩
    rw [hafter, step_of_prunes hr hprunes]
    refine lookup_prune hrow ?_
    rw [hupdated now hprunes.heartbeat]
    exact threshold_le hprunes.cutoff
  · rintro first move middle rest id rfl ⟨i, choice, r, rfl, hr, rfl, hdeletes, hdeleted⟩
    obtain ⟨hfirst, hallowed, hmiddle⟩ :=
      (along_append _ _ _).mp ((along_append _ _ _).mp hrun).1
    have hregistered := hall first hfirst
    have hstep := step_of_deletes hr hdeletes
    have hgone : Gone (fleet.step (fleetAfter table first) (.run i choice)).shared
        { r with manager := .stopped } := by
      rw [hstep]
      exact ⟨lookup_delete hdeleted, (hregistered.each i r hr).joined (.inl hdeletes.manager),
        .inl rfl⟩
    have htask : (fleet.step (fleetAfter table first) (.run i choice)).tasks[i]? =
        some { r with manager := .stopped } := by
      rw [hstep]
      exact List.getElem?_set_self (List.getElem?_eq_some_iff.mp hr).1
    have hafter : fleetAfter table (first ++ .run i choice :: middle) =
        middle.foldl fleet.step (fleet.step (fleetAfter table first) (.run i choice)) :=
      List.foldl_append
    rw [hafter]
    exact gone_run (hregistered.step hallowed) htask hgone hmiddle

/-! ## Runs on fixed inputs -/

def seconds (n : Nat) : OffsetDateTime :=
  (OffsetDateTime.unixEpoch.add (n * 10 ^ 9)).getD .unixEpoch

/-- A replica that refreshes its row every fifteen seconds. -/
def replica (n : Nat) : ReplicaManagerOptions where
  id := ⟨n⟩
  hostname := "unknown"
  relayAddress := ""
  regionId := 0
  version := "2.0.0"
  updateInterval := .fromSecs 15

def go (task : Nat) (party : Party) (ticked : Bool) (now : OffsetDateTime) :
    Move ReplicaManagerOptions Choice Empty :=
  .run task ⟨party, now, ticked, 0, none⟩

/-- Two replicas start. -/
def twoStart : List (Move ReplicaManagerOptions Choice Empty) :=
  [.spawn (replica 1), .spawn (replica 2)] ++
    [0, 0, 1, 1].map fun task => go task .manager false (seconds 0)

/-- A cycle of a replica, up to the step that prunes. -/
def cycle (task : Nat) (now : OffsetDateTime) : List (Move ReplicaManagerOptions Choice Empty) :=
  [go task .heartbeat true now, go task .heartbeat true now]

/-- A test that is passed where replicas have ids of their own, and where nothing would be pruned of
the rows of others. -/
def sparesCheck (w : Pool ReplicaTable Replica) : Move ReplicaManagerOptions Choice Empty → Bool
  | .spawn options => w.tasks.all fun r => r.options.id ≠ options.id
  | .run i _ =>
    match w.tasks[i]? with
    | none => true
    | some r =>
      match r.heartbeat with
      | .pruning now => (r.threshold now).all fun threshold =>
        (w.others i).all fun r' => (w.shared.lookup r'.options.id).all (threshold ≤ ·.updatedAt)
      | _ => true
  | .outside _ => true

theorem spares_of_check {w : Pool ReplicaTable Replica}
    {move : Move ReplicaManagerOptions Choice Empty} (h : sparesCheck w move = true) :
    Spares w move := by
  cases move with
  | spawn options =>
    intro r hr
    exact of_decide_eq_true (List.all_eq_true.mp h r hr)
  | run i choice =>
    intro r now threshold j r' row hr hprunes hne hr' _ hrow
    simp only [sparesCheck, hr, hprunes.heartbeat, hprunes.cutoff, Option.all_some] at h
    have hall := List.all_eq_true.mp h r' (Pool.mem_others.mpr ⟨j, hne, hr'⟩)
    rw [hrow] at hall
    exact of_decide_eq_true hall
  | outside event => trivial

theorem beats_of_any {w : Pool ReplicaTable Replica} {i : Nat} {id : Uuid} {now : OffsetDateTime}
    (h : w.tasks[i]?.any (fun r => r.options.id = id && r.heartbeat = .pruning now &&
      (r.threshold now).isSome) = true) : Beats w (go i .heartbeat true now) id now := by
  obtain ⟨r, hr, hboth⟩ := (Option.any_eq_true _ _).mp h
  simp only [Bool.and_eq_true, decide_eq_true_eq] at hboth
  obtain ⟨threshold, hcutoff⟩ := Option.isSome_iff_exists.mp hboth.2
  exact ⟨i, _, r, threshold, rfl, hr, hboth.1.1, rfl, hboth.1.2, hcutoff, rfl⟩

/-- Both refresh their rows after ten seconds, and the first is shut down then. -/
def orderlyRun : List (Move ReplicaManagerOptions Choice Empty) :=
  twoStart ++ cycle 0 (seconds 10) ++ [go 0 .heartbeat true (seconds 10)] ++
    cycle 1 (seconds 10) ++ [go 1 .heartbeat true (seconds 10)] ++
    [go 0 .manager false (seconds 11), go 0 .heartbeat false (seconds 11),
      go 0 .manager false (seconds 11), go 0 .manager false (seconds 11)] ++
    cycle 1 (seconds 25) ++ [go 1 .heartbeat true (seconds 25)]

theorem orderlyRun_registered :
    Along fleet.step Spares { shared := ∅, tasks := [] } orderlyRun ∧
      ∃ row, (fleetAfter ∅ (orderlyRun.take 9)).shared.lookup ⟨1⟩ = some row ∧
        row.updatedAt = seconds 10 := by
  have hchecks : Along fleet.step (fun w move => sparesCheck w move = true)
      { shared := ∅, tasks := [] } orderlyRun := by decide +kernel
  have hrun : Along fleet.step Spares { shared := ∅, tasks := [] } orderlyRun :=
    (along_iff _ _).mpr fun p a rest hsplit =>
      spares_of_check ((along_iff _ _).mp hchecks p a rest hsplit)
  have hbeats : Beats (fleetAfter ∅ (orderlyRun.take 8)) (go 0 .heartbeat true (seconds 10)) ⟨1⟩
      (seconds 10) := beats_of_any (by decide +kernel)
  exact ⟨hrun, (replica_stays_registered ∅ orderlyRun hrun).1 (orderlyRun.take 8) _
    (orderlyRun.drop 9) ⟨1⟩ (seconds 10) rfl hbeats⟩

/-- The first replica is slow, and its row is pruned by the second. -/
def slowRun : List (Move ReplicaManagerOptions Choice Empty) :=
  twoStart ++ cycle 1 (seconds 60) ++ [go 1 .heartbeat true (seconds 60)] ++ cycle 0 (seconds 60)

/-- Its next cycle returns `Ok` and leaves no row. -/
theorem slowRun_unregistered :
    Beats (fleetAfter ∅ slowRun) (go 0 .heartbeat true (seconds 60)) ⟨1⟩ (seconds 60) ∧
      ((fleetAfter ∅ (slowRun ++ [go 0 .heartbeat true (seconds 60)])).shared.lookup
        ⟨1⟩).isNone = true :=
  ⟨beats_of_any (by decide +kernel), by decide +kernel⟩

end Coderd.Replicas
