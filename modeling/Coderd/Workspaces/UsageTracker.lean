import Coderd.Workspaces.Dormancy

namespace Coderd.UsageTracker

open Coderd.Foundation
open Coderd.Builds (World StorageError)
open Coderd.CryptoKeys (OffsetDateTime)
open Coderd.Lifecycle (batchUpdateWorkspaceLastUsedAt)

structure UsageTrackerOptions where
  batchSize : Nat
  flushOnSend : Bool

/-- Where the task is: at its `select!`, at the call of a flush, or at its end. -/
inductive Loop where
  | selecting
  | flushing (ids : List Uuid) (now : OffsetDateTime) (exits : Bool)
  | exited
  deriving DecidableEq

/-- The task, the pings that it has not received, and the tables that it writes to. -/
structure Tracker where
  options : UsageTrackerOptions
  queue : List (Uuid × OffsetDateTime)
  closed : Bool
  cancelled : Bool
  pending : HashMap Uuid OffsetDateTime
  loop : Loop
  store : World

/-- What the code does not decide: the clock, whether the timer has fired, and whether the call of
a flush fails. -/
structure Choice where
  now : OffsetDateTime
  ticked : Bool
  fails : Option StorageError

/-- A ping, the last sender is dropped, the token is cancelled, or the task goes on. -/
inductive Event where
  | add (workspaceId : Uuid) (now : OffsetDateTime)
  | drop
  | cancel
  | run (choice : Choice)

/-- The latest time of each workspace. -/
def note (pending : HashMap Uuid OffsetDateTime) (id : Uuid) (ts : OffsetDateTime) :
    HashMap Uuid OffsetDateTime :=
  match pending.lookup id with
  | some existing => if existing < ts then pending.insert id ts else pending
  | none => pending.insert id ts

namespace Tracker

variable (s : Tracker)

/-- Up to the call, after which the task ends or not. -/
def flush (now : OffsetDateTime) (exits : Bool) : Tracker :=
  if s.pending.entries.isEmpty then { s with loop := if exits then .exited else .selecting }
  else
    { s with
      pending := ∅
      loop := .flushing s.pending.keys now exits }

/-- The branches are tried in their order. -/
def select (choice : Choice) : Tracker :=
  if s.cancelled then s.flush choice.now true
  else
    match s.queue with
    | (id, ts) :: queue =>
      let s := { s with
        queue := queue
        pending := note s.pending id ts }
      if s.options.flushOnSend || decide (s.options.batchSize ≤ s.pending.entries.length) then
        s.flush choice.now false
      else s
    | [] =>
      if s.closed then s.flush choice.now true
      else if choice.ticked then s.flush choice.now false
      else s

def runLoop (choice : Choice) : Tracker :=
  match s.loop with
  | .selecting => s.select choice
  | .flushing ids now exits =>
    { s with
      loop := if exits then .exited else .selecting
      store := match choice.fails with
        | some _ => s.store
        | none => batchUpdateWorkspaceLastUsedAt s.store ids now }
  | .exited => s

/-- Nothing is sent to a task that has ended, or by a sender that was dropped. -/
def step : Event → Tracker
  | .add workspaceId now =>
    if s.closed || s.loop = .exited then s
    else { s with queue := s.queue ++ [(workspaceId, now)] }
  | .drop => { s with closed := true }
  | .cancel => { s with cancelled := true }
  | .run choice => s.runLoop choice

/-- The batch that the step passes to the store. -/
def passes (event : Event) : Option (List Uuid × OffsetDateTime) :=
  match s.loop, (s.step event).loop with
  | .selecting, .flushing ids now _ => some (ids, now)
  | _, _ => none

end Tracker

def start (options : UsageTrackerOptions) (store : World) : Tracker where
  options := options
  queue := []
  closed := false
  cancelled := false
  pending := ∅
  loop := .selecting
  store := store

def after (options : UsageTrackerOptions) (store : World) (events : List Event) : Tracker :=
  events.foldl Tracker.step (start options store)

/-! ## Batches -/

theorem mem_note {pending : HashMap Uuid OffsetDateTime} {id id' : Uuid} {ts : OffsetDateTime} :
    id' ∈ note pending id ts ↔ id' = id ∨ id' ∈ pending := by
  unfold note
  split
  · rename_i existing hexisting
    split
    · exact AList.mem_insert pending
    · refine ⟨.inr, fun h => h.elim (fun heq => ?_) fun hmem => hmem⟩
      rw [heq, ← AList.lookup_isSome, hexisting]
      rfl
  · exact AList.mem_insert pending

/-- A batch has some workspaces, each of them once. -/
theorem flush_loop {s : Tracker} {now now' : OffsetDateTime} {exits exits' : Bool} {ids : List Uuid}
    (h : (s.flush now exits).loop = .flushing ids now' exits') :
    ids = s.pending.keys ∧ now' = now ∧ exits' = exits ∧ ids ≠ [] := by
  unfold Tracker.flush at h
  split at h
  · split at h <;> cases h
  · rename_i hentries
    cases h
    refine ⟨rfl, rfl, rfl, fun hnil => hentries ?_⟩
    exact List.isEmpty_iff.mpr (List.map_eq_nil_iff.mp hnil)

theorem flush_of_mem {s : Tracker} {id : Uuid} (h : id ∈ s.pending) (now : OffsetDateTime)
    (exits : Bool) :
    s.flush now exits = { s with
      pending := ∅
      loop := .flushing s.pending.keys now exits } := by
  unfold Tracker.flush
  refine if_neg fun hempty => ?_
  have hnone : s.pending.keys = [] := List.map_eq_nil_iff.mpr (List.isEmpty_iff.mp hempty)
  have hmem := AList.mem_keys.mp h
  rw [hnone] at hmem
  cases hmem

/-- What the task can do at its `select!`: end when it is cancelled, receive a ping, or, with none
to receive, end, flush or wait. -/
theorem select_cases (s : Tracker) (choice : Choice) :
    (s.cancelled = true ∧ s.select choice = s.flush choice.now true) ∨
    (s.cancelled = false ∧ ∃ id ts queue, s.queue = (id, ts) :: queue ∧
      (s.select choice = { s with
        queue := queue
        pending := note s.pending id ts } ∨
      s.select choice = Tracker.flush { s with
        queue := queue
        pending := note s.pending id ts } choice.now false)) ∨
    (s.cancelled = false ∧ s.queue = [] ∧
      (s.closed = true ∧ s.select choice = s.flush choice.now true ∨
        s.select choice = s.flush choice.now false ∨ s.select choice = s)) := by
  by_cases hcancelled : s.cancelled = true
  · exact .inl ⟨hcancelled, if_pos hcancelled⟩
  · refine .inr ?_
    have hgoes : s.select choice = _ := if_neg hcancelled
    rw [Bool.not_eq_true] at hcancelled
    cases hqueue : s.queue with
    | cons ping queue =>
      refine .inl ⟨hcancelled, ping.1, ping.2, queue, rfl, ?_⟩
      rw [hqueue] at hgoes
      by_cases hfull : (s.options.flushOnSend || decide (s.options.batchSize ≤
          (note s.pending ping.1 ping.2).entries.length)) = true
      · exact .inr (hgoes.trans (if_pos hfull))
      · exact .inl (hgoes.trans (if_neg hfull))
    | nil =>
      refine .inr ⟨hcancelled, rfl, ?_⟩
      rw [hqueue] at hgoes
      by_cases hclosed : s.closed = true
      · exact .inl ⟨hclosed, hgoes.trans (if_pos hclosed)⟩
      · refine .inr ?_
        have hgoes := hgoes.trans (if_neg hclosed)
        by_cases hticked : choice.ticked = true
        · exact .inl (hgoes.trans (if_pos hticked))
        · exact .inr (hgoes.trans (if_neg hticked))

theorem passes_spec {s : Tracker} {event : Event} {ids : List Uuid} {now : OffsetDateTime}
    (h : s.passes event = some (ids, now)) :
    s.loop = .selecting ∧ ∃ exits, (s.step event).loop = .flushing ids now exits := by
  unfold Tracker.passes at h
  split at h
  · rename_i hloop hstep
    cases h
    exact ⟨hloop, _, hstep⟩
  · cases h

/-- A batch is that of a flush. -/
theorem flush_of_passes {s : Tracker} {event : Event} {ids : List Uuid} {now : OffsetDateTime}
    (h : s.passes event = some (ids, now)) :
    ∃ (choice : Choice) (s' : Tracker) (exits : Bool), event = .run choice ∧ now = choice.now ∧
      s.step event = s'.flush now exits ∧ ids = s'.pending.keys ∧ ids ≠ [] := by
  obtain ⟨hloop, exits, hstep⟩ := passes_spec h
  cases event with
  | run choice =>
    have hselect : s.step (.run choice) = s.select choice := by
      simp only [Tracker.step, Tracker.runLoop, hloop]
    rw [hselect] at hstep ⊢
    have hflush : ∀ s' exits', s.select choice = Tracker.flush s' choice.now exits' →
        ∃ (choice' : Choice) (s' : Tracker) (exits : Bool), Event.run choice = .run choice' ∧
          now = choice'.now ∧ s.select choice = s'.flush now exits ∧ ids = s'.pending.keys ∧
          ids ≠ [] := by
      intro s' exits' heq
      rw [heq] at hstep
      obtain ⟨hids, rfl, -, hne⟩ := flush_loop hstep
      exact ⟨choice, s', exits', rfl, rfl, heq, hids, hne⟩
    obtain ⟨-, heq⟩ | ⟨-, id, ts, queue, -, heq | heq⟩ | ⟨-, -, ⟨-, heq⟩ | heq | heq⟩ :=
      select_cases s choice
    · exact hflush _ _ heq
    · rw [heq] at hstep
      exact absurd (hloop.symm.trans hstep) nofun
    · exact hflush _ _ heq
    · exact hflush _ _ heq
    · exact hflush _ _ heq
    · rw [heq] at hstep
      exact absurd (hloop.symm.trans hstep) nofun
  | add id ts =>
    simp only [Tracker.step] at hstep
    split at hstep <;> exact absurd (hloop.symm.trans hstep) nofun
  | drop => exact absurd (hloop.symm.trans hstep) nofun
  | cancel => exact absurd (hloop.symm.trans hstep) nofun

theorem passes_of_flush {s s' : Tracker} {choice : Choice} {id : Uuid} {exits : Bool}
    (hloop : s.loop = .selecting) (hselect : s.select choice = s'.flush choice.now exits)
    (h : id ∈ s'.pending) :
    s.passes (.run choice) = some (s'.pending.keys, choice.now) ∧ id ∈ s'.pending.keys := by
  have hstep : (s.step (.run choice)).loop = .flushing s'.pending.keys choice.now exits := by
    simp only [Tracker.step, Tracker.runLoop, hloop, hselect, flush_of_mem h]
  exact ⟨by simp only [Tracker.passes, hloop, hstep], h⟩

/-! ## The condition -/

/-- Where the token is cancelled, every ping that is still queued is of a workspace that is pending,
and no call of a flush fails. -/
def Heard (s : Tracker) : Event → Prop
  | .cancel => s.cancelled = false → s.loop ≠ .exited → ∀ ping ∈ s.queue, ping.1 ∈ s.pending
  | .run choice => choice.fails = none
  | _ => True

instance Heard.decidable (s : Tracker) : ∀ event, Decidable (Heard s event)
  | .cancel => inferInstanceAs (Decidable
    (s.cancelled = false → s.loop ≠ .exited → ∀ ping ∈ s.queue, ping.1 ∈ s.pending))
  | .run choice => inferInstanceAs (Decidable (choice.fails = none))
  | .add _ _ | .drop => inferInstanceAs (Decidable True)

/-- The clock that a flush reads is not behind a ping before it. -/
def Timely : Event → Event → Prop
  | .add _ ts, .run choice => ts ≤ choice.now
  | _, _ => True

instance Timely.decidable : ∀ event event', Decidable (Timely event event')
  | .add _ ts, .run choice => inferInstanceAs (Decidable (ts ≤ choice.now))
  | .add _ _, .add _ _ | .add _ _, .drop | .add _ _, .cancel => inferInstanceAs (Decidable True)
  | .drop, _ | .cancel, _ | .run _, _ => inferInstanceAs (Decidable True)

/-! ## What steps keep -/

/-- Nothing is pending during a flush, and the last flush comes after everything has been
received, or the token was cancelled. -/
structure Settled (s : Tracker) : Prop where
  cleared : ∀ ids now exits, s.loop = .flushing ids now exits → s.pending = ∅
  last : ∀ ids now, s.loop = .flushing ids now true →
    s.cancelled = true ∨ (s.closed = true ∧ s.queue = [])
  ended : s.loop = .exited → s.cancelled = true ∨ s.closed = true

/-- The workspace is still to be passed to the store. -/
structure Awaits (s : Tracker) (id : Uuid) : Prop where
  running : s.loop ≠ .exited
  held : id ∈ s.pending ∨ (s.cancelled = false ∧ ∃ ts, (id, ts) ∈ s.queue)

theorem Settled.flush {s : Tracker} {now : OffsetDateTime} {exits : Bool}
    (h : exits = true → s.cancelled = true ∨ (s.closed = true ∧ s.queue = [])) :
    Settled (s.flush now exits) := by
  unfold Tracker.flush
  split
  · refine ⟨?_, ?_, fun hloop => ?_⟩
    · rintro _ _ _ hloop
      dsimp only at hloop
      split at hloop <;> cases hloop
    · rintro _ _ hloop
      dsimp only at hloop
      split at hloop <;> cases hloop
    · dsimp only at hloop
      split at hloop
      · rename_i hexits
        exact (h hexits).imp_right And.left
      · cases hloop
  · refine ⟨fun _ _ _ _ => rfl, fun _ _ hloop => ?_, nofun⟩
    cases hloop
    exact h rfl

theorem Settled.of_selecting {s : Tracker} (h : s.loop = .selecting) : Settled s :=
  ⟨fun _ _ _ hloop => absurd (h.symm.trans hloop) nofun,
    fun _ _ hloop => absurd (h.symm.trans hloop) nofun,
    fun hloop => absurd (h.symm.trans hloop) nofun⟩

theorem Settled.select {s : Tracker} (hloop : s.loop = .selecting) (choice : Choice) :
    Settled (s.select choice) := by
  obtain ⟨hcancelled, heq⟩ | ⟨-, id, ts, queue, -, heq | heq⟩ |
    ⟨-, hqueue, ⟨hclosed, heq⟩ | heq | heq⟩ := select_cases s choice <;> rw [heq]
  · exact .flush fun _ => .inl hcancelled
  · exact .of_selecting hloop
  · exact .flush nofun
  · exact .flush fun _ => .inr ⟨hclosed, hqueue⟩
  · exact .flush nofun
  · exact .of_selecting hloop

theorem Settled.step {s : Tracker} (h : Settled s) (event : Event) : Settled (s.step event) := by
  cases event with
  | add id ts =>
    simp only [Tracker.step]
    split
    · exact h
    · rename_i hopen
      refine ⟨h.cleared, fun ids now hloop => ?_, h.ended⟩
      obtain hcancelled | ⟨hclosed, -⟩ := h.last ids now hloop
      · exact .inl hcancelled
      · simp [hclosed] at hopen
  | drop =>
    refine ⟨h.cleared, fun ids now hloop => ?_, fun _ => .inr rfl⟩
    obtain hcancelled | ⟨-, hqueue⟩ := h.last ids now hloop
    · exact .inl hcancelled
    · exact .inr ⟨rfl, hqueue⟩
  | cancel => exact ⟨h.cleared, fun _ _ _ => .inl rfl, fun _ => .inl rfl⟩
  | run choice =>
    simp only [Tracker.step, Tracker.runLoop]
    split
    · rename_i hloop
      exact .select hloop choice
    · rename_i ids now exits hloop
      cases exits with
      | true => exact ⟨fun _ _ _ hnot => (by cases hnot), fun _ _ hnot => (by cases hnot),
        fun _ => (h.last ids now hloop).imp_right And.left⟩
      | false => exact .of_selecting rfl
    · exact h

/-- A workspace is passed to the store, or goes on waiting for it. -/
theorem Awaits.step {s : Tracker} {id : Uuid} (h : Awaits s id) (hsettled : Settled s)
    {event : Event} (hheard : Heard s event) :
    (∃ ids now, s.passes event = some (ids, now) ∧ id ∈ ids) ∨ Awaits (s.step event) id := by
  cases event with
  | add id' ts =>
    refine .inr ?_
    simp only [Tracker.step]
    split
    · exact h
    · refine ⟨h.running, h.held.imp_right fun ⟨hcancelled, ts', hqueued⟩ => ⟨hcancelled, ts', ?_⟩⟩
      exact List.mem_append_left _ hqueued
  | drop => exact .inr ⟨h.running, h.held⟩
  | cancel =>
    refine .inr ⟨h.running, .inl ?_⟩
    obtain hpending | ⟨hcancelled, ts, hqueued⟩ := h.held
    · exact hpending
    · exact hheard hcancelled h.running (id, ts) hqueued
  | run choice =>
    cases hloop : s.loop with
    | exited => exact absurd hloop h.running
    | flushing ids now exits =>
      have hpending : id ∉ s.pending := by
        rw [hsettled.cleared ids now exits hloop]
        exact AList.notMem_empty id
      obtain hmem | ⟨hcancelled, ts, hqueued⟩ := h.held
      · exact absurd hmem hpending
      · refine .inr ⟨?_, .inr ⟨?_, ts, ?_⟩⟩
        · simp only [Tracker.step, Tracker.runLoop, hloop]
          cases exits with
          | true =>
            obtain hnot | ⟨-, hnil⟩ := hsettled.last ids now hloop
            · exact absurd (hcancelled.symm.trans hnot) nofun
            · rw [hnil] at hqueued
              cases hqueued
          | false => exact nofun
        · simp only [Tracker.step, Tracker.runLoop, hloop]
          exact hcancelled
        · simp only [Tracker.step, Tracker.runLoop, hloop]
          exact hqueued
    | selecting =>
      have hstep : s.step (.run choice) = s.select choice := by
        simp only [Tracker.step, Tracker.runLoop, hloop]
      obtain ⟨hcancelled, heq⟩ | ⟨hcancelled, id', ts, queue, hqueue, heq⟩ |
        ⟨hcancelled, hqueue, heq⟩ := select_cases s choice
      · have hmem := h.held.resolve_right fun hnot => absurd (hnot.1.symm.trans hcancelled) nofun
        exact .inl ⟨_, _, passes_of_flush hloop heq hmem⟩
      · -- a ping is received, which may be the one that is waited for
        have hheld : id ∈ note s.pending id' ts ∨ ∃ ts, (id, ts) ∈ queue := by
          obtain hmem | ⟨-, ts', hqueued⟩ := h.held
          · exact .inl (mem_note.mpr (.inr hmem))
          · rw [hqueue] at hqueued
            obtain heq | hqueued := List.mem_cons.mp hqueued
            · cases heq
              exact .inl (mem_note.mpr (.inl rfl))
            · exact .inr ⟨ts', hqueued⟩
        obtain heq | heq := heq
        · refine .inr ?_
          rw [hstep, heq]
          exact ⟨h.running, hheld.imp_right fun hqueued => ⟨hcancelled, hqueued⟩⟩
        · obtain hmem | hqueued := hheld
          · exact .inl ⟨_, _, passes_of_flush hloop heq hmem⟩
          · refine .inr ?_
            rw [hstep, heq]
            unfold Tracker.flush
            split
            · exact ⟨nofun, .inr ⟨hcancelled, hqueued⟩⟩
            · exact ⟨nofun, .inr ⟨hcancelled, hqueued⟩⟩
      · have hmem : id ∈ s.pending := by
          obtain hmem | ⟨-, ts, hqueued⟩ := h.held
          · exact hmem
          · rw [hqueue] at hqueued
            cases hqueued
        obtain ⟨-, heq⟩ | heq | heq := heq
        · exact .inl ⟨_, _, passes_of_flush hloop heq hmem⟩
        · exact .inl ⟨_, _, passes_of_flush hloop heq hmem⟩
        · rw [hstep, heq]
          exact .inr h

/-- The workspace was used at that time or later, as it is stored or as the flush that is under way
stores it. -/
structure Stamped (s : Tracker) (id : Uuid) (ts : OffsetDateTime) : Prop where
  flushed : ∀ ids now exits, s.loop = .flushing ids now exits → id ∈ ids → ts ≤ now
  stored : (∃ ids now exits, s.loop = .flushing ids now exits ∧ id ∈ ids) ∨
    ∀ row, s.store.workspaces.lookup id = some row → ts ≤ row.lastUsedAt

theorem Stamped.of_passes {s : Tracker} {event : Event} {id : Uuid} {ts now : OffsetDateTime}
    {ids : List Uuid} (h : s.passes event = some (ids, now)) (hmem : id ∈ ids) (hle : ts ≤ now) :
    Stamped (s.step event) id ts := by
  obtain ⟨-, exits, hstep⟩ := passes_spec h
  refine ⟨fun ids' now' exits' hloop _ => ?_, .inl ⟨ids, now, exits, hstep, hmem⟩⟩
  cases hstep.symm.trans hloop
  exact hle

/-- The store is not written at the `select!`, and a flush reads the clock. -/
theorem select_stamps {s : Tracker} (hloop : s.loop = .selecting) (choice : Choice) :
    (s.select choice).store = s.store ∧
      ∀ ids now exits, (s.select choice).loop = .flushing ids now exits → now = choice.now := by
  have hflush : ∀ (s' : Tracker) exits, s'.store = s.store →
      (s'.flush choice.now exits).store = s.store ∧
        ∀ ids now exits', (s'.flush choice.now exits).loop = .flushing ids now exits' →
          now = choice.now := by
    intro s' exits hstore
    refine ⟨?_, fun ids now exits' h => (flush_loop h).2.1⟩
    unfold Tracker.flush
    split <;> exact hstore
  have hnone : ∀ (s' : Tracker) ids now exits, s'.loop = .selecting →
      s'.loop = .flushing ids now exits → now = choice.now := fun _ _ _ _ h h' =>
    absurd (h.symm.trans h') nofun
  obtain ⟨-, heq⟩ | ⟨-, id, ts, queue, -, heq | heq⟩ | ⟨-, -, ⟨-, heq⟩ | heq | heq⟩ :=
    select_cases s choice <;> rw [heq]
  · exact hflush _ _ rfl
  · exact ⟨rfl, fun ids now exits => hnone _ ids now exits hloop⟩
  · exact hflush _ _ rfl
  · exact hflush _ _ rfl
  · exact hflush _ _ rfl
  · exact ⟨rfl, fun ids now exits => hnone _ ids now exits hloop⟩

theorem Stamped.step {s : Tracker} {id : Uuid} {ts : OffsetDateTime} (h : Stamped s id ts)
    {event : Event} (hheard : Heard s event) (htimely : Timely (.add id ts) event) :
    Stamped (s.step event) id ts := by
  cases event with
  | add id' ts' =>
    simp only [Tracker.step]
    split <;> exact ⟨h.flushed, h.stored⟩
  | drop => exact ⟨h.flushed, h.stored⟩
  | cancel => exact ⟨h.flushed, h.stored⟩
  | run choice =>
    have htimely : ts ≤ choice.now := htimely
    cases hloop : s.loop with
    | exited =>
      simp only [Tracker.step, Tracker.runLoop, hloop]
      exact h
    | selecting =>
      have hstep : s.step (.run choice) = s.select choice := by
        simp only [Tracker.step, Tracker.runLoop, hloop]
      obtain ⟨hstore, hnow⟩ := select_stamps hloop choice
      rw [hstep]
      refine ⟨fun ids now exits hflushing _ => ?_, .inr ?_⟩
      · rw [hnow ids now exits hflushing]
        exact htimely
      · obtain ⟨ids, now, exits, hnot, -⟩ | hstored := h.stored
        · exact absurd (hloop.symm.trans hnot) nofun
        · rw [hstore]
          exact hstored
    | flushing ids now exits =>
      have hfails : choice.fails = none := hheard
      simp only [Tracker.step, Tracker.runLoop, hloop, hfails]
      constructor
      · intro ids' now' exits' hflushing
        split at hflushing <;> cases hflushing
      · refine .inr fun row hrow => ?_
        have hlookup := (HashMap.lookup_mapValues s.store.workspaces _ id).symm.trans hrow
        obtain ⟨old, hold, rfl⟩ := Option.map_eq_some_iff.mp hlookup
        split
        · rename_i hmem
          exact h.flushed ids now exits hloop hmem
        · rename_i hmem
          obtain ⟨ids', now', exits', hflushing, hmem'⟩ | hstored := h.stored
          · cases hloop.symm.trans hflushing
            exact absurd hmem' hmem
          · exact hstored old hold

theorem Stamped.run {s : Tracker} {id : Uuid} {ts : OffsetDateTime} (h : Stamped s id ts)
    {events : List Event} (hrun : Along Tracker.step Heard s events)
    (htimely : ∀ event ∈ events, Timely (.add id ts) event) :
    Stamped (events.foldl Tracker.step s) id ts := by
  induction events generalizing s with
  | nil => exact h
  | cons event events ih =>
    obtain ⟨hheard, hrest⟩ := hrun
    exact ih (h.step hheard (htimely event List.mem_cons_self)) hrest
      fun event' hevent => htimely event' (List.mem_cons_of_mem _ hevent)

/-- A workspace that is waited for is passed to the store before the task ends, and then stays
stamped. -/
theorem Awaits.run {s : Tracker} {id : Uuid} {ts : OffsetDateTime} (h : Awaits s id)
    (hsettled : Settled s) {events : List Event} (hrun : Along Tracker.step Heard s events)
    (htimely : ∀ event ∈ events, Timely (.add id ts) event)
    (hexited : (events.foldl Tracker.step s).loop = .exited) :
    (∃ middle event rest ids now, events = middle ++ event :: rest ∧
      (middle.foldl Tracker.step s).passes event = some (ids, now) ∧ id ∈ ids) ∧
      Stamped (events.foldl Tracker.step s) id ts := by
  induction events generalizing s with
  | nil => exact absurd hexited h.running
  | cons event events ih =>
    obtain ⟨hheard, hrest⟩ := hrun
    obtain ⟨ids, now, hpasses, hmem⟩ | hawaits := h.step hsettled hheard
    · refine ⟨⟨[], event, events, ids, now, rfl, hpasses, hmem⟩, ?_⟩
      have hle : ts ≤ now := by
        obtain ⟨choice, _, _, rfl, rfl, -⟩ := flush_of_passes hpasses
        exact htimely (.run choice) List.mem_cons_self
      have htail : ∀ event' ∈ events, Timely (.add id ts) event' := fun event' hevent =>
        htimely event' (List.mem_cons_of_mem _ hevent)
      exact (Stamped.of_passes hpasses hmem hle).run hrest htail
    · obtain ⟨⟨middle, event', rest, ids, now, rfl, hpasses, hmem⟩, hstamped⟩ := ih hawaits
        (hsettled.step event) hrest
        (fun event' hevent => htimely event' (List.mem_cons_of_mem _ hevent)) hexited
      exact ⟨⟨event :: middle, event', rest, ids, now, rfl, hpasses, hmem⟩, hstamped⟩

theorem settled_after (options : UsageTrackerOptions) (store : World) (events : List Event) :
    Settled (after options store events) := by
  have hstart : Settled (start options store) := .of_selecting rfl
  unfold after
  generalize start options store = s at hstart ⊢
  induction events generalizing s with
  | nil => exact hstart
  | cons event events ih => exact ih (s.step event) (hstart.step event)

/-- In every run in which no ping is left in the channel when the token is cancelled, but of a
workspace that is pending, no call fails and the clock is not turned back: no batch is empty or has
a workspace twice, and once the task has ended, every workspace that was pinged before it was
cancelled or its sender dropped is in a batch that was passed to the store after the ping, and is
stored as used then or later. -/
theorem usage_not_lost (options : UsageTrackerOptions) (store : World) (events : List Event)
    (hrun : Along Tracker.step Heard (start options store) events)
    (hclock : events.Pairwise Timely) :
    (∀ first event rest ids now, events = first ++ event :: rest →
      (after options store first).passes event = some (ids, now) → ids ≠ [] ∧ ids.Nodup) ∧
    ((after options store events).loop = .exited →
      ∀ first id ts rest, events = first ++ .add id ts :: rest →
        (after options store first).cancelled = false → (after options store first).closed = false →
        (∃ middle event rest' ids now, rest = middle ++ event :: rest' ∧
          (after options store (first ++ .add id ts :: middle)).passes event = some (ids, now) ∧
          id ∈ ids) ∧
        ∀ row, (after options store events).store.workspaces.lookup id = some row →
          ts ≤ row.lastUsedAt) := by
  constructor
  · rintro first event rest ids now - hpasses
    obtain ⟨_, s, _, -, -, -, rfl, hne⟩ := flush_of_passes hpasses
    exact ⟨hne, s.pending.nodupKeys⟩
  · rintro hexited first id ts rest rfl hcancelled hclosed
    have hrest := ((along_append _ _ _).mp hrun).2.2
    have htimely := (List.pairwise_cons.mp (List.pairwise_append.mp hclock).2.1).1
    have hafter : ∀ middle, after options store (first ++ .add id ts :: middle) =
        middle.foldl Tracker.step ((after options store first).step (.add id ts)) := fun middle =>
      List.foldl_append
    rw [hafter] at hexited
    have hopen : (after options store first).loop ≠ .exited := by
      intro hended
      obtain hnot | hnot := (settled_after options store first).ended hended
      · exact absurd (hcancelled.symm.trans hnot) nofun
      · exact absurd (hclosed.symm.trans hnot) nofun
    have hawaits : Awaits ((after options store first).step (.add id ts)) id := by
      simp only [Tracker.step, hclosed, hopen, Bool.false_or, decide_false, Bool.false_eq_true,
        if_false]
      exact ⟨hopen, .inr ⟨hcancelled, ts, List.mem_append_right _ List.mem_cons_self⟩⟩
    obtain ⟨⟨middle, event, rest', ids, now, heq, hpasses, hmem⟩, hstamped⟩ :=
      hawaits.run ((settled_after options store first).step _) hrest htimely hexited
    refine ⟨⟨middle, event, rest', ids, now, heq, (hafter middle).symm ▸ hpasses, hmem⟩, ?_⟩
    intro row hrow
    rw [hafter] at hrow
    obtain ⟨_, _, _, hloop, -⟩ | hstored := hstamped.stored
    · exact absurd (hexited.symm.trans hloop) nofun
    · exact hstored row hrow

/-! ## Runs on fixed inputs -/

open Coderd.Lifecycle (awake hours)

/-- A flush for two workspaces. -/
def pairs : UsageTrackerOptions where
  batchSize := 2
  flushOnSend := false

/-- The task goes on at that time. -/
def runAt (now : OffsetDateTime) : Event := .run ⟨now, false, none⟩

/-- The workspace is pinged twice, the second time just before the end. -/
def servedRun : List Event :=
  [.add ⟨20⟩ (hours 1), runAt (hours 1), .add ⟨20⟩ (hours 2), .cancel, runAt (hours 2),
    runAt (hours 2)]

theorem servedRun_delivered :
    Along Tracker.step Heard (start pairs awake) servedRun ∧ servedRun.Pairwise Timely ∧
      (after pairs awake servedRun).loop = .exited ∧
      ∀ row, (after pairs awake servedRun).store.workspaces.lookup ⟨20⟩ = some row →
        hours 2 ≤ row.lastUsedAt := by
  have hrun : Along Tracker.step Heard (start pairs awake) servedRun := by decide +kernel
  have hclock : servedRun.Pairwise Timely := by decide +kernel
  have hexited : (after pairs awake servedRun).loop = .exited := by decide +kernel
  exact ⟨hrun, hclock, hexited, ((usage_not_lost pairs awake servedRun hrun hclock).2 hexited
    (servedRun.take 2) ⟨20⟩ (hours 2) (servedRun.drop 3) rfl (by decide +kernel)
    (by decide +kernel)).2⟩

/-- The workspace is pinged once, and the ping has not been received at the end. -/
def lostRun : List Event := [.add ⟨20⟩ (hours 1), .cancel, runAt (hours 1)]

/-- No batch is passed to the store, and the workspace is not stored as used. -/
theorem lostRun_loses :
    (after pairs awake lostRun).loop = .exited ∧
      (∀ first event rest, lostRun = first ++ event :: rest →
        (after pairs awake first).passes event = none) ∧
      ((after pairs awake lostRun).store.workspaces.lookup ⟨20⟩).any
        (fun row => decide (row.lastUsedAt < hours 1)) = true := by
  have hnone : Along Tracker.step (fun s event => s.passes event = none) (start pairs awake)
      lostRun := by decide +kernel
  exact ⟨by decide +kernel, (along_iff _ _).mp hnone, by decide +kernel⟩

end Coderd.UsageTracker
