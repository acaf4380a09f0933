import Coderd.Foundation.Interleaving

namespace Coderd.Audit

open Coderd.Foundation

/-! ## The sink and its flush loop -/

/-- Where the flush loop stands: it waits for a first event, takes those that are there at once,
waits for more until the deadline, or awaits `record_batch` of the inner sink, after which it
goes on or returns. -/
inductive FlushPhase where
  | waiting
  | draining
  | collecting
  | recording (exits : Bool)
  | returned
  deriving DecidableEq

/-- The sink, the channel between its two ends and the flush loop with its batch. `batches` are
the arguments of the calls of `record_batch` on the inner sink, and `sent` the events that were
recorded while the sender was there. -/
structure BatchedAuditSink (α : Type) where
  tx : Bool
  flushTask : Bool
  locked : Bool
  channel : List α
  phase : FlushPhase
  batch : List α
  batches : List (List α)
  sent : List α

variable {α : Type}

namespace BatchedAuditSink

def new : BatchedAuditSink α where
  tx := true
  flushTask := true
  locked := false
  channel := []
  phase := .waiting
  batch := []
  batches := []
  sent := []

/-- `record`. The loop owns the receiver: once it has returned, an event is not taken. -/
def record (sink : BatchedAuditSink α) (event : α) : BatchedAuditSink α :=
  if sink.tx then
    if sink.phase = .returned then { sink with sent := sink.sent ++ [event] }
    else { sink with channel := sink.channel ++ [event], sent := sink.sent ++ [event] }
  else sink

/-- `flush_batch`, up to the await of `record_batch`. -/
def flushBatch (sink : BatchedAuditSink α) (exits : Bool) : BatchedAuditSink α :=
  if sink.batch.isEmpty then
    { sink with phase := if exits then .returned else .waiting }
  else
    { sink with
      phase := .recording exits
      batches := sink.batches ++ [sink.batch]
      batch := [] }

/-- An event is received and pushed. -/
def push (sink : BatchedAuditSink α) (event : α) (rest : List α) : BatchedAuditSink α :=
  { sink with channel := rest, batch := sink.batch ++ [event] }

/-- The code after the `while` loop: a full batch is flushed, another waits for the deadline. -/
def drained (maxBatchSize : Nat) (sink : BatchedAuditSink α) : BatchedAuditSink α :=
  if sink.batch.length ≥ maxBatchSize then sink.flushBatch false
  else { sink with phase := .collecting }

/-- `flush_loop` up to its next receive, timer or await. `expired` says whether the branch of
the deadline is taken where the loop selects between it and the channel. -/
def flushLoop (maxBatchSize : Nat) (sink : BatchedAuditSink α) (expired : Bool) :
    BatchedAuditSink α :=
  match sink.phase with
  | .waiting =>
    match sink.channel with
    | event :: rest => { sink.push event rest with phase := .draining }
    | [] => if sink.tx then sink else sink.flushBatch true
  | .draining =>
    if sink.batch.length < maxBatchSize then
      match sink.channel with
      | event :: rest => sink.push event rest
      | [] => sink.drained maxBatchSize
    else sink.drained maxBatchSize
  | .collecting =>
    if expired then sink.flushBatch false
    else
      match sink.channel with
      | event :: rest =>
        let sink := sink.push event rest
        if sink.batch.length ≥ maxBatchSize then sink.flushBatch false else sink
      | [] => if sink.tx then sink else sink.flushBatch true
  | .recording exits => { sink with phase := if exits then .returned else .waiting }
  | .returned => sink

end BatchedAuditSink

/-! ## Calls of `close` -/

/-- Where a call of `close` stands. It holds the lock of `flush_task` while it awaits the
handle, since the guard lives as long as the `if let`. -/
inductive Closing where
  | taking
  | locking
  | awaiting
  | returned
  deriving DecidableEq

def close (sink : BatchedAuditSink α) (closing : Closing) :
    Option (BatchedAuditSink α × Closing) :=
  match closing with
  | .taking => some ({ sink with tx := false }, .locking)
  | .locking =>
    if sink.locked then none
    else if sink.flushTask then some ({ sink with flushTask := false, locked := true }, .awaiting)
    else some (sink, .returned)
  | .awaiting =>
    if sink.phase = .returned then some ({ sink with locked := false }, .returned) else none
  | .returned => none

/-- What happens beside the calls of `close`: an event is recorded, and the runtime polls the
flush task. -/
inductive SinkEvent (α : Type) where
  | record (event : α)
  | poll (expired : Bool)
  deriving DecidableEq

/-- `record` holds the lock of `tx` while it sends, and has no await. -/
def sinkProgram (maxBatchSize : Nat) :
    Program (BatchedAuditSink α) Closing Unit Unit (SinkEvent α) where
  enter _ := .taking
  advance sink closing _ := close sink closing
  outside sink
    | .record event => sink.record event
    | .poll expired => sink.flushLoop maxBatchSize expired

/-- The sink is made, and nobody has called `close` yet. -/
def openSink : Pool (BatchedAuditSink α) Closing where
  shared := .new
  tasks := []

/-! ## Delivery -/

/-- Exactly once and in order: the batches make up an initial part of what was sent, each has an
event and no more than fit, nothing is left behind when the loop returns, and all of it is
delivered when a `close` has. -/
structure Delivers (maxBatchSize : Nat) (w : Pool (BatchedAuditSink α) Closing) : Prop where
  ordered : w.shared.batches.flatten <+: w.shared.sent
  sized : ∀ batch ∈ w.shared.batches, batch ≠ [] ∧ batch.length ≤ maxBatchSize
  complete : .returned ∈ w.tasks → w.shared.batches.flatten = w.shared.sent
  emptied : w.shared.phase = .returned →
    w.shared.batch = [] ∧ w.shared.channel = [] ∧ w.shared.batches.flatten = w.shared.sent

/-- How far the batch has got in each phase. A loop that is about to return found the channel
closed and empty. -/
def BatchedAuditSink.Fits (maxBatchSize : Nat) (sink : BatchedAuditSink α) : Prop :=
  match sink.phase with
  | .waiting => sink.batch = []
  | .draining => sink.batch.length ≤ maxBatchSize
  | .collecting => sink.batch.length < maxBatchSize
  | .recording exits =>
    sink.batch = [] ∧ (exits = true → sink.tx = false ∧ sink.channel = [])
  | .returned => sink.batch = [] ∧ sink.tx = false ∧ sink.channel = []

/-- Every event sent is in a batch, in the buffer or in the channel, in this order. -/
structure Accounted (maxBatchSize : Nat) (sink : BatchedAuditSink α) : Prop where
  conserved : sink.sent = sink.batches.flatten ++ sink.batch ++ sink.channel
  sized : ∀ batch ∈ sink.batches, batch ≠ [] ∧ batch.length ≤ maxBatchSize
  fits : sink.Fits maxBatchSize

namespace Accounted

variable {maxBatchSize : Nat} {sink : BatchedAuditSink α}

theorem new : Accounted maxBatchSize (BatchedAuditSink.new : BatchedAuditSink α) where
  conserved := rfl
  sized := by simp [BatchedAuditSink.new]
  fits := rfl

theorem record (h : Accounted maxBatchSize sink) (event : α) :
    Accounted maxBatchSize (sink.record event) := by
  have hfits := h.fits
  unfold BatchedAuditSink.record
  by_cases htx : sink.tx = true
  · rw [if_pos htx]
    have hphase : sink.phase ≠ .returned := by
      intro hphase
      rw [BatchedAuditSink.Fits, hphase] at hfits
      simp [hfits.2.1] at htx
    rw [if_neg hphase]
    refine ⟨by simp [h.conserved], h.sized, ?_⟩
    unfold BatchedAuditSink.Fits at hfits ⊢
    dsimp only
    cases hcase : sink.phase with
    | returned => exact absurd hcase hphase
    | recording exits =>
      rw [hcase] at hfits
      -- a sender that is still there rules out the flush before the return
      refine ⟨hfits.1, fun hexits => ?_⟩
      simp [(hfits.2 hexits).1] at htx
    | _ => simpa [hcase] using hfits
  · rwa [if_neg htx]

/-- A flush may come in any phase, with a batch that is full. -/
theorem flushBatch {exits : Bool}
    (hconserved : sink.sent = sink.batches.flatten ++ sink.batch ++ sink.channel)
    (hsized : ∀ batch ∈ sink.batches, batch ≠ [] ∧ batch.length ≤ maxBatchSize)
    (hlength : sink.batch.length ≤ maxBatchSize)
    (hexits : exits = true → sink.tx = false ∧ sink.channel = []) :
    Accounted maxBatchSize (sink.flushBatch exits) := by
  unfold BatchedAuditSink.flushBatch
  by_cases hempty : sink.batch.isEmpty = true
  · rw [if_pos hempty]
    refine ⟨hconserved, hsized, ?_⟩
    have hbatch : sink.batch = [] := List.isEmpty_iff.mp hempty
    cases exits with
    | false => exact hbatch
    | true => exact ⟨hbatch, hexits rfl⟩
  · rw [if_neg hempty]
    refine ⟨by simp [hconserved], fun batch hmem => ?_, ⟨rfl, hexits⟩⟩
    obtain hmem | hmem := List.mem_append.mp hmem
    · exact hsized batch hmem
    · rw [List.mem_singleton.mp hmem]
      exact ⟨fun hnil => hempty (List.isEmpty_iff.mpr hnil), hlength⟩

/-- An event moves from the channel to the batch. -/
theorem conserved_push (h : Accounted maxBatchSize sink) {event : α} {rest : List α}
    (hchannel : sink.channel = event :: rest) :
    sink.sent = sink.batches.flatten ++ (sink.batch ++ [event]) ++ rest := by
  rw [h.conserved, hchannel]
  simp

theorem drained (h : Accounted maxBatchSize sink) (hlength : sink.batch.length ≤ maxBatchSize) :
    Accounted maxBatchSize (sink.drained maxBatchSize) := by
  unfold BatchedAuditSink.drained
  split
  · exact flushBatch h.conserved h.sized hlength nofun
  · rename_i hroom
    exact ⟨h.conserved, h.sized, Nat.lt_of_not_le hroom⟩

/-- The channel is closed: the loop flushes and returns, or it goes on waiting. -/
theorem closed (h : Accounted maxBatchSize sink) (hlength : sink.batch.length ≤ maxBatchSize)
    (hchannel : sink.channel = []) :
    Accounted maxBatchSize (if sink.tx then sink else sink.flushBatch true) := by
  split
  · exact h
  · rename_i htx
    exact flushBatch h.conserved h.sized hlength fun _ => ⟨by simpa using htx, hchannel⟩

theorem flushLoop (h : Accounted maxBatchSize sink) (hmax : 1 ≤ maxBatchSize) (expired : Bool) :
    Accounted maxBatchSize (sink.flushLoop maxBatchSize expired) := by
  have hfits := h.fits
  unfold BatchedAuditSink.Fits at hfits
  unfold BatchedAuditSink.flushLoop
  cases hphase : sink.phase with
  | waiting =>
    rw [hphase] at hfits
    have hbatch : sink.batch = [] := hfits
    cases hchannel : sink.channel with
    | nil => exact h.closed (by simp [hbatch]) hchannel
    | cons event rest =>
      refine ⟨h.conserved_push hchannel, h.sized, ?_⟩
      show (sink.batch ++ [event]).length ≤ maxBatchSize
      simpa [hbatch] using hmax
  | draining =>
    rw [hphase] at hfits
    dsimp only
    split
    · rename_i hroom
      cases hchannel : sink.channel with
      | nil => exact h.drained hfits
      | cons event rest =>
        refine ⟨h.conserved_push hchannel, h.sized, ?_⟩
        simp only [BatchedAuditSink.Fits, BatchedAuditSink.push, hphase, List.length_append,
          List.length_singleton]
        exact hroom
    · exact h.drained hfits
  | collecting =>
    rw [hphase] at hfits
    have hlength : sink.batch.length < maxBatchSize := hfits
    dsimp only
    split
    · exact flushBatch h.conserved h.sized (Nat.le_of_lt hlength) nofun
    · cases hchannel : sink.channel with
      | nil => exact h.closed (Nat.le_of_lt hlength) hchannel
      | cons event rest =>
        have hpushed : (sink.push event rest).batch.length ≤ maxBatchSize := by
          simp only [BatchedAuditSink.push, List.length_append, List.length_singleton]
          exact hlength
        -- the batch may be full for a moment; the flush comes before the next receive
        dsimp only
        split
        · exact flushBatch (h.conserved_push hchannel) h.sized hpushed nofun
        · rename_i hroom
          refine ⟨h.conserved_push hchannel, h.sized, ?_⟩
          have hphase' : (sink.push event rest).phase = .collecting := hphase
          rw [BatchedAuditSink.Fits, hphase']
          exact Nat.lt_of_not_le hroom
  | recording exits =>
    rw [hphase] at hfits
    refine ⟨h.conserved, h.sized, ?_⟩
    cases exits with
    | false => exact hfits.1
    | true => exact ⟨hfits.1, hfits.2 rfl⟩
  | returned => exact h

end Accounted

/-! ## Every run -/

namespace BatchedAuditSink

variable (sink : BatchedAuditSink α)

theorem record_frame (event : α) :
    (sink.record event).flushTask = sink.flushTask ∧ (sink.record event).locked = sink.locked ∧
      (sink.record event).phase = sink.phase := by
  unfold record
  split
  · split <;> exact ⟨rfl, rfl, rfl⟩
  · exact ⟨rfl, rfl, rfl⟩

theorem flushBatch_frame (exits : Bool) :
    (sink.flushBatch exits).flushTask = sink.flushTask ∧
      (sink.flushBatch exits).locked = sink.locked := by
  unfold flushBatch
  split <;> exact ⟨rfl, rfl⟩

theorem drained_frame (maxBatchSize : Nat) :
    (sink.drained maxBatchSize).flushTask = sink.flushTask ∧
      (sink.drained maxBatchSize).locked = sink.locked := by
  unfold drained
  split
  · exact sink.flushBatch_frame false
  · exact ⟨rfl, rfl⟩

/-- The loop does not touch the handle or its lock, and does not start again. -/
theorem flushLoop_frame (maxBatchSize : Nat) (expired : Bool) :
    (sink.flushLoop maxBatchSize expired).flushTask = sink.flushTask ∧
      (sink.flushLoop maxBatchSize expired).locked = sink.locked := by
  unfold flushLoop
  split
  · split
    · exact ⟨rfl, rfl⟩
    · split
      · exact ⟨rfl, rfl⟩
      · exact sink.flushBatch_frame true
  · split
    · split
      · exact ⟨rfl, rfl⟩
      · exact sink.drained_frame maxBatchSize
    · exact sink.drained_frame maxBatchSize
  · split
    · exact sink.flushBatch_frame false
    · split
      · dsimp only
        split
        · exact flushBatch_frame _ false
        · exact ⟨rfl, rfl⟩
      · split
        · exact ⟨rfl, rfl⟩
        · exact sink.flushBatch_frame true
  · exact ⟨rfl, rfl⟩
  · exact ⟨rfl, rfl⟩

theorem flushLoop_of_returned {sink : BatchedAuditSink α} (h : sink.phase = .returned)
    (maxBatchSize : Nat) (expired : Bool) : sink.flushLoop maxBatchSize expired = sink := by
  rw [flushLoop, h]

end BatchedAuditSink

/-- The handle is gone only while a call of `close` holds the lock, or after the loop. -/
structure Sound (maxBatchSize : Nat) (w : Pool (BatchedAuditSink α) Closing) : Prop where
  accounted : Accounted maxBatchSize w.shared
  handed : w.shared.flushTask = false → w.shared.locked = true ∨ w.shared.phase = .returned
  finished : .returned ∈ w.tasks → w.shared.phase = .returned

namespace Sound

variable {maxBatchSize : Nat} {w : Pool (BatchedAuditSink α) Closing}

theorem openSink : Sound maxBatchSize (openSink : Pool (BatchedAuditSink α) Closing) where
  accounted := .new
  handed := nofun
  finished := nofun

theorem outside (h : Sound maxBatchSize w) (hmax : 1 ≤ maxBatchSize) (event : SinkEvent α) :
    Sound maxBatchSize
      { w with shared := (sinkProgram maxBatchSize).outside w.shared event } := by
  cases event with
  | record event =>
    obtain ⟨htask, hlocked, hphase⟩ := w.shared.record_frame event
    refine ⟨h.accounted.record event, ?_, ?_⟩
    · show (w.shared.record event).flushTask = false →
        (w.shared.record event).locked = true ∨ (w.shared.record event).phase = .returned
      rw [htask, hlocked, hphase]
      exact h.handed
    · show _ → (w.shared.record event).phase = .returned
      rw [hphase]
      exact h.finished
  | poll expired =>
    obtain ⟨htask, hlocked⟩ := w.shared.flushLoop_frame maxBatchSize expired
    have hstays : w.shared.phase = .returned →
        (w.shared.flushLoop maxBatchSize expired).phase = .returned := by
      intro hphase
      rw [BatchedAuditSink.flushLoop_of_returned hphase]
      exact hphase
    refine ⟨h.accounted.flushLoop hmax expired, ?_, fun hmem => hstays (h.finished hmem)⟩
    show (w.shared.flushLoop maxBatchSize expired).flushTask = false → _
    rw [htask]
    intro hgone
    obtain hheld | hphase := h.handed hgone
    · exact .inl (hlocked.trans hheld)
    · exact .inr (hstays hphase)

/-- `tx` goes; the rest of what is accounted for stays. -/
theorem accounted_take (h : Accounted maxBatchSize w.shared) :
    Accounted maxBatchSize { w.shared with tx := false } := by
  refine ⟨h.conserved, h.sized, ?_⟩
  have hfits := h.fits
  unfold BatchedAuditSink.Fits at hfits ⊢
  dsimp only
  cases hphase : w.shared.phase with
  | recording exits =>
    rw [hphase] at hfits
    exact ⟨hfits.1, fun hexits => ⟨rfl, (hfits.2 hexits).2⟩⟩
  | returned =>
    rw [hphase] at hfits
    exact ⟨hfits.1, rfl, hfits.2.2⟩
  | _ => simpa [hphase] using hfits

theorem close (h : Sound maxBatchSize w) {i : Nat} {closing closing' : Closing}
    {sink : BatchedAuditSink α} (htask : w.tasks[i]? = some closing)
    (hclose : close w.shared closing = some (sink, closing')) :
    Sound maxBatchSize { shared := sink, tasks := w.tasks.set i closing' } := by
  have hother : closing' ≠ .returned → .returned ∈ w.tasks.set i closing' →
      w.shared.phase = .returned := by
    intro hne hmem
    obtain hmem | heq := List.mem_or_eq_of_mem_set hmem
    · exact h.finished hmem
    · exact absurd heq.symm hne
  cases closing with
  | taking =>
    cases hclose
    exact ⟨accounted_take h.accounted, h.handed, hother nofun⟩
  | locking =>
    simp only [Audit.close] at hclose
    split at hclose
    · cases hclose
    · rename_i hfree
      split at hclose
      · cases hclose
        obtain ⟨hconserved, hsized, hfits⟩ := h.accounted
        exact ⟨⟨hconserved, hsized, hfits⟩, fun _ => .inl rfl, hother nofun⟩
      · rename_i hgone
        cases hclose
        refine ⟨h.accounted, h.handed, fun _ => ?_⟩
        obtain hheld | hphase := h.handed (by simpa using hgone)
        · exact absurd hheld hfree
        · exact hphase
  | awaiting =>
    simp only [Audit.close] at hclose
    split at hclose
    · rename_i hphase
      cases hclose
      obtain ⟨hconserved, hsized, hfits⟩ := h.accounted
      exact ⟨⟨hconserved, hsized, hfits⟩, fun _ => .inr hphase, fun _ => hphase⟩
    · cases hclose
  | returned => cases hclose

theorem step (h : Sound maxBatchSize w) (hmax : 1 ≤ maxBatchSize)
    (move : Move Unit Unit (SinkEvent α)) :
    Sound maxBatchSize ((sinkProgram maxBatchSize).step w move) := by
  have hsteps := (sinkProgram maxBatchSize).steps_step w move
  generalize (sinkProgram maxBatchSize).step w move = w' at hsteps
  cases hsteps with
  | idle => exact h
  | spawn op =>
    refine ⟨h.accounted, h.handed, fun hmem => ?_⟩
    obtain hmem | hmem := List.mem_append.mp hmem
    · exact h.finished hmem
    · cases List.mem_singleton.mp hmem
  | outside event => exact h.outside hmax event
  | run htask hadvance => exact h.close htask hadvance

theorem run (h : Sound maxBatchSize w) (hmax : 1 ≤ maxBatchSize)
    (moves : List (Move Unit Unit (SinkEvent α))) :
    Sound maxBatchSize ((sinkProgram maxBatchSize).run w moves) := by
  induction moves generalizing w with
  | nil => exact h
  | cons move moves ih => exact ih (h.step hmax move)

theorem delivers (h : Sound maxBatchSize w) : Delivers maxBatchSize w := by
  have hreturned : w.shared.phase = .returned →
      w.shared.batch = [] ∧ w.shared.channel = [] ∧ w.shared.batches.flatten = w.shared.sent := by
    intro hphase
    have hfits := h.accounted.fits
    rw [BatchedAuditSink.Fits, hphase] at hfits
    obtain ⟨hbatch, -, hchannel⟩ := hfits
    refine ⟨hbatch, hchannel, ?_⟩
    rw [h.accounted.conserved, hbatch, hchannel]
    simp
  refine ⟨?_, h.accounted.sized, fun hmem => (hreturned (h.finished hmem)).2.2, hreturned⟩
  rw [h.accounted.conserved, List.append_assoc]
  exact List.prefix_append _ _

end Sound

/-- Whatever the order of the records, the polls, the expiries of the timer and the calls of
`close`. -/
theorem delivers_run (maxBatchSize : Nat) (hmax : 1 ≤ maxBatchSize)
    (moves : List (Move Unit Unit (SinkEvent α))) :
    Delivers maxBatchSize ((sinkProgram maxBatchSize).run openSink moves) :=
  (Sound.openSink.run hmax moves).delivers

/-- Three events are recorded while the loop waits, drains and records, and one after `close` took
the sender. -/
def closedInTime : List (Move Unit Unit (SinkEvent Nat)) :=
  [.outside (.record 1), .outside (.poll false), .outside (.record 2), .outside (.record 3),
    .outside (.poll false), .outside (.poll false), .spawn (), .outside (.poll false),
    .outside (.poll false), .run 0 (), .outside (.record 4), .run 0 (), .outside (.poll false),
    .outside (.poll false), .outside (.poll false), .run 0 (), .outside (.poll false),
    .run 0 ()]

theorem delivers_closedInTime :
    ((sinkProgram 2).run openSink closedInTime).tasks = [.returned] ∧
      ((sinkProgram 2).run openSink closedInTime).shared.batches = [[1, 2], [3]] ∧
      Delivers 2 ((sinkProgram 2).run openSink closedInTime) :=
  ⟨by decide, by decide, delivers_run 2 (by decide) closedInTime⟩

/-! ## The loop returns -/

namespace BatchedAuditSink

/-- A bound on the polls that are left once the channel is closed. -/
def remaining (sink : BatchedAuditSink α) : Nat :=
  match sink.phase with
  | .waiting => 4 * sink.channel.length + 2
  | .draining => 4 * sink.channel.length + 4
  | .collecting => 4 * sink.channel.length + 3
  | .recording exits => if exits then 1 else 4 * sink.channel.length + 3
  | .returned => 0

theorem flushBatch_remaining (sink : BatchedAuditSink α) (exits : Bool) :
    (sink.flushBatch exits).tx = sink.tx ∧
      (sink.flushBatch exits).remaining ≤ if exits then 1 else 4 * sink.channel.length + 3 := by
  unfold flushBatch
  split
  · cases exits <;> exact ⟨rfl, by simp [remaining]⟩
  · exact ⟨rfl, by simp [remaining]⟩

theorem drained_remaining (sink : BatchedAuditSink α) (maxBatchSize : Nat) :
    (sink.drained maxBatchSize).tx = sink.tx ∧
      (sink.drained maxBatchSize).remaining ≤ 4 * sink.channel.length + 3 := by
  unfold drained
  split
  · exact sink.flushBatch_remaining false
  · exact ⟨rfl, Nat.le_refl _⟩

theorem flushLoop_remaining {sink : BatchedAuditSink α} (maxBatchSize : Nat)
    (hclosed : sink.tx = false) (hphase : sink.phase ≠ .returned) :
    (sink.flushLoop maxBatchSize false).tx = false ∧
      (sink.flushLoop maxBatchSize false).remaining < sink.remaining := by
  obtain ⟨htxTrue, hexits⟩ := sink.flushBatch_remaining true
  obtain ⟨htxDrained, hdrained⟩ := sink.drained_remaining maxBatchSize
  rw [hclosed] at htxTrue htxDrained
  simp only [if_true] at hexits
  cases hcase : sink.phase with
  | returned => exact absurd hcase hphase
  | waiting =>
    cases hchannel : sink.channel with
    | nil =>
      simp only [flushLoop, hcase, hchannel, hclosed, remaining.eq_def sink, if_false,
        Bool.false_eq_true]
      exact ⟨htxTrue, by simp; omega⟩
    | cons event rest =>
      simp only [flushLoop, hcase, hchannel, push, remaining, List.length_cons]
      exact ⟨hclosed, by omega⟩
  | draining =>
    simp only [flushLoop, hcase, remaining.eq_def sink]
    split
    · cases hchannel : sink.channel with
      | nil =>
        rw [hchannel] at hdrained
        exact ⟨htxDrained, by simpa using Nat.lt_succ_of_le hdrained⟩
      | cons event rest =>
        simp only [push, remaining, hcase, List.length_cons]
        exact ⟨hclosed, by omega⟩
    · exact ⟨htxDrained, Nat.lt_succ_of_le hdrained⟩
  | collecting =>
    simp only [flushLoop, hcase, remaining.eq_def sink, if_false, Bool.false_eq_true]
    cases hchannel : sink.channel with
    | nil =>
      simp only [hclosed, if_false, Bool.false_eq_true]
      exact ⟨htxTrue, by simp; omega⟩
    | cons event rest =>
      obtain ⟨htx, hfull⟩ := (sink.push event rest).flushBatch_remaining false
      dsimp only
      split
      · refine ⟨htx.trans hclosed, ?_⟩
        simp only [push, List.length_cons, if_false, Bool.false_eq_true] at hfull ⊢
        omega
      · simp only [push, remaining, hcase, List.length_cons]
        exact ⟨hclosed, by omega⟩
  | recording exits =>
    cases exits <;> simp [flushLoop, hcase, remaining, hclosed]

end BatchedAuditSink

/-- Once a `close` has taken the sender, the loop returns after as many polls as are left, and
what `close` awaits is there. -/
theorem returned_of_polls {maxBatchSize n : Nat} {w : Pool (BatchedAuditSink α) Closing}
    (hclosed : w.shared.tx = false) (hn : w.shared.remaining ≤ n) :
    ((sinkProgram maxBatchSize).run w
      (List.replicate n (.outside (.poll false)))).shared.phase = .returned := by
  induction n generalizing w with
  | zero =>
    show w.shared.phase = .returned
    cases hphase : w.shared.phase with
    | returned => rfl
    | recording exits => cases exits <;> simp [BatchedAuditSink.remaining, hphase] at hn
    | _ => simp [BatchedAuditSink.remaining, hphase] at hn
  | succ n ih =>
    show ((sinkProgram maxBatchSize).run { w with shared := w.shared.flushLoop maxBatchSize false }
      (List.replicate n (.outside (.poll false)))).shared.phase = .returned
    by_cases hphase : w.shared.phase = .returned
    · rw [BatchedAuditSink.flushLoop_of_returned hphase]
      exact ih hclosed (by simp [BatchedAuditSink.remaining, hphase])
    · obtain ⟨htx, hless⟩ := BatchedAuditSink.flushLoop_remaining maxBatchSize hclosed hphase
      exact ih htx (Nat.le_of_lt_succ (Nat.lt_of_lt_of_le hless hn))

end Coderd.Audit
