import Mathlib.Data.List.Induction
import Coderd.Notifications.Terminal

namespace Coderd.Notifications

open Coderd.Foundation

/-! ## What is claimed -/

/-- A table of messages that have just been enqueued. -/
def Fresh (messages : MessageTable) : Prop :=
  ∀ id row, messages.lookup id = some row →
    ∃ (counted : Bool) (createdAt : Int), row = .fresh (if counted then some 0 else none) createdAt

/-- Every message that is not in a terminal status will be acquirable again. The time of a lease
and of a mark is in `updated_at`. -/
structure NotStranded (w : Pool World Dispatcher) : Prop where
  attempts : ∀ id row, w.shared.messages.lookup id = some row →
    row.status = .pending ∨ row.status = .temporaryFailure ∨ row.status = .leased →
      row.attempts < maxDispatchAttempts
  leased : ∀ id row, w.shared.messages.lookup id = some row → row.status = .leased →
    ∃ leasedAt leasedUntil, row.updatedAt = some leasedAt ∧
      row.leasedUntil = some leasedUntil ∧ leasedUntil ≤ leasedAt + 30 * second
  retried : ∀ id row, w.shared.messages.lookup id = some row → row.status = .temporaryFailure →
    ∃ markedAt after, row.updatedAt = some markedAt ∧ row.nextRetryAfter = some after ∧
      ∃ d ∈ w.tasks, after ≤ markedAt + d.config.baseRetryIntervalSecs.toNat * second
  acquirable : ∀ id row, w.shared.messages.lookup id = some row →
    row.status.isTerminal = false →
      ∃ t, w.shared.now ≤ t ∧
        ∀ later, t ≤ later → row.acquirable later maxDispatchAttempts = .true

/-! ## Rows -/

/-- What holds of a row at a time, with the dispatchers that run. -/
structure MessageRow.Sound (row : MessageRow) (now : Int) (dispatchers : List Dispatcher) :
    Prop where
  known : row.status ≠ .unknown
  attempts : row.status.isTerminal = false → row.attempts < maxDispatchAttempts
  pending : row.status = .pending → row.nextRetryAfter = none
  leased : row.status = .leased → ∃ leasedAt leasedUntil, row.updatedAt = some leasedAt ∧
    row.leasedUntil = some leasedUntil ∧ leasedUntil ≤ leasedAt + 30 * second ∧
    leasedAt ≤ now ∧ ∀ after, row.nextRetryAfter = some after → after < leasedAt
  retried : row.status = .temporaryFailure → ∃ markedAt after, row.updatedAt = some markedAt ∧
    row.nextRetryAfter = some after ∧
    ∃ d ∈ dispatchers, after ≤ markedAt + d.config.baseRetryIntervalSecs.toNat * second

/-- The statuses that a cycle reports. -/
def Failure.Reported (failure : Failure) : Prop :=
  failure.status = .temporaryFailure ∨ failure.status = .permanentFailure ∨
    failure.status = .inhibited

theorem asI32_maxDispatchAttempts : asI32 maxDispatchAttempts = maxDispatchAttempts := by decide

/-- The interval is cut to 32 bits twice, and only becomes shorter. -/
theorem asI32_le (n : Nat) : asI32 n ≤ n := by
  have hmod : n % 2 ^ 32 ≤ n := Nat.mod_le n _
  rw [asI32, BitVec.toInt_eq_toNat_cond, BitVec.toNat_ofNat]
  split <;> omega

theorem asI32_retryIntervalSecs_le (config : NotificationConfig) :
    asI32 config.retryIntervalSecs ≤ config.baseRetryIntervalSecs.toNat := by
  refine Int.le_trans (asI32_le _) ?_
  unfold NotificationConfig.retryIntervalSecs
  omega

namespace MessageRow

variable {row : MessageRow} {now : Int} {ds : List Dispatcher}

theorem sound_fresh (counted : Bool) (createdAt now : Int) (ds : List Dispatcher) :
    (fresh (if counted then some 0 else none) createdAt).Sound now ds where
  known := by simp [fresh]
  attempts _ := by cases counted <;> exact (by decide : (0 : Int) < maxDispatchAttempts)
  pending _ := rfl
  leased h := by cases h
  retried h := by cases h

theorem Sound.mono {now' : Int} {ds' : List Dispatcher} (h : row.Sound now ds)
    (hnow : now ≤ now') (hds : ∀ d ∈ ds, ∃ d' ∈ ds', d'.config = d.config) :
    row.Sound now' ds' where
  known := h.known
  attempts := h.attempts
  pending := h.pending
  leased hstatus := by
    obtain ⟨leasedAt, leasedUntil, hupdated, huntil, hlease, hpast, hretry⟩ := h.leased hstatus
    exact ⟨leasedAt, leasedUntil, hupdated, huntil, hlease, Int.le_trans hpast hnow, hretry⟩
  retried hstatus := by
    obtain ⟨markedAt, after, hupdated, hafter, d, hd, hle⟩ := h.retried hstatus
    obtain ⟨d', hd', hconfig⟩ := hds d hd
    exact ⟨markedAt, after, hupdated, hafter, d', hd', hconfig ▸ hle⟩

theorem attempts_of_acquirable (h : row.acquirable now maxDispatchAttempts = .true) :
    row.attempts < maxDispatchAttempts := by
  obtain ⟨-, -, hattempts⟩ := acquirable_iff.mp h
  unfold attempts
  cases hcount : row.attemptCount with
  | none => decide
  | some count => exact hattempts count hcount

theorem sound_lease (h : row.acquirable now maxDispatchAttempts = .true) (notifierId : Uuid)
    (ds : List Dispatcher) : (row.lease now notifierId).Sound now ds where
  known := by simp [lease]
  attempts _ := show row.attempts < _ from attempts_of_acquirable h
  pending hstatus := by cases hstatus
  leased _ := ⟨now, now + 30 * second, rfl, rfl, Int.le_refl _, Int.le_refl _,
    (acquirable_iff.mp h).2.1⟩
  retried hstatus := by cases hstatus

theorem sound_markSent (row : MessageRow) (now : Int) (ds : List Dispatcher) :
    (row.markSent now).Sound now ds where
  known := by simp [markSent]
  attempts h := by cases h
  pending h := by cases h
  leased h := by cases h
  retried h := by cases h

/-- A reported failure leads to a terminal status, or to a retry within the budget. -/
theorem failedStatus_cases (row : MessageRow) {failure : Failure} (hreported : failure.Reported) :
    (row.failedStatus failure.status maxDispatchAttempts).isTerminal = true ∨
      (row.failedStatus failure.status maxDispatchAttempts = .temporaryFailure ∧
        failure.status = .temporaryFailure ∧ row.attempts + 1 < maxDispatchAttempts) := by
  unfold failedStatus
  rw [asI32_maxDispatchAttempts]
  obtain hstatus | hstatus | hstatus := hreported
  · by_cases hlt : row.attempts + 1 < maxDispatchAttempts
    · exact .inr ⟨by simp [hstatus, hlt], hstatus, hlt⟩
    · exact .inl (by simp [hstatus, hlt, NotificationMessageStatus.isTerminal])
  · refine .inl ?_
    rw [hstatus]
    split
    · rfl
    · simp [NotificationMessageStatus.isTerminal]
  · exact .inl (by simp [hstatus, NotificationMessageStatus.isTerminal])

theorem sound_markFailed {failure : Failure} {d : Dispatcher} (row : MessageRow) (now : Int)
    (hreported : failure.Reported) (hd : d ∈ ds) :
    (row.markFailed now failure maxDispatchAttempts d.config.retryIntervalSecs).Sound now ds := by
  have hcases := failedStatus_cases row hreported
  generalize hmarked : row.markFailed now failure maxDispatchAttempts
    d.config.retryIntervalSecs = marked
  have hstatus : marked.status = row.failedStatus failure.status maxDispatchAttempts := by
    rw [← hmarked]
    rfl
  rw [← hstatus] at hcases
  obtain hterminal | ⟨htemporary, hfailure, hlt⟩ := hcases
  · -- none of the conditions is about a terminal status
    refine ⟨?_, ?_, ?_, ?_, ?_⟩ <;> intro h <;> rw [h] at hterminal <;> cases hterminal
  · refine ⟨?_, ?_, ?_, ?_, ?_⟩
    · rw [htemporary]
      decide
    · intro _
      rw [← hmarked]
      exact hlt
    · intro h
      rw [h] at htemporary
      cases htemporary
    · intro h
      rw [h] at htemporary
      cases htemporary
    · intro _
      have hretry : marked.nextRetryAfter =
          some (now + asI32 d.config.retryIntervalSecs * second) := by
        rw [← hmarked]
        simp [markFailed, asI32_maxDispatchAttempts, hfailure, hlt]
      have hle := asI32_retryIntervalSecs_le d.config
      refine ⟨now, _, by rw [← hmarked]; rfl, hretry, d, hd, ?_⟩
      exact Int.add_le_add_left (Int.mul_le_mul_of_nonneg_right hle (by decide)) now

/-- A sound row that is not in a terminal status is acquirable once its lease or its interval has
run out. -/
theorem Sound.acquirable_later (h : row.Sound now ds) (hopen : row.status.isTerminal = false) :
    ∃ t, now ≤ t ∧ ∀ later, t ≤ later → row.acquirable later maxDispatchAttempts = .true := by
  have hattempts : ∀ count, row.attemptCount = some count → count < asI32 maxDispatchAttempts := by
    intro count hcount
    have hlt := h.attempts hopen
    rw [MessageRow.attempts, hcount] at hlt
    exact hlt
  cases hstatus : row.status with
  | pending =>
    refine ⟨now, Int.le_refl _, fun later _ => acquirable_iff.mpr ⟨.inl hstatus, ?_, hattempts⟩⟩
    intro after hafter
    rw [h.pending hstatus] at hafter
    cases hafter
  | leased =>
    obtain ⟨leasedAt, leasedUntil, -, huntil, -, hpast, hretry⟩ := h.leased hstatus
    refine ⟨max now (leasedUntil + 1), by omega, fun later hlater => acquirable_iff.mpr
      ⟨.inr (.inr ⟨hstatus, leasedUntil, huntil, by omega⟩), ?_, hattempts⟩⟩
    intro after hafter
    have hlt := hretry after hafter
    omega
  | temporaryFailure =>
    obtain ⟨markedAt, after, -, hafter, -⟩ := h.retried hstatus
    refine ⟨max now (after + 1), by omega, fun later hlater => acquirable_iff.mpr
      ⟨.inr (.inl hstatus), ?_, hattempts⟩⟩
    intro after' hafter'
    rw [hafter] at hafter'
    cases hafter'
    omega
  | unknown => exact absurd hstatus h.known
  | _ =>
    rw [hstatus] at hopen
    cases hopen

end MessageRow

/-! ## Every run -/

/-- The failures that a dispatcher has noted and not yet written. -/
def Dispatcher.failures (d : Dispatcher) : List Failure :=
  match d.phase with
  | .dispatching _ _ failed => failed
  | .delivering _ _ _ failed => failed
  | .flushing failed => failed
  | _ => []

structure Tracked (w : Pool World Dispatcher) : Prop where
  rows : ∀ id row, w.shared.messages.lookup id = some row → row.Sound w.shared.now w.tasks
  reported : ∀ d ∈ w.tasks, ∀ failure ∈ d.failures, failure.Reported

theorem Dispatcher.config_advance (d : Dispatcher) (world : World) (choice : DispatchChoice) :
    (d.advance world choice).2.config = d.config := by
  obtain ⟨config, retryAfter, phase⟩ := d
  cases phase with
  | idle =>
    simp only [advance, checkPaused]
    split <;> rfl
  | acquiring => rfl
  | flushing failed => rfl
  | dispatching messages sentIds failed =>
    cases messages with
    | nil => rfl
    | cons message messages =>
      simp only [advance, takeUp]
      repeat' split
      all_goals rfl
  | delivering message messages sentIds failed =>
    simp only [advance, finishDelivery]
    repeat' split
    all_goals rfl

/-- A step notes at most one more failure. -/
theorem Dispatcher.failures_advance (d : Dispatcher) (world : World) (choice : DispatchChoice)
    (h : ∀ failure ∈ d.failures, failure.Reported) :
    ∀ failure ∈ (d.advance world choice).2.failures, failure.Reported := by
  have hnote : ∀ note : Failure, note.Reported → ∀ failure ∈ d.failures ++ [note],
      failure.Reported := by
    intro note hreported failure hfailure
    obtain hold | hnew := List.mem_append.mp hfailure
    · exact h failure hold
    · rwa [List.mem_singleton.mp hnew]
  obtain ⟨config, retryAfter, phase⟩ := d
  cases phase with
  | idle =>
    simp only [advance, checkPaused]
    split <;> intro failure hfailure <;> cases hfailure
  | acquiring =>
    simp only [advance, acquire]
    split <;> intro failure hfailure <;> cases hfailure
  | flushing failed =>
    intro failure hfailure
    cases hfailure
  | dispatching messages sentIds failed =>
    cases messages with
    | nil => exact h
    | cons message messages =>
      simp only [advance, takeUp]
      split
      · exact hnote _ (.inr (.inr rfl))
      · split
        · exact hnote _ (.inl rfl)
        · exact h
  | delivering message messages sentIds failed =>
    simp only [advance, finishDelivery]
    split
    · exact h
    · exact hnote _ (.inr (.inl rfl))
    · split
      · exact hnote _ (.inr (.inl rfl))
      · exact hnote _ (.inl rfl)

/-- What a step leaves in a row is sound, if what it found was. -/
theorem Effect.sound {world : World} {mark : Option Mark} {messages' : MessageTable}
    {ds : List Dispatcher} (h : Effect world mark messages')
    (hrows : ∀ id row, world.messages.lookup id = some row → row.Sound world.now ds)
    (hmark : ∀ failures secs, mark = some (.failed failures secs) →
      (∀ failure ∈ failures, failure.Reported) ∧
        ∃ d ∈ ds, secs = d.config.retryIntervalSecs) :
    ∀ id row, messages'.lookup id = some row → row.Sound world.now ds := by
  intro id row hrow
  cases h with
  | same => exact hrows id row hrow
  | acquired notifierId locked =>
    rw [MessageTable.acquirePendingNotificationMessages, HashMap.lookup_mapValues] at hrow
    obtain ⟨before, hbefore, rfl⟩ := Option.map_eq_some_iff.mp hrow
    split
    · rename_i hselected
      obtain ⟨⟨id, selected⟩, hmem, rfl⟩ := List.mem_map.mp hselected
      obtain ⟨hlookup, hwhere⟩ := MessageTable.mem_selectPending hmem
      rw [hbefore] at hlookup
      cases hlookup
      exact MessageRow.sound_lease hwhere notifierId ds
    · exact hrows id before hbefore
  | marked mark =>
    rw [Mark.apply, HashMap.lookup_mapValues] at hrow
    obtain ⟨before, hbefore, rfl⟩ := Option.map_eq_some_iff.mp hrow
    cases mark with
    | sent ids =>
      simp only [Mark.set]
      split
      · exact before.sound_markSent world.now ds
      · exact hrows id before hbefore
    | failed failures secs =>
      obtain ⟨hreported, d, hd, rfl⟩ := hmark failures secs rfl
      simp only [Mark.set]
      split
      · rename_i failure hfind
        exact before.sound_markFailed world.now
          (hreported failure (List.mem_of_find?_eq_some hfind)) hd
      · exact hrows id before hbefore

theorem Dispatcher.marking_failed {d : Dispatcher} {choice : DispatchChoice}
    {failures : List Failure} {secs : Nat} (h : d.marking choice = some (.failed failures secs)) :
    failures = d.failures ∧ secs = d.config.retryIntervalSecs := by
  unfold marking at h
  unfold Dispatcher.failures
  split at h
  · split at h <;> cases h
  · rename_i failed hphase
    split at h
    · cases h
    · cases h
      rw [hphase]
      exact ⟨rfl, rfl⟩
  · cases h

theorem Dispatcher.now_advance (d : Dispatcher) (world : World) (choice : DispatchChoice) :
    (d.advance world choice).1.now = world.now := by
  obtain ⟨config, retryAfter, phase⟩ := d
  cases phase with
  | dispatching messages sentIds failed => cases messages <;> rfl
  | _ => rfl

theorem Tracked.run {w : Pool World Dispatcher} (h : Tracked w) {i : Nat} {d : Dispatcher}
    (htask : w.tasks[i]? = some d) (choice : DispatchChoice) :
    Tracked { shared := (d.advance w.shared choice).1,
              tasks := w.tasks.set i (d.advance w.shared choice).2 } := by
  have hd : d ∈ w.tasks := List.mem_of_getElem? htask
  obtain ⟨hi, -⟩ := List.getElem?_eq_some_iff.mp htask
  constructor
  · intro id row hrow
    have hsound := (d.advance_effect w.shared choice).sound h.rows (by
      intro failures secs hmarking
      obtain ⟨rfl, rfl⟩ := Dispatcher.marking_failed hmarking
      exact ⟨h.reported d hd, d, hd, rfl⟩) id row hrow
    refine hsound.mono (Int.le_of_eq (d.now_advance w.shared choice).symm) ?_
    -- the dispatcher that made the step has kept its configuration
    intro other hother
    obtain ⟨j, hj⟩ := List.mem_iff_getElem?.mp hother
    by_cases hij : i = j
    · subst hij
      rw [htask] at hj
      cases hj
      exact ⟨_, List.mem_set hi _, d.config_advance w.shared choice⟩
    · refine ⟨other, List.mem_iff_getElem?.mpr ⟨j, ?_⟩, rfl⟩
      rwa [List.getElem?_set_ne hij]
  · intro d' hd' failure hfailure
    obtain hold | rfl := List.mem_or_eq_of_mem_set hd'
    · exact h.reported d' hold failure hfailure
    · exact d.failures_advance w.shared choice (h.reported d hd) failure hfailure

theorem Tracked.step {w : Pool World Dispatcher} (h : Tracked w)
    (move : Move NotificationConfig DispatchChoice TableEvent) :
    Tracked (dispatchers.step w move) := by
  have hsteps := dispatchers.steps_step w move
  generalize dispatchers.step w move = w' at hsteps
  cases hsteps with
  | idle => exact h
  | @run i choice d d' world' htask hadvance =>
    have heq : d.advance w.shared choice = (world', d') := Option.some.inj hadvance
    have hnext := h.run htask choice
    rwa [heq] at hnext
  | spawn config =>
    constructor
    · intro id row hrow
      exact (h.rows id row hrow).mono (Int.le_refl _) fun d hd =>
        ⟨d, List.mem_append_left _ hd, rfl⟩
    · intro d hd failure hfailure
      obtain hold | hnew := List.mem_append.mp hd
      · exact h.reported d hold failure hfailure
      · rw [List.mem_singleton.mp hnew] at hfailure
        cases hfailure
  | outside event =>
    refine ⟨fun id row hrow => ?_, h.reported⟩
    cases event with
    | enqueue id' counted createdAt =>
      obtain hold | ⟨-, -, rfl⟩ := MessageTable.lookup_enqueue hrow
      · exact h.rows id row hold
      · exact MessageRow.sound_fresh counted createdAt w.shared.now w.tasks
    | elapse micros nanos =>
      refine (h.rows id row hrow).mono ?_ fun d hd => ⟨d, hd, rfl⟩
      show w.shared.now ≤ w.shared.now + micros
      omega

theorem tracked_run {world : World} (hfresh : Fresh world.messages)
    (moves : List (Move NotificationConfig DispatchChoice TableEvent)) :
    Tracked (dispatchers.run (idle world) moves) := by
  induction moves using List.reverseRecOn with
  | nil =>
    refine ⟨fun id row hrow => ?_, fun d hd => by cases hd⟩
    obtain ⟨counted, createdAt, rfl⟩ := hfresh id row hrow
    exact MessageRow.sound_fresh counted createdAt world.now []
  | append_singleton moves move ih =>
    rw [Program.run_concat]
    exact ih.step move

theorem Tracked.eligibleAgain {w : Pool World Dispatcher} (h : Tracked w) : NotStranded w where
  attempts id row hrow hstatus := by
    refine (h.rows id row hrow).attempts ?_
    obtain hstatus | hstatus | hstatus := hstatus <;> rw [hstatus] <;> rfl
  leased id row hrow hstatus := by
    obtain ⟨leasedAt, leasedUntil, hupdated, huntil, hle, -, -⟩ :=
      (h.rows id row hrow).leased hstatus
    exact ⟨leasedAt, leasedUntil, hupdated, huntil, hle⟩
  retried id row hrow hstatus := (h.rows id row hrow).retried hstatus
  acquirable id row hrow hopen := (h.rows id row hrow).acquirable_later hopen

/-- Whatever the dispatchers do, and wherever they stop, no message is lost: one that is not in a
terminal status is acquirable from some time on. -/
theorem notStranded (world : World) (hfresh : Fresh world.messages)
    (moves : List (Move NotificationConfig DispatchChoice TableEvent)) :
    NotStranded (dispatchers.run (idle world) moves) :=
  (tracked_run hfresh moves).eligibleAgain

theorem fresh_oneMessage : Fresh oneMessage.messages := by
  intro id row hrow
  rw [oneMessage, HashMap.lookup_insert_ite] at hrow
  split at hrow
  · cases hrow
    exact ⟨true, 0, rfl⟩
  · cases hrow

/-- The message that was leased by a dispatcher that stopped, and then failed in another one. -/
theorem notStranded_inhibitedMeanwhile :
    NotStranded (dispatchers.run (idle oneMessage) inhibitedMeanwhile) :=
  notStranded oneMessage fresh_oneMessage inhibitedMeanwhile

end Coderd.Notifications
