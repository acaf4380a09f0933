import Coderd.Foundation.Transition
import Coderd.CircuitBreaker.Breaker

namespace Coderd.CircuitBreaker

open Coderd.Foundation

variable {α ε : Type}

/-! ## Opening and closing -/

namespace Breaker

variable {breaker : Breaker} {now t : Nat}

@[simp] theorem poll_config : (breaker.poll now).config = breaker.config := rfl

@[simp] theorem recordSuccess_config : breaker.recordSuccess.config = breaker.config := by
  unfold recordSuccess
  dsimp only
  split <;> rfl

@[simp] theorem recordFailure_config : (breaker.recordFailure now).config = breaker.config := by
  unfold recordFailure
  dsimp only
  split <;> rfl

theorem poll_of_ne_opened (h : breaker.inner.state ≠ .opened) : breaker.poll now = breaker := by
  unfold poll maybeTransitionToHalfOpen
  rw [if_neg h]

/-- An open breaker is left alone until its timeout is over. -/
theorem poll_of_opened (h : breaker.inner.state = .opened)
    (ht : breaker.inner.lastFailureTime = some t) (now : Nat) :
    breaker.poll now = breaker ∨ breaker.config.resetTimeout.nanos ≤ now - t := by
  by_cases helapsed : breaker.config.resetTimeout.nanos ≤ now - t
  · exact .inr helapsed
  · left
    unfold poll maybeTransitionToHalfOpen
    rw [if_pos h, ht]
    dsimp only
    rw [if_neg helapsed]

theorem recordSuccess_ne_opened : breaker.recordSuccess.inner.state ≠ .opened := by
  unfold recordSuccess
  dsimp only
  split
  case h_1 h =>
    rw [h]
    decide
  all_goals
    dsimp only
    split <;> simp_all

theorem recordFailure_of_opened (h : breaker.inner.state = .opened) (now : Nat) :
    breaker.recordFailure now = breaker := by
  unfold recordFailure
  simp only [h]

theorem recordFailure_lastFailureTime (h : breaker.inner.state ≠ .opened) (now : Nat) :
    (breaker.recordFailure now).inner.lastFailureTime = some now := by
  unfold recordFailure
  dsimp only
  split
  · rfl
  · rfl
  · exact absurd ‹_› h

end Breaker

namespace World

variable {w : World} {event : Event α ε} {t : Nat}

@[simp] theorem step_now : (w.step event).now = w.now + event.delay := by
  have h := w.steps_step event
  generalize w.step event = w' at h
  cases h <;> rfl

@[simp] theorem step_config : (w.step event).breaker.config = w.breaker.config := by
  have h := w.steps_step event
  generalize w.step event = w' at h
  cases h <;> simp [update, admitCall, settle]

/-- The breaker becomes open only by a failure, whose time it keeps. -/
theorem lastFailureTime_of_opens (hbefore : w.breaker.inner.state ≠ .opened)
    (hafter : (w.step event).breaker.inner.state = .opened) :
    (w.step event).breaker.inner.lastFailureTime = some (w.step event).now := by
  rw [step_now]
  have h := w.steps_step event
  generalize w.step event = w' at h hafter ⊢
  have hfails := Breaker.recordFailure_lastFailureTime hbefore (w.now + event.delay)
  have hpolls : (w.breaker.poll (w.now + event.delay)).inner.state ≠ .opened := by
    rwa [Breaker.poll_of_ne_opened hbefore]
  cases h with
  | poll | admitCall => exact absurd hafter hpolls
  | succeed | reportSuccess => exact absurd hafter Breaker.recordSuccess_ne_opened
  | fail | reportFailure => exact hfails
  | nothing => exact absurd hafter hbefore

/-! ## The time of an open breaker -/

/-- The breaker became open at `t`, and it still is, unless its timeout is over. -/
structure ShutSince (t : Nat) (w : World) : Prop where
  past : t ≤ w.now
  shut : (w.breaker.inner.state = .opened ∧ w.breaker.inner.lastFailureTime = some t) ∨
    t + w.breaker.config.resetTimeout.nanos ≤ w.now

/-- A success is recorded on an open breaker only when its timeout is over. -/
def Timely (w : World) (event : Event α ε) : Prop :=
  w.recordsSuccess event = true → w.breaker.inner.state = .opened →
    ∀ t ∈ w.breaker.inner.lastFailureTime,
      t + w.breaker.config.resetTimeout.nanos ≤ w.now + event.delay

instance (w : World) (event : Event α ε) : Decidable (w.Timely event) :=
  inferInstanceAs (Decidable (_ → _ → ∀ t ∈ w.breaker.inner.lastFailureTime, _))

theorem ShutSince.step (h : ShutSince t w) (hok : w.Timely event) :
    ShutSince t (w.step event) := by
  have hpast : t ≤ w.now + event.delay := Nat.le_add_right_of_le h.past
  refine ⟨by rwa [step_now], ?_⟩
  rw [step_now, step_config]
  obtain ⟨hopen, ht⟩ | hover := h.shut
  case inr => exact .inr (Nat.le_add_right_of_le hover)
  -- whoever takes the lock finds the breaker open and leaves it so, or the time has come
  have hpoll : w.breaker.poll (w.now + event.delay) = w.breaker ∨
      t + w.breaker.config.resetTimeout.nanos ≤ w.now + event.delay := by
    obtain hsame | helapsed := Breaker.poll_of_opened hopen ht (w.now + event.delay)
    · exact .inl hsame
    · exact .inr (by omega)
  have hfails := Breaker.recordFailure_of_opened hopen (w.now + event.delay)
  have hsteps := w.steps_step event
  generalize w.step event = w' at hsteps ⊢
  cases hsteps with
  | poll | admitCall =>
    refine hpoll.imp_left fun hsame => ?_
    simp only [update, admitCall, hsame]
    exact ⟨hopen, ht⟩
  | succeed hrecords | reportSuccess hrecords => exact .inr (hok hrecords hopen t ht)
  | fail | reportFailure =>
    left
    simp only [update, settle, hfails]
    exact ⟨hopen, ht⟩
  | nothing => exact .inl ⟨hopen, ht⟩

theorem ShutSince.admits (h : ShutSince t w) {now : Nat} (hnow : w.now ≤ now)
    (hadmits : w.admits now = true) : t + w.breaker.config.resetTimeout.nanos ≤ now := by
  obtain ⟨hopen, ht⟩ | hover := h.shut
  · obtain hsame | helapsed := Breaker.poll_of_opened hopen ht now
    · rw [admits_iff, hsame] at hadmits
      exact absurd hopen hadmits
    · have := h.past
      omega
  · omega

theorem run_config (w : World) (events : List (Event α ε)) :
    (w.run events).breaker.config = w.breaker.config := by
  induction events generalizing w with
  | nil => rfl
  | cons event events ih => exact (ih (w.step event)).trans step_config

/-! ## Whole runs -/

/-- Once the breaker has become open, no call is admitted before its timeout is over. -/
def StaysShut (w : World) (events : List (Event α ε)) : Prop :=
  ∀ before opening between call after, events = before ++ opening :: (between ++ call :: after) →
    (w.run before).breaker.inner.state ≠ .opened →
    ((w.run before).step opening).breaker.inner.state = .opened →
    call.action = .call →
    (((w.run before).step opening).run between).admits
      ((((w.run before).step opening).run between).now + call.delay) = true →
    ((w.run before).step opening).now + w.breaker.config.resetTimeout.nanos ≤
      (((w.run before).step opening).run between).now + call.delay

/-- In every run in which successes come in time an open breaker stays shut. -/
theorem staysShut_of_timely (name : String) (config : Config) (events : List (Event α ε))
    (hrun : Along step Timely (start name config) events) :
    StaysShut (start name config) events := by
  intro before opening between call after hsplit hclosed hopen _ hadmits
  rw [hsplit, along_append] at hrun
  obtain ⟨-, -, hrun⟩ := hrun
  rw [along_append] at hrun
  have hshut : ShutSince (((start name config).run before).step opening).now
      (((start name config).run before).step opening) :=
    ⟨le_rfl, .inl ⟨hopen, lastFailureTime_of_opens hclosed hopen⟩⟩
  have hlater := Along.invariant (fun w event hw hok => ShutSince.step hw hok) hshut hrun.1
  have hconfig : ((((start name config).run before).step opening).run between).breaker.config =
      (start name config).breaker.config := by
    rw [run_config, step_config, run_config]
  have hadmitted := ShutSince.admits hlater (Nat.le_add_right _ call.delay) hadmits
  rw [← hconfig]
  exact hadmitted

/-- Five calls fail, a sixth comes a second later, and a seventh when half a minute is over. -/
def fiveFailures : List (Event Unit Unit) :=
  List.replicate 5 (.atOnce .call) ++
    (List.range 5).map (fun call => .atOnce (.complete call (.error ()))) ++
    [⟨10 ^ 9, .call⟩, ⟨29 * 10 ^ 9, .call⟩]

theorem staysShut_fiveFailures :
    ((start "postgres" default).run fiveFailures).calls.length = 6 ∧
      StaysShut (start "postgres" default) fiveFailures :=
  ⟨by decide +kernel, staysShut_of_timely "postgres" default fiveFailures (by decide +kernel)⟩

/-- One of six calls succeeds after the others have failed. -/
def lateSuccess : List (Event Unit Unit) :=
  List.replicate 6 (.atOnce .call) ++
    (List.range 5).map (fun call => .atOnce (.complete (call + 1) (.error ()))) ++
    [.atOnce (.complete 0 (.ok ())), .atOnce .call]

/-- The outcome of a call that was admitted before makes the breaker half-open at once. -/
theorem not_staysShut_lateSuccess : ¬ StaysShut (start "postgres" default) lateSuccess := by
  intro h
  have hshut := h (lateSuccess.take 10) (.atOnce (.complete 5 (.error ())))
    [.atOnce (.complete 0 (.ok ()))] (.atOnce .call) [] rfl (by decide +kernel)
    (by decide +kernel) rfl (by decide +kernel)
  revert hshut
  decide +kernel

end World

end Coderd.CircuitBreaker
