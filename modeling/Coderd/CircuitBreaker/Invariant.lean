import Mathlib.Data.List.Induction
import Coderd.CircuitBreaker.Timeout

namespace Coderd.CircuitBreaker

open Coderd.Foundation

variable {α ε : Type}

theorem le_saturatingSucc (n : UInt32) : n ≤ saturatingSucc n := by
  unfold saturatingSucc
  split
  · exact UInt32.le_refl n
  · rename_i hmax
    have hmax : n.toNat ≠ 4294967295 := fun h => hmax (UInt32.toNat_inj.mp h)
    have hbound := n.toNat_lt
    rw [UInt32.le_iff_toNat_le, UInt32.toNat_add]
    simp only [UInt32.reduceToNat, Nat.reducePow] at hbound ⊢
    omega

/-! ## The counters in each state -/

/-- What the counters and the time of the last failure say in each state of the breaker. -/
structure Consistent (config : Config) (inner : Inner) : Prop where
  closed : inner.state = .closed →
    inner.consecutiveFailures < config.failureThreshold ∧ inner.halfOpenSuccesses = 0
  opened : inner.state = .opened →
    inner.halfOpenSuccesses = 0 ∧ config.failureThreshold ≤ inner.consecutiveFailures ∧
      inner.lastFailureTime.isSome = true
  halfOpen : inner.state = .halfOpen →
    inner.halfOpenSuccesses < config.halfOpenMaxProbes ∧
      config.failureThreshold ≤ inner.consecutiveFailures

namespace Breaker

variable {breaker : Breaker} {now : Nat}

/-- An open breaker becomes half-open when its timeout is over, and nothing else is changed. -/
theorem poll_cases (breaker : Breaker) (now : Nat) :
    breaker.poll now = breaker ∨
      (breaker.inner.state = .opened ∧
        (breaker.poll now).inner =
          { breaker.inner with state := .halfOpen, halfOpenSuccesses := 0 }) := by
  by_cases hopen : breaker.inner.state = .opened
  · unfold poll maybeTransitionToHalfOpen
    rw [if_pos hopen]
    cases ht : breaker.inner.lastFailureTime with
    | none => exact .inl rfl
    | some t =>
      dsimp only
      split
      · exact .inr ⟨hopen, by rw [ht]⟩
      · exact .inl rfl
  · exact .inl (poll_of_ne_opened hopen)

/-- A breaker with the time of its last failure is half-open once its timeout is over. -/
theorem poll_elapsed {t : Nat} (hopen : breaker.inner.state = .opened)
    (ht : breaker.inner.lastFailureTime = some t)
    (helapsed : t + breaker.config.resetTimeout.nanos ≤ now) :
    (breaker.poll now).inner.state = .halfOpen := by
  have hle : breaker.config.resetTimeout.nanos ≤ now - t := by omega
  unfold poll maybeTransitionToHalfOpen
  rw [if_pos hopen, ht]
  dsimp only
  rw [if_pos hle]

end Breaker

namespace Consistent

variable {breaker : Breaker} {now : Nat}

theorem poll (h : Consistent breaker.config breaker.inner)
    (hprobes : 1 ≤ breaker.config.halfOpenMaxProbes) :
    Consistent breaker.config (breaker.poll now).inner := by
  obtain hsame | ⟨hopen, hnext⟩ := breaker.poll_cases now
  · rwa [hsame]
  · obtain ⟨-, hfailures, -⟩ := h.opened hopen
    rw [hnext]
    exact ⟨nofun, nofun, fun _ => ⟨hprobes, hfailures⟩⟩

/-- The end of a half-open episode: enough successes close the breaker. -/
theorem close (h : Consistent breaker.config breaker.inner)
    (hthreshold : 1 ≤ breaker.config.failureThreshold) (hstate : breaker.inner.state ≠ .closed)
    (successes : UInt32) :
    Consistent breaker.config
      (if successes ≥ breaker.config.halfOpenMaxProbes then
        { state := .closed, consecutiveFailures := 0, halfOpenSuccesses := 0,
          lastFailureTime := none }
      else
        { breaker.inner with state := .halfOpen, halfOpenSuccesses := successes }) := by
  split
  · exact ⟨fun _ => ⟨hthreshold, rfl⟩, nofun, nofun⟩
  · rename_i hfew
    have hfailures : breaker.config.failureThreshold ≤ breaker.inner.consecutiveFailures := by
      cases hs : breaker.inner.state with
      | closed => exact absurd hs hstate
      | opened => exact (h.opened hs).2.1
      | halfOpen => exact (h.halfOpen hs).2
    exact ⟨nofun, nofun, fun _ => ⟨UInt32.not_le.mp hfew, hfailures⟩⟩

theorem recordSuccess (h : Consistent breaker.config breaker.inner)
    (hthreshold : 1 ≤ breaker.config.failureThreshold) :
    Consistent breaker.config breaker.recordSuccess.inner := by
  cases hstate : breaker.inner.state with
  | closed =>
    simp only [Breaker.recordSuccess, hstate]
    exact ⟨fun _ => ⟨hthreshold, (h.closed hstate).2⟩, nofun, nofun⟩
  | opened =>
    simp only [Breaker.recordSuccess, hstate]
    exact h.close hthreshold (by rw [hstate]; decide) 1
  | halfOpen =>
    have hclose := h.close hthreshold (by rw [hstate]; decide)
      (saturatingSucc breaker.inner.halfOpenSuccesses)
    simp only [Breaker.recordSuccess, hstate]
    rwa [← hstate] at hclose ⊢

theorem recordFailure (h : Consistent breaker.config breaker.inner) :
    Consistent breaker.config (breaker.recordFailure now).inner := by
  cases hstate : breaker.inner.state with
  | closed =>
    have hsuccesses := (h.closed hstate).2
    simp only [Breaker.recordFailure, hstate]
    by_cases hmany : saturatingSucc breaker.inner.consecutiveFailures ≥
        breaker.config.failureThreshold
    · rw [if_pos hmany]
      exact ⟨nofun, fun _ => ⟨hsuccesses, hmany, rfl⟩, nofun⟩
    · rw [if_neg hmany]
      exact ⟨fun _ => ⟨UInt32.not_le.mp hmany, hsuccesses⟩, nofun, nofun⟩
  | opened => rwa [Breaker.recordFailure_of_opened hstate]
  | halfOpen =>
    have hfailures := (h.halfOpen hstate).2
    simp only [Breaker.recordFailure, hstate]
    exact ⟨nofun, fun _ => ⟨rfl, UInt32.le_trans hfailures (le_saturatingSucc _), rfl⟩, nofun⟩

end Consistent

/-! ## Whole runs -/

namespace World

variable {w : World} {event : Event α ε}

theorem consistent_step (h : Consistent w.breaker.config w.breaker.inner)
    (hthreshold : 1 ≤ w.breaker.config.failureThreshold)
    (hprobes : 1 ≤ w.breaker.config.halfOpenMaxProbes) :
    Consistent w.breaker.config (w.step event).breaker.inner := by
  have hsteps := w.steps_step event
  generalize w.step event = w' at hsteps ⊢
  cases hsteps with
  | poll | admitCall => exact h.poll hprobes
  | succeed | reportSuccess => exact h.recordSuccess hthreshold
  | fail | reportFailure => exact h.recordFailure
  | nothing => exact h

/-- The breaker is closed below the threshold only, open or half-open from it on, and an open
one admits calls again, at the latest when the timeout after its last failure is over. -/
theorem consistent_run (name : String) (config : Config) (events : List (Event α ε))
    (hthreshold : 1 ≤ config.failureThreshold) (hprobes : 1 ≤ config.halfOpenMaxProbes) :
    Consistent config ((start name config).run events).breaker.inner ∧
      (((start name config).run events).breaker.inner.state = .opened →
        ∃ t, ((start name config).run events).breaker.inner.lastFailureTime = some t ∧
          ∀ now, t + config.resetTimeout.nanos ≤ now →
            ((start name config).run events).admits now = true) := by
  have hconfig : ∀ events : List (Event α ε),
      ((start name config).run events).breaker.config = config :=
    run_config (start name config)
  have hrun : Consistent config ((start name config).run events).breaker.inner := by
    induction events using List.reverseRecOn with
    | nil => exact ⟨fun _ => ⟨hthreshold, rfl⟩, nofun, nofun⟩
    | append_singleton events event ih =>
      have hstep := @consistent_step _ _ ((start name config).run events) event
        (by rwa [hconfig]) (by rwa [hconfig]) (by rwa [hconfig])
      rw [hconfig events] at hstep
      rw [run, List.foldl_append]
      exact hstep
  refine ⟨hrun, fun hopen => ?_⟩
  obtain ⟨t, ht⟩ := Option.isSome_iff_exists.mp (hrun.opened hopen).2.2
  refine ⟨t, ht, fun now helapsed => (admits_iff _ now).mpr ?_⟩
  rw [Breaker.poll_elapsed hopen ht (by rwa [hconfig])]
  decide

theorem consistent_run_fiveFailures :
    ((start "postgres" default).run (fiveFailures.take 10)).breaker.inner.state = .opened ∧
      Consistent default ((start "postgres" default).run (fiveFailures.take 10)).breaker.inner :=
  ⟨by decide +kernel,
    (consistent_run "postgres" default (fiveFailures.take 10) (by decide) (by decide)).1⟩

end World

end Coderd.CircuitBreaker
