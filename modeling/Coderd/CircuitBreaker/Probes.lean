import Mathlib.Data.List.Induction
import Coderd.CircuitBreaker.Timeout

namespace Coderd.CircuitBreaker

open Coderd.Foundation

variable {α ε : Type}

namespace Breaker

variable {breaker : Breaker}

theorem recordFailure_ne_halfOpen (now : Nat) :
    (breaker.recordFailure now).inner.state ≠ .halfOpen := by
  unfold recordFailure
  dsimp only
  split
  · dsimp only
    split <;> simp
  · simp
  · simp_all

end Breaker

/-! ## The calls of an episode -/

theorem map_episode_modify (calls : List Call) (call : Nat) (phase : Phase) :
    (calls.modify call fun c => { c with phase }).map Call.episode = calls.map Call.episode := by
  induction calls generalizing call with
  | nil => rw [List.modify_nil]
  | cons c calls ih =>
    cases call with
    | zero => rfl
    | succ call => rw [List.modify_succ_cons, List.map_cons, List.map_cons, ih]

theorem mem_modify_phase {calls : List Call} {call : Nat} {phase : Phase} {c : Call}
    (h : c ∈ calls.modify call fun c => { c with phase }) :
    c ∈ calls ∨ c.phase = phase := by
  induction calls generalizing call with
  | nil =>
    rw [List.modify_nil] at h
    exact .inl h
  | cons first calls ih =>
    cases call with
    | zero =>
      obtain rfl | hmem := List.mem_cons.mp h
      · exact .inr rfl
      · exact .inl (List.mem_cons_of_mem _ hmem)
    | succ call =>
      rw [List.modify_succ_cons] at h
      obtain rfl | hmem := List.mem_cons.mp h
      · exact .inl List.mem_cons_self
      · exact (ih hmem).imp_left (List.mem_cons_of_mem _)

namespace World

variable {w : World} {event : Event α ε}

/-- How many calls were admitted in the episode. -/
def probes (w : World) : Nat := w.calls.countP fun c => c.episode = some w.episode

/-- How many of them are in flight or have succeeded. -/
def liveProbes (w : World) : Nat :=
  w.calls.countP fun c => c.episode = some w.episode ∧ (c.phase = .running ∨ c.phase = .succeeded)

theorem liveProbes_le_probes (w : World) : w.liveProbes ≤ w.probes := by
  apply List.countP_mono_left
  intro c _ hc
  simp only [decide_eq_true_eq] at hc ⊢
  exact hc.1

theorem probes_settle (w : World) (call : Nat) (phase : Phase) :
    (w.settle call phase).probes = w.probes := by
  have hcount (calls : List Call) : calls.countP (fun c => c.episode = some w.episode) =
      (calls.map Call.episode).countP (fun episode => episode = some w.episode) := by
    rw [List.countP_map]
    rfl
  change (w.calls.modify call _).countP (fun c => c.episode = some w.episode) = _
  rw [hcount, map_episode_modify, ← hcount, probes]

theorem probes_admitCall (h : w.breaker.inner.state = .halfOpen) :
    w.admitCall.probes = w.probes + 1 := by
  have hcalls : w.admitCall.calls =
      w.calls ++ [{ episode := some w.episode, phase := .running }] := by
    rw [admitCall, if_pos h]
  have hepisode : w.admitCall.episode = w.episode := rfl
  rw [probes, hcalls, hepisode, List.countP_append, probes]
  congr 1
  rw [List.countP_singleton]
  exact if_pos (decide_eq_true rfl)

/-- Episodes are numbered in order, and one ends with the first call of its that fails. -/
structure Probing (w : World) : Prop where
  past : ∀ c ∈ w.calls, ∀ episode ∈ c.episode, episode ≤ w.episode
  live : w.breaker.inner.state = .halfOpen → ∀ c ∈ w.calls, c.episode = some w.episode →
    c.phase ≠ .failed

theorem Probing.liveProbes_eq (h : Probing w) (hstate : w.breaker.inner.state = .halfOpen) :
    w.liveProbes = w.probes := by
  apply List.countP_congr
  intro c hc
  simp only [decide_eq_true_eq]
  constructor
  · exact fun hlive => hlive.1
  · intro hepisode
    have hphase := h.live hstate c hc hepisode
    refine ⟨hepisode, ?_⟩
    cases hc : c.phase with
    | running => exact .inl rfl
    | succeeded => exact .inr rfl
    | failed => exact absurd hc hphase

/-- A new episode has no calls yet. -/
theorem Probing.update_cases (h : Probing w) (now : Nat) (breaker : Breaker)
    (hstate : breaker.inner.state = .halfOpen) :
    (w.breaker.inner.state = .halfOpen ∧ (w.update now breaker).episode = w.episode) ∨
      ∀ c ∈ w.calls, c.episode ≠ some (w.update now breaker).episode := by
  by_cases hbefore : w.breaker.inner.state = .halfOpen
  · refine .inl ⟨hbefore, if_neg ?_⟩
    exact fun hnew => hnew.2 hbefore
  · have hnext : (w.update now breaker).episode = w.episode + 1 := if_pos ⟨hstate, hbefore⟩
    refine .inr fun c hc hepisode => ?_
    rw [hnext] at hepisode
    have := h.past c hc _ hepisode
    omega

theorem Probing.update (h : Probing w) (now : Nat) (breaker : Breaker) :
    Probing (w.update now breaker) where
  past := by
    intro c hc episode hepisode
    have hle := h.past c hc episode hepisode
    change episode ≤ ite _ _ _
    split <;> omega
  live := by
    intro hstate c hc hepisode
    obtain ⟨hbefore, hsame⟩ | hnew := h.update_cases now breaker hstate
    · exact h.live hbefore c hc (hepisode.trans (congrArg some hsame))
    · exact absurd hepisode (hnew c hc)

theorem Probing.admitCall (h : Probing w) : Probing w.admitCall where
  past := by
    intro c hc episode hepisode
    obtain hc | hc := List.mem_append.mp hc
    · exact h.past c hc episode hepisode
    · rw [List.mem_singleton.mp hc] at hepisode
      dsimp only at hepisode
      split at hepisode
      · cases hepisode
        exact le_rfl
      · cases hepisode
  live := by
    intro hstate c hc hepisode
    obtain hc | hc := List.mem_append.mp hc
    · exact h.live hstate c hc hepisode
    · rw [List.mem_singleton.mp hc]
      exact Phase.noConfusion

theorem Probing.settle (h : Probing w) (call : Nat) {phase : Phase}
    (hphase : phase ≠ .failed ∨ w.breaker.inner.state ≠ .halfOpen) :
    Probing (w.settle call phase) where
  past := by
    intro c hc episode hepisode
    have hmem : c.episode ∈ (w.calls.modify call fun c => { c with phase }).map Call.episode :=
      List.mem_map_of_mem hc
    rw [map_episode_modify] at hmem
    obtain ⟨c', hc', hsame⟩ := List.mem_map.mp hmem
    exact h.past c' hc' episode (hsame ▸ hepisode)
  live := by
    intro hstate c hc hepisode
    obtain hc | hc := mem_modify_phase hc
    · exact h.live hstate c hc hepisode
    · rw [hc]
      exact hphase.resolve_right (not_not.mpr hstate)

theorem Probing.step (h : Probing w) : Probing (w.step event) := by
  have hsteps := w.steps_step event
  generalize w.step event = w' at hsteps ⊢
  cases hsteps with
  | poll => exact h.update _ _
  | admitCall => exact (h.update _ _).admitCall
  | succeed => exact (h.update _ _).settle _ (.inl (by decide))
  | fail => exact (h.update _ _).settle _ (.inr (Breaker.recordFailure_ne_halfOpen _))
  | reportSuccess | reportFailure => exact h.update _ _
  | nothing => exact ⟨h.past, h.live⟩

theorem probing_start (name : String) (config : Config) : Probing (start name config) where
  past := by simp [start]
  live := by simp [start]

theorem probing_run (name : String) (config : Config) (events : List (Event α ε)) :
    Probing ((start name config).run events) := by
  induction events using List.reverseRecOn with
  | nil => exact probing_start name config
  | append_singleton events event ih =>
    rw [run, List.foldl_append]
    exact ih.step

/-! ## Room for a probe -/

/-- The world in which a call that comes next finds itself. -/
def polled (w : World) (event : Event α ε) : World :=
  w.update (w.now + event.delay) (w.breaker.poll (w.now + event.delay))

/-- A call that comes in a half-open episode finds fewer calls in it than there may be probes. -/
def HasRoom (w : World) (event : Event α ε) : Prop :=
  event.action = .call → (w.polled event).breaker.inner.state = .halfOpen →
    (w.polled event).probes < w.breaker.config.halfOpenMaxProbes.toNat

theorem step_call (hcall : event.action = .call)
    (h : (w.polled event).breaker.inner.state = .halfOpen) :
    w.step event = (w.polled event).admitCall := by
  have hok : (w.breaker.poll (w.now + event.delay)).inner.state ≠ .opened := by
    change (w.polled event).breaker.inner.state ≠ .opened
    rw [h]
    decide
  simp only [step, hcall, preflight_ok hok]
  rfl

/-- No more calls in the episode than there may be probes. -/
def WithinLimit (w : World) : Prop :=
  w.breaker.inner.state = .halfOpen → w.probes ≤ w.breaker.config.halfOpenMaxProbes.toNat

theorem WithinLimit.update (h : WithinLimit w) (hprobing : Probing w) (now : Nat)
    {breaker : Breaker} (hconfig : breaker.config = w.breaker.config) :
    WithinLimit (w.update now breaker) := by
  intro hstate
  obtain ⟨hbefore, hsame⟩ | hnew := hprobing.update_cases now breaker hstate
  · have hprobes : (w.update now breaker).probes = w.probes := by
      rw [probes, hsame]
      rfl
    change _ ≤ breaker.config.halfOpenMaxProbes.toNat
    rw [hprobes, hconfig]
    exact h hbefore
  · have hprobes : (w.update now breaker).probes = 0 := by
      apply List.countP_eq_zero.mpr
      intro c hc
      simpa using hnew c hc
    rw [hprobes]
    exact Nat.zero_le _

theorem WithinLimit.step (h : WithinLimit w) (hprobing : Probing w) (hroom : w.HasRoom event) :
    WithinLimit (w.step event) := by
  have hsteps := w.steps_step event
  generalize w.step event = w' at hsteps ⊢
  cases hsteps with
  | poll => exact h.update hprobing _ rfl
  | admitCall hcall =>
    intro hstate
    have hhalf : (w.polled event).breaker.inner.state = .halfOpen := hstate
    have hlt := hroom hcall hhalf
    change (w.polled event).admitCall.probes ≤ w.breaker.config.halfOpenMaxProbes.toNat
    rw [probes_admitCall hhalf]
    exact hlt
  | succeed =>
    intro hstate
    rw [probes_settle]
    exact h.update hprobing _ Breaker.recordSuccess_config hstate
  | fail =>
    intro hstate
    exact absurd hstate (Breaker.recordFailure_ne_halfOpen _)
  | reportSuccess => exact h.update hprobing _ Breaker.recordSuccess_config
  | reportFailure => exact h.update hprobing _ Breaker.recordFailure_config
  | nothing => exact h

/-! ## Whole runs -/

/-- As long as the breaker is half-open, no more of the calls admitted in the episode are in
flight or have succeeded than there may be probes. -/
def LimitsProbes (w : World) (events : List (Event α ε)) : Prop :=
  ∀ before after, events = before ++ after → (w.run before).breaker.inner.state = .halfOpen →
    (w.run before).liveProbes ≤ w.breaker.config.halfOpenMaxProbes.toNat

/-- The breaker turns no call away in an episode, so the limit is kept exactly when no more
calls come. -/
theorem limitsProbes_iff_hasRoom (name : String) (config : Config) (events : List (Event α ε)) :
    LimitsProbes (start name config) events ↔
      Along step HasRoom (start name config) events := by
  constructor
  · intro hlimits
    rw [along_iff]
    intro before event after hsplit hcall hstate
    let w := (start name config).run before
    have hhalf : (w.polled event).breaker.inner.state = .halfOpen := hstate
    have hstep : (start name config).run (before ++ [event]) = (w.polled event).admitCall := by
      rw [run, List.foldl_append]
      exact step_call hcall hhalf
    have hle := hlimits (before ++ [event]) after (by rw [hsplit]; simp)
      (by rw [hstep]; exact hhalf)
    have hprobing := probing_run name config (before ++ [event])
    rw [hstep] at hprobing hle
    rw [hprobing.liveProbes_eq hhalf, probes_admitCall hhalf] at hle
    have hconfig : w.breaker.config = config := run_config _ _
    change (w.polled event).probes < w.breaker.config.halfOpenMaxProbes.toNat
    rw [hconfig]
    exact hle
  · intro hrun before after hsplit hstate
    rw [hsplit, along_append] at hrun
    have hinv := Along.invariant (I := fun w => WithinLimit w ∧ Probing w)
      (fun w event h hroom => ⟨h.1.step h.2 hroom, h.2.step⟩)
      ⟨by simp [WithinLimit, start, Breaker.new], probing_start name config⟩ hrun.1
    have hwithin := hinv.1 hstate
    rw [← run_config (start name config) before]
    exact (liveProbes_le_probes _).trans hwithin

/-- Five failures, and four calls when the timeout is over. -/
def fourProbes : List (Event Unit Unit) :=
  List.replicate 5 (.atOnce .call) ++
    (List.range 5).map (fun call => .atOnce (.complete call (.error ()))) ++
    [⟨30 * 10 ^ 9, .call⟩, .atOnce .call, .atOnce .call, .atOnce .call]

theorem not_limitsProbes_fourProbes :
    ¬ LimitsProbes (start "postgres" default) fourProbes := by
  intro h
  have hle := h fourProbes [] (List.append_nil _).symm (by decide +kernel)
  revert hle
  decide +kernel

end World

end Coderd.CircuitBreaker
