import Coderd.CryptoKeys.Rotator

namespace Coderd.CircuitBreaker

open CryptoKeys (Duration)

/-! ## The breaker -/

structure Config where
  failureThreshold : UInt32
  resetTimeout : Duration
  halfOpenMaxProbes : UInt32

instance : Inhabited Config where
  default := { failureThreshold := 5, resetTimeout := .fromSecs 30, halfOpenMaxProbes := 3 }

inductive State where
  | closed
  | opened
  | halfOpen
  deriving DecidableEq, Repr

structure Status where
  name : String
  state : State
  consecutiveFailures : UInt32

structure CircuitBreakerOpen where
  dependency : String

inductive CallError (ε : Type) where
  | breakerOpen (error : CircuitBreakerOpen)
  | inner (error : ε)

/-- Instants are readings of the monotone clock in nanoseconds. -/
structure Inner where
  state : State
  consecutiveFailures : UInt32
  halfOpenSuccesses : UInt32
  lastFailureTime : Option Nat

structure Breaker where
  name : String
  config : Config
  inner : Inner

/-- `u32::saturating_add(1)`. -/
def saturatingSucc (n : UInt32) : UInt32 :=
  if n = 4294967295 then n else n + 1

def maybeTransitionToHalfOpen (config : Config) (inner : Inner) (now : Nat) : Inner :=
  if inner.state = .opened then
    match inner.lastFailureTime with
    | some lastFailure =>
      if config.resetTimeout.nanos ≤ now - lastFailure then
        { inner with state := .halfOpen, halfOpenSuccesses := 0 }
      else
        inner
    | none => inner
  else
    inner

namespace Breaker

variable {α ε : Type}

def new (name : String) (config : Config) : Breaker where
  name := name
  config := config
  inner :=
    { state := .closed, consecutiveFailures := 0, halfOpenSuccesses := 0, lastFailureTime := none }

/-- Take the lock at `now` and look whether the breaker has been open for long enough. -/
def poll (breaker : Breaker) (now : Nat) : Breaker :=
  { breaker with inner := maybeTransitionToHalfOpen breaker.config breaker.inner now }

def status (breaker : Breaker) (now : Nat) : Status × Breaker :=
  let breaker := breaker.poll now
  ({ name := breaker.name
     state := breaker.inner.state
     consecutiveFailures := breaker.inner.consecutiveFailures }, breaker)

def state (breaker : Breaker) (now : Nat) : State × Breaker :=
  let breaker := breaker.poll now
  (breaker.inner.state, breaker)

def recordSuccess (breaker : Breaker) : Breaker :=
  let inner := breaker.inner
  let close (inner : Inner) : Inner :=
    if inner.halfOpenSuccesses ≥ breaker.config.halfOpenMaxProbes then
      { state := .closed, consecutiveFailures := 0, halfOpenSuccesses := 0,
        lastFailureTime := none }
    else
      inner
  match inner.state with
  | .closed => { breaker with inner := { inner with consecutiveFailures := 0 } }
  | .halfOpen =>
    { breaker with
      inner := close { inner with halfOpenSuccesses := saturatingSucc inner.halfOpenSuccesses } }
  | .opened =>
    { breaker with inner := close { inner with state := .halfOpen, halfOpenSuccesses := 1 } }

def recordFailure (breaker : Breaker) (now : Nat) : Breaker :=
  let inner := breaker.inner
  match inner.state with
  | .closed =>
    let failures := saturatingSucc inner.consecutiveFailures
    { breaker with
      inner :=
        { inner with
          consecutiveFailures := failures
          lastFailureTime := some now
          state := if failures ≥ breaker.config.failureThreshold then .opened else .closed } }
  | .halfOpen =>
    { breaker with
      inner :=
        { consecutiveFailures := saturatingSucc inner.consecutiveFailures
          lastFailureTime := some now
          state := .opened
          halfOpenSuccesses := 0 } }
  | .opened => breaker

/-- The first critical section of `call`. -/
def preflight (breaker : Breaker) (now : Nat) : Except (CallError ε) Unit × Breaker :=
  let breaker := breaker.poll now
  match breaker.inner.state with
  | .opened => (.error (.breakerOpen { dependency := breaker.name }), breaker)
  | .closed | .halfOpen => (.ok (), breaker)

/-- The second one, when the operation has returned. -/
def postflight (breaker : Breaker) (now : Nat) (result : Except ε α) :
    Except (CallError ε) α × Breaker :=
  match result with
  | .ok a => (.ok a, breaker.recordSuccess)
  | .error e => (.error (.inner e), breaker.recordFailure now)

end Breaker

/-! ## Concurrent calls -/

/-- How far a call that was admitted has come. -/
inductive Phase where
  | running
  | succeeded
  | failed
  deriving DecidableEq, Repr

/-- A call that was admitted, with the half-open episode in which it was, if any. -/
structure Call where
  episode : Option Nat
  phase : Phase
  deriving DecidableEq

/-- The breaker, the time of the last event, the number of times the breaker has become half-open,
and the calls that were admitted, the first one first. -/
structure World where
  breaker : Breaker
  now : Nat
  episode : Nat
  calls : List Call

/-- The critical sections of `call` and of the other methods. A call is known by its place
among those admitted. -/
inductive Action (α ε : Type) where
  | call
  | complete (call : Nat) (result : Except ε α)
  | reportSuccess
  | reportFailure
  | status
  | state

/-- What happens, and how much time has passed since what happened before. -/
structure Event (α ε : Type) where
  delay : Nat
  action : Action α ε

def Event.atOnce {α ε : Type} (action : Action α ε) : Event α ε := ⟨0, action⟩

namespace World

variable {α ε : Type}

def start (name : String) (config : Config) : World where
  breaker := .new name config
  now := 0
  episode := 0
  calls := []

/-- Hand the breaker back at `now`. -/
def update (w : World) (now : Nat) (breaker : Breaker) : World :=
  { w with
    breaker
    now
    episode :=
      if breaker.inner.state = .halfOpen ∧ w.breaker.inner.state ≠ .halfOpen then w.episode + 1
      else w.episode }

/-- Whether a call that comes at `now` is admitted. -/
def admits (w : World) (now : Nat) : Bool :=
  (w.breaker.preflight now : Except (CallError Unit) Unit × Breaker).1.isOk

/-- A call is admitted and starts its operation. -/
def admitCall (w : World) : World :=
  { w with
    calls := w.calls ++
      [{ episode := if w.breaker.inner.state = .halfOpen then some w.episode else none
         phase := .running }] }

def settle (w : World) (call : Nat) (phase : Phase) : World :=
  { w with calls := w.calls.modify call fun c => { c with phase } }

def isRunning (w : World) (call : Nat) : Bool :=
  match w.calls[call]? with
  | some c => c.phase = .running
  | none => false

def step (w : World) (event : Event α ε) : World :=
  let now := w.now + event.delay
  match event.action with
  | .call =>
    match (w.breaker.preflight now : Except (CallError ε) Unit × Breaker) with
    | (.ok (), breaker) => (w.update now breaker).admitCall
    | (.error _, breaker) => w.update now breaker
  | .complete call result =>
    if w.isRunning call then
      (w.update now (w.breaker.postflight now result).2).settle call
        (if result.isOk then .succeeded else .failed)
    else
      { w with now }
  | .reportSuccess => w.update now w.breaker.recordSuccess
  | .reportFailure => w.update now (w.breaker.recordFailure now)
  | .status => w.update now (w.breaker.status now).2
  | .state => w.update now (w.breaker.state now).2

def run (w : World) (events : List (Event α ε)) : World := events.foldl step w

/-- The event records that a call, or whoever reports it, has succeeded. -/
def recordsSuccess (w : World) (event : Event α ε) : Bool :=
  match event.action with
  | .complete call (.ok _) => w.isRunning call
  | .reportSuccess => true
  | _ => false

/-! ## What a step does -/

theorem preflight_ok {breaker : Breaker} {now : Nat}
    (h : (breaker.poll now).inner.state ≠ .opened) :
    (breaker.preflight now : Except (CallError ε) Unit × Breaker) =
      (.ok (), breaker.poll now) := by
  unfold Breaker.preflight
  rcases hstate : (breaker.poll now).inner.state
  · simp [hstate]
  · exact absurd hstate h
  · simp [hstate]

theorem preflight_error {breaker : Breaker} {now : Nat}
    (h : (breaker.poll now).inner.state = .opened) :
    (breaker.preflight now : Except (CallError ε) Unit × Breaker) =
      (.error (.breakerOpen { dependency := breaker.name }), breaker.poll now) := by
  unfold Breaker.preflight
  simp only [h]
  rfl

theorem admits_iff (w : World) (now : Nat) :
    w.admits now = true ↔ (w.breaker.poll now).inner.state ≠ .opened := by
  constructor
  · intro h hopen
    rw [admits, preflight_error hopen] at h
    cases h
  · intro h
    rw [admits, preflight_ok h]
    rfl

/-- All that can happen in one step: somebody looks at the state, a call is admitted, an
outcome is recorded, or there was no call whose outcome it could be. -/
inductive Steps (w : World) (event : Event α ε) : World → Prop where
  | poll : Steps w event (w.update (w.now + event.delay) (w.breaker.poll (w.now + event.delay)))
  | admitCall (hcall : event.action = .call) (hadmits : w.admits (w.now + event.delay) = true) :
    Steps w event (w.update (w.now + event.delay) (w.breaker.poll (w.now + event.delay))).admitCall
  | succeed {call : Nat} (hrecords : w.recordsSuccess event = true) :
    Steps w event ((w.update (w.now + event.delay) w.breaker.recordSuccess).settle call .succeeded)
  | fail {call : Nat} :
    Steps w event ((w.update (w.now + event.delay)
      (w.breaker.recordFailure (w.now + event.delay))).settle call .failed)
  | reportSuccess (hrecords : w.recordsSuccess event = true) :
    Steps w event (w.update (w.now + event.delay) w.breaker.recordSuccess)
  | reportFailure :
    Steps w event
      (w.update (w.now + event.delay) (w.breaker.recordFailure (w.now + event.delay)))
  | nothing : Steps w event { w with now := w.now + event.delay }

theorem steps_step (w : World) (event : Event α ε) : w.Steps event (w.step event) := by
  obtain ⟨delay, action⟩ := event
  cases action with
  | call =>
    by_cases h : (w.breaker.poll (w.now + delay)).inner.state = .opened
    · simp only [step, preflight_error h]
      exact .poll
    · simp only [step, preflight_ok h]
      exact .admitCall rfl ((w.admits_iff _).mpr h)
  | complete call result =>
    by_cases h : w.isRunning call = true
    · simp only [step, if_pos h]
      cases result with
      | ok a => exact .succeed h
      | error e => exact .fail
    · simp only [step, if_neg h]
      exact .nothing
  | reportSuccess => exact .reportSuccess rfl
  | reportFailure => exact .reportFailure
  | status => exact .poll
  | state => exact .poll

end World

end Coderd.CircuitBreaker
