import Coderd.Foundation.Interleaving
import Coderd.Notifications.Messages

namespace Coderd.Notifications

open Coderd.Foundation

def dispatchBatchSize : Nat := 50

def maxDispatchAttempts : Nat := 3

structure NotificationConfig where
  baseRetryIntervalSecs : UInt64
  maxRetryIntervalSecs : UInt64

/-- `u32::try_from(base_retry_interval_secs).unwrap_or(u32::MAX)`. -/
def NotificationConfig.retryIntervalSecs (config : NotificationConfig) : Nat :=
  min config.baseRetryIntervalSecs.toNat (2 ^ 32 - 1)

/-- How rendering a message and handing it to its transport ends. -/
inductive Delivery where
  | ok
  | retryable (error : String)
  | permanent (error : String)
  deriving DecidableEq

/-- The message table with `NOW()`, the monotonic clock of the dispatchers in nanoseconds, and
the deliveries that were attempted. -/
structure World where
  messages : MessageTable
  now : Int
  instant : Nat
  deliveries : List (Uuid × Delivery)

/-! ## Backoff -/

def saturating (n : Nat) : Nat := min n (2 ^ 64 - 1)

/-- In milliseconds. -/
def backoffDuration (attempt : Nat) (baseSecs maxSecs : UInt64) (jitterMs : Fin 1000) : Nat :=
  let baseMs := max (saturating (baseSecs.toNat * 1000)) 1
  let capMs := max (saturating (maxSecs.toNat * 1000)) baseMs
  let shift := min (attempt - 1) 20
  let backoffMs := min (saturating (baseMs * 2 ^ shift)) capMs
  saturating (backoffMs + jitterMs)

/-- `u32::try_from(n).unwrap_or(u32::MAX)`. -/
def tryU32 (n : Int) : Nat := if 0 ≤ n ∧ n < 2 ^ 32 then n.toNat else 2 ^ 32 - 1

/-! ## One replica -/

/-- Where a cycle is. The dispatcher has a message in hand while it delivers it; the outcomes are
written at the end of the cycle. -/
inductive Phase where
  | idle
  | acquiring
  | dispatching (messages : List NotificationMessageRecord) (sentIds : List Uuid)
      (failed : List Failure)
  | delivering (message : NotificationMessageRecord) (messages : List NotificationMessageRecord)
      (sentIds : List Uuid) (failed : List Failure)
  | flushing (failed : List Failure)

structure Dispatcher where
  config : NotificationConfig
  retryAfter : HashMap Uuid Nat
  phase : Phase

def noJitter : Fin 1000 := 0

/-- What the code does not decide: the results of the store, of the deliveries and of the random
numbers. A statement that returns an error may have been committed. -/
structure DispatchChoice where
  paused : Except String Bool := .ok false
  fault : Option String := none
  committed : Bool := false
  notifierId : Uuid := ⟨0⟩
  locked : List Uuid := []
  preference : Except String (Option Bool) := .ok none
  delivery : Delivery := .ok
  jitterMs : Fin 1000 := noJitter

/-- Whether a statement is carried out. -/
def DispatchChoice.takesEffect (choice : DispatchChoice) : Bool :=
  choice.fault.isNone || choice.committed

namespace Dispatcher

def start (config : NotificationConfig) : Dispatcher where
  config := config
  retryAfter := ∅
  phase := .idle

def isInBackoff (d : Dispatcher) (messageId : Uuid) (instant : Nat) : Bool :=
  (d.retryAfter.lookup messageId).any fun deadline => instant < deadline

def scheduleBackoff (d : Dispatcher) (messageId : Uuid) (attempt : Nat) (instant : Nat)
    (jitterMs : Fin 1000) : Dispatcher :=
  let delay := backoffDuration attempt d.config.baseRetryIntervalSecs
    d.config.maxRetryIntervalSecs jitterMs
  { d with retryAfter := d.retryAfter.insert messageId (instant + delay * 10 ^ 6) }

def clearBackoff (d : Dispatcher) (messageId : Uuid) : Dispatcher :=
  { d with retryAfter := d.retryAfter.erase messageId }

/-- The switch for the whole deployment; when it cannot be read the cycle goes on. -/
def checkPaused (d : Dispatcher) (choice : DispatchChoice) : Dispatcher :=
  match choice.paused with
  | .ok true => d
  | _ => { d with phase := .acquiring }

def acquire (d : Dispatcher) (world : World) (choice : DispatchChoice) :
    MessageTable × Dispatcher :=
  let (messages, table) := world.messages.acquirePendingNotificationMessages world.now
    dispatchBatchSize maxDispatchAttempts choice.notifierId choice.locked
  -- after an error the leases may be in the table, and nobody holds them
  (if choice.takesEffect then table else world.messages,
    { d with phase := if choice.fault.isSome then .idle else .dispatching messages [] [] })

/-- A message of a template that the user has disabled is inhibited, and one that failed a short
time ago waits. -/
def takeUp (d : Dispatcher) (instant : Nat) (choice : DispatchChoice)
    (message : NotificationMessageRecord) (messages : List NotificationMessageRecord)
    (sentIds : List Uuid) (failed : List Failure) : Dispatcher :=
  match choice.preference with
  | .ok (some true) =>
    let failure := { id := message.id, status := .inhibited, reason := "disabled by user" }
    { d with phase := .dispatching messages sentIds (failed ++ [failure]) }
  | _ =>
    if d.isInBackoff message.id instant then
      -- the message is leased, so the bulk update has to release it, and counts an attempt
      let failure := { id := message.id, status := .temporaryFailure, reason := "backoff" }
      { d with phase := .dispatching messages sentIds (failed ++ [failure]) }
    else { d with phase := .delivering message messages sentIds failed }

def attemptsExhausted (message : NotificationMessageRecord) : Bool :=
  asI32 maxDispatchAttempts ≤ message.attemptCount + 1

def finishDelivery (d : Dispatcher) (instant : Nat) (choice : DispatchChoice)
    (message : NotificationMessageRecord) (messages : List NotificationMessageRecord)
    (sentIds : List Uuid) (failed : List Failure) : Dispatcher :=
  let giveUp (error : String) : Dispatcher :=
    let failure := { id := message.id, status := .permanentFailure, reason := error }
    { d.clearBackoff message.id with
      phase := .dispatching messages sentIds (failed ++ [failure]) }
  match choice.delivery with
  | .ok =>
    { d.clearBackoff message.id with
      phase := .dispatching messages (sentIds ++ [message.id]) failed }
  | .permanent error => giveUp error
  | .retryable error =>
    -- the counter in hand is the one from before this delivery
    if attemptsExhausted message then giveUp error
    else
      let failure := { id := message.id, status := .temporaryFailure, reason := error }
      { d.scheduleBackoff message.id (tryU32 (message.attemptCount + 1)) instant
          choice.jitterMs with
        phase := .dispatching messages sentIds (failed ++ [failure]) }

/-- An error of a bulk update is only logged. -/
def flushSent (world : World) (choice : DispatchChoice) (sentIds : List Uuid) : MessageTable :=
  if sentIds.isEmpty ∨ !choice.takesEffect then world.messages
  else world.messages.bulkMarkNotificationMessagesSent world.now sentIds

def flushFailed (d : Dispatcher) (world : World) (choice : DispatchChoice)
    (failed : List Failure) : MessageTable :=
  if failed.isEmpty ∨ !choice.takesEffect then world.messages
  else world.messages.bulkMarkNotificationMessagesFailed world.now failed maxDispatchAttempts
    d.config.retryIntervalSecs

/-- The next step of `dispatch_once`; after the last one the next cycle begins. -/
def advance (d : Dispatcher) (world : World) (choice : DispatchChoice) : World × Dispatcher :=
  match d.phase with
  | .idle => (world, d.checkPaused choice)
  | .acquiring =>
    let (messages, d) := d.acquire world choice
    ({ world with messages }, d)
  | .dispatching (message :: messages) sentIds failed =>
    (world, d.takeUp world.instant choice message messages sentIds failed)
  | .delivering message messages sentIds failed =>
    ({ world with deliveries := world.deliveries ++ [(message.id, choice.delivery)] },
      d.finishDelivery world.instant choice message messages sentIds failed)
  -- the list has been gone through: first the successes are written, then the failures
  | .dispatching [] sentIds failed =>
    ({ world with messages := flushSent world choice sentIds },
      { d with phase := .flushing failed })
  | .flushing failed =>
    ({ world with messages := d.flushFailed world choice failed }, { d with phase := .idle })

end Dispatcher

/-! ## Any number of them on one table -/

/-- A message is enqueued, with a counter that is null or zero, or time passes. -/
inductive TableEvent where
  | enqueue (id : Uuid) (counted : Bool) (createdAt : Int)
  | elapse (micros nanos : Nat)

def World.happen (world : World) : TableEvent → World
  | .enqueue id counted createdAt =>
    { world with
      messages := world.messages.enqueue id
        (.fresh (if counted then some 0 else none) createdAt) }
  | .elapse micros nanos =>
    { world with
      now := world.now + micros
      instant := world.instant + nanos }

def dispatchers : Program World Dispatcher NotificationConfig DispatchChoice TableEvent where
  enter := Dispatcher.start
  advance world d choice := some (d.advance world choice)
  outside := World.happen

/-- No dispatcher has started. -/
def idle (world : World) : Pool World Dispatcher where
  shared := world
  tasks := []

end Coderd.Notifications
