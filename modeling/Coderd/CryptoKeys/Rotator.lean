import Mathlib.Algebra.Ring.Int.Defs
import Mathlib.Algebra.Ring.Nat
import Mathlib.Data.List.Sort
import Mathlib.Data.Stream.Init
import Mathlib.Order.Lattice
import Coderd.Foundation.Effect
import Coderd.Foundation.HashMap

namespace Coderd.CryptoKeys

open Coderd.Foundation

/-! ## Time -/

/-- A `std::time::Duration` in nanoseconds: `u64` seconds and a fraction of a second. -/
structure Duration where
  nanos : Nat
  lt_max : nanos < 2 ^ 64 * 10 ^ 9

def Duration.fromSecs (secs : UInt64) : Duration where
  nanos := secs.toNat * 10 ^ 9
  lt_max := (Nat.mul_lt_mul_right (by decide)).mpr secs.toNat_lt

def Duration.saturatingMul (d : Duration) (k : Nat) : Duration where
  nanos := min (d.nanos * k) (2 ^ 64 * 10 ^ 9 - 1)
  lt_max := by omega

/-- `duration_to_time_duration`: a `time::Duration` has `i64` seconds, and larger values
are clamped to the greatest one. -/
def durationToTimeDuration (d : Duration) : Int := min d.nanos (2 ^ 63 * 10 ^ 9 - 1)

theorem durationToTimeDuration_nonneg (d : Duration) : 0 ≤ durationToTimeDuration d := by
  unfold durationToTimeDuration
  omega

/-- `time::Duration::hours(1)`. -/
def oneHour : Int := 3600 * 10 ^ 9

/-- An instant of the `time` crate in UTC: nanoseconds since the epoch, between the start
of the year -9999 and the end of the year 9999. -/
structure OffsetDateTime where
  unixNanos : Int
  ge_min : -377705116800 * 10 ^ 9 ≤ unixNanos
  lt_max : unixNanos < 253402300800 * 10 ^ 9

theorem OffsetDateTime.unixNanos_injective : Function.Injective OffsetDateTime.unixNanos := by
  rintro ⟨a, _, _⟩ ⟨b, _, _⟩ hab
  cases hab
  rfl

instance : LinearOrder OffsetDateTime :=
  LinearOrder.lift' OffsetDateTime.unixNanos OffsetDateTime.unixNanos_injective

def OffsetDateTime.unixEpoch : OffsetDateTime := ⟨0, by decide, by decide⟩

/-- Addition of a `time::Duration`; `none` where the crate panics, out of range. -/
def OffsetDateTime.add (t : OffsetDateTime) (d : Int) : Option OffsetDateTime :=
  if h : -377705116800 * 10 ^ 9 ≤ t.unixNanos + d ∧ t.unixNanos + d < 253402300800 * 10 ^ 9 then
    some ⟨t.unixNanos + d, h.1, h.2⟩
  else
    none

theorem OffsetDateTime.le_of_add {t t' : OffsetDateTime} {d : Int} (hd : 0 ≤ d)
    (h : t.add d = some t') : t ≤ t' := by
  unfold OffsetDateTime.add at h
  split at h
  · cases h
    exact (Int.le_add_of_nonneg_right hd : t.unixNanos ≤ t.unixNanos + d)
  · cases h

/-! ## Rows and options -/

inductive CryptoKeyFeature where
  | workspaceAppsToken
  | workspaceAppsApiKey
  | oidcConvert
  | tailnetResume
  deriving DecidableEq, Repr

namespace CryptoKeyFeature

/-- The feature as `{:?}` prints it. -/
def debug : CryptoKeyFeature → String
  | workspaceAppsToken => "WorkspaceAppsToken"
  | workspaceAppsApiKey => "WorkspaceAppsApiKey"
  | oidcConvert => "OidcConvert"
  | tailnetResume => "TailnetResume"

/-- Position in the `crypto_key_feature` enumeration, which is how SQL orders it. -/
def sqlOrder : CryptoKeyFeature → Nat
  | workspaceAppsToken => 0
  | workspaceAppsApiKey => 1
  | oidcConvert => 2
  | tailnetResume => 3

end CryptoKeyFeature

open CryptoKeyFeature

def tokenDuration : CryptoKeyFeature → Duration
  | workspaceAppsApiKey | workspaceAppsToken => .fromSecs 60
  | oidcConvert => .fromSecs (5 * 60)
  | tailnetResume => .fromSecs (24 * 60 * 60)

def secretByteLength : CryptoKeyFeature → Nat
  | workspaceAppsApiKey => 32
  | workspaceAppsToken | oidcConvert | tailnetResume => 64

def managedFeatures : List CryptoKeyFeature :=
  [workspaceAppsApiKey, workspaceAppsToken, oidcConvert, tailnetResume]

structure CryptoKeyRow where
  feature : CryptoKeyFeature
  sequence : Int32
  secret : List UInt8
  startsAt : OffsetDateTime
  deletesAt : Option OffsetDateTime

/-- The primary key of `crypto_keys`. -/
def CryptoKeyRow.key (row : CryptoKeyRow) : CryptoKeyFeature × Int32 := (row.feature, row.sequence)

structure RotatorOptions where
  interval : Duration
  keyDuration : Duration

instance : Inhabited RotatorOptions where
  default := { interval := .fromSecs (5 * 60), keyDuration := .fromSecs (30 * 24 * 60 * 60) }

def shouldDeleteKey (key : CryptoKeyRow) (now : OffsetDateTime) : Bool :=
  match key.deletesAt with
  | some deletesAt => deletesAt ≤ now
  | none => false

def shouldRotateKey (key : CryptoKeyRow) (keyDuration : Duration) (now : OffsetDateTime) :
    Option Bool := do
  if key.deletesAt.isSome then
    return false
  let expiresAt ← key.startsAt.add (durationToTimeDuration keyDuration)
  let soon ← now.add oneHour
  return decide (expiresAt ≤ soon)

def minStartsAt (key : CryptoKeyRow) (now : OffsetDateTime) (keyDuration interval : Duration) :
    Option OffsetDateTime := do
  let expiresAt ← key.startsAt.add (durationToTimeDuration keyDuration)
  let floor ← now.add (durationToTimeDuration (interval.saturatingMul 3))
  return if expiresAt < floor then floor else expiresAt

/-! ## The store -/

inductive StorageError where
  | unavailable (message : String)
  | notFound (message : String)
  | invalidData (message : String)
  deriving DecidableEq, Repr

/-- The rows of `crypto_keys`, with a record of every row ever inserted. -/
structure KeyTable where
  rows : List CryptoKeyRow
  minted : List CryptoKeyRow

namespace KeyTable

def empty : KeyTable := ⟨[], []⟩

def hasKey (table : KeyTable) (key : CryptoKeyFeature × Int32) : Bool :=
  table.rows.any (fun row => row.key == key)

/-- `SELECT … ORDER BY feature ASC, sequence ASC`. -/
def listAll (table : KeyTable) : List CryptoKeyRow :=
  table.rows.insertionSort (fun a b => a.feature.sqlOrder < b.feature.sqlOrder ∨
    (a.feature.sqlOrder = b.feature.sqlOrder ∧ a.sequence ≤ b.sequence))

/-- `SELECT MAX(sequence) … WHERE feature = $1`, and zero for no rows. -/
def maxSequence (table : KeyTable) (feature : CryptoKeyFeature) : Int32 :=
  match (table.rows.filter (fun row => row.feature = feature)).map CryptoKeyRow.sequence with
  | [] => 0
  | sequence :: sequences =>
    sequences.foldl (fun greatest n => if greatest < n then n else greatest) sequence

def delete (table : KeyTable) (key : CryptoKeyFeature × Int32) : KeyTable :=
  { table with rows := table.rows.filter (fun row => row.key ≠ key) }

def push (table : KeyTable) (row : CryptoKeyRow) : KeyTable :=
  { rows := table.rows ++ [row], minted := row :: table.minted }

def stampDeletesAt (table : KeyTable) (key : CryptoKeyFeature × Int32)
    (deletesAt : OffsetDateTime) : KeyTable :=
  { table with
    rows := table.rows.map (fun row =>
      if row.key = key then { row with deletesAt := some deletesAt } else row) }

end KeyTable

/-- What becomes of one call to the store. A crash ends the process there. -/
inductive CallOutcome where
  | succeeds
  | fails (error : StorageError)
  | crashes

structure World where
  keys : KeyTable
  /-- The outcomes of the calls still to come. -/
  outcomes : Stream' CallOutcome
  /-- The bytes `rand::thread_rng` is going to produce. -/
  entropy : Stream' UInt8

/-- Why a computation stopped: an `Err` on its way to a caller, or the end of the task. -/
inductive Stop where
  | storage (error : StorageError)
  | panic

abbrev Rotator (α : Type) := Effect World Stop α

/-- Turn an `Err` back into a value, as a `match` on a `Result` does. Panics go on. -/
def result {α : Type} (m : Rotator α) : Rotator (Except StorageError α) :=
  m.attempt fun
    | .storage e => some e
    | .panic => none

def orPanic {α : Type} : Option α → Rotator α
  | some a => pure a
  | none => Effect.fail .panic

/-- One statement or transaction. Whatever goes wrong, the rows stay as they were. -/
def storeCall {α : Type} (op : KeyTable → Except StorageError (α × KeyTable)) : Rotator α :=
  fun w =>
    let next := { w with outcomes := w.outcomes.tail }
    match w.outcomes.head with
    | .succeeds =>
      match op w.keys with
      | .ok (a, keys) => (.ok a, { next with keys })
      | .error e => (.error (.storage e), next)
    | .fails e => (.error (.storage e), next)
    | .crashes => (.error .panic, next)

def duplicateKey : StorageError :=
  .unavailable ("error returned from database: duplicate key value violates unique constraint "
    ++ "\"crypto_keys_pkey\"")

def listAll : Rotator (List CryptoKeyRow) :=
  storeCall fun keys => .ok (keys.listAll, keys)

def maxSequenceForFeature (feature : CryptoKeyFeature) : Rotator Int32 :=
  storeCall fun keys => .ok (keys.maxSequence feature, keys)

def delete (feature : CryptoKeyFeature) (sequence : Int32) : Rotator Bool :=
  storeCall fun keys => .ok (keys.hasKey (feature, sequence), keys.delete (feature, sequence))

def insert (row : CryptoKeyRow) : Rotator CryptoKeyRow :=
  storeCall fun keys =>
    if keys.hasKey row.key then .error duplicateKey else .ok (row, keys.push row)

def rotateTransactional (oldFeature : CryptoKeyFeature) (oldSequence : Int32)
    (oldDeletesAt : OffsetDateTime) (newRow : CryptoKeyRow) : Rotator CryptoKeyRow :=
  storeCall fun keys =>
    if !keys.hasKey (oldFeature, oldSequence) then
      .error (.invalidData ("crypto key " ++ oldFeature.debug ++ "#" ++ toString oldSequence
        ++ " vanished mid-rotation"))
    else
      let stamped := keys.stampDeletesAt (oldFeature, oldSequence) oldDeletesAt
      if stamped.hasKey newRow.key then .error duplicateKey else .ok (newRow, stamped.push newRow)

/-- `Some` guard is `true`: the lock is ours. `heldElsewhere` says another replica has it. -/
def tryAcquireRotationLock (heldElsewhere : Bool) : Rotator Bool :=
  storeCall fun keys => .ok (!heldElsewhere, keys)

def releaseRotationLock : Rotator Unit :=
  storeCall fun keys => .ok ((), keys)

def fillBytes (n : Nat) : Rotator (List UInt8) := fun w =>
  (.ok (w.entropy.take n), { w with entropy := w.entropy.drop n })

/-! ## The sweep -/

-- Sequences are `i32` and wrap around, as a release build adds them.
def rotateKey (old : CryptoKeyRow) (now : OffsetDateTime) (options : RotatorOptions) :
    Rotator Unit := do
  let startsAt ← orPanic (minStartsAt old now options.keyDuration options.interval)
  let deletesAt ← orPanic do
    let graced ← startsAt.add oneHour
    graced.add (durationToTimeDuration (tokenDuration old.feature))
  let maxSequence ← maxSequenceForFeature old.feature
  let secret ← fillBytes (secretByteLength old.feature)
  let successor :=
    { feature := old.feature, sequence := maxSequence + 1, secret, startsAt, deletesAt := none }
  let _ ← rotateTransactional old.feature old.sequence deletesAt successor

def insertNewKey (feature : CryptoKeyFeature) (startsAt : OffsetDateTime) : Rotator Unit := do
  let maxSequence ← maxSequenceForFeature feature
  let secret ← fillBytes (secretByteLength feature)
  let _ ← insert { feature, sequence := maxSequence + 1, secret, startsAt, deletesAt := none }

/-- The inner loop of `rotate_once_locked`, which returns the number of valid keys. -/
def sweepKeys (options : RotatorOptions) (now : OffsetDateTime) :
    List CryptoKeyRow → Nat → Rotator Nat
  | [], validKeys => pure validKeys
  | key :: keys, validKeys => do
    if shouldDeleteKey key now then
      let _ ← result (delete key.feature key.sequence)
      sweepKeys options now keys validKeys
    else if ← orPanic (shouldRotateKey key options.keyDuration now) then
      match ← result (rotateKey key now options) with
      | .ok () => sweepKeys options now keys (validKeys + 1)
      | .error _ => sweepKeys options now keys validKeys
    else if key.deletesAt.isNone then
      sweepKeys options now keys (validKeys + 1)
    else
      sweepKeys options now keys validKeys

abbrev ByFeature := HashMap CryptoKeyFeature (List CryptoKeyRow)

def groupByFeature (keys : List CryptoKeyRow) : ByFeature :=
  keys.foldl
    (fun byFeature key =>
      byFeature.insert key.feature ((byFeature.lookup key.feature).getD [] ++ [key]))
    (managedFeatures.foldl (fun byFeature feature => byFeature.insert feature []) ∅)

/-- The outer loop of `rotate_once_locked`. -/
def sweepFeatures (options : RotatorOptions) (now : OffsetDateTime) :
    List CryptoKeyFeature → ByFeature → Rotator Unit
  | [], _ => pure ()
  | feature :: features, byFeature => do
    let featureKeys := (byFeature.lookup feature).getD []
    let validKeys ← sweepKeys options now featureKeys 0
    if validKeys = 0 then
      let _ ← result (insertNewKey feature now)
    sweepFeatures options now features (byFeature.erase feature)

def rotateOnceLocked (options : RotatorOptions) (now : OffsetDateTime) : Rotator Unit := do
  let keys ← listAll
  sweepFeatures options now managedFeatures (groupByFeature keys)

def rotateOnce (options : RotatorOptions) (now : OffsetDateTime) (heldElsewhere : Bool) :
    Rotator Unit := do
  if ← tryAcquireRotationLock heldElsewhere then
    let swept ← result (rotateOnceLocked options now)
    let released ← result releaseRotationLock
    match swept, released with
    | .ok (), .ok () => pure ()
    | .error sweepErr, _ => Effect.fail (.storage sweepErr)
    | .ok (), .error releaseErr => Effect.fail (.storage releaseErr)
  else
    pure ()

/-! ## Runs -/

/-- One tick of a rotator: when it runs, under which options, and what the lock, the
store and the random generator have in stock for it. -/
structure Sweep where
  now : OffsetDateTime
  options : RotatorOptions
  heldElsewhere : Bool
  outcomes : Stream' CallOutcome
  entropy : Stream' UInt8

def Sweep.apply (keys : KeyTable) (sweep : Sweep) : KeyTable :=
  (rotateOnce sweep.options sweep.now sweep.heldElsewhere
    { keys, outcomes := sweep.outcomes, entropy := sweep.entropy }).2.keys

def runSweeps (keys : KeyTable) (sweeps : List Sweep) : KeyTable :=
  sweeps.foldl Sweep.apply keys

end Coderd.CryptoKeys
