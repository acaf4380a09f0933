import Mathlib.Algebra.Ring.Int.Defs
import Mathlib.Data.List.Sort
import Coderd.Foundation.HashMap
import Coderd.Foundation.Sql
import Coderd.Foundation.Uuid

namespace Coderd.Notifications

open Coderd.Foundation

/-! ## Rows -/

inductive NotificationMessageStatus where
  | pending
  | leased
  | sent
  | temporaryFailure
  | permanentFailure
  | unknown
  | inhibited
  deriving DecidableEq, Repr

/-- A message in one of these is not dispatched again. -/
def NotificationMessageStatus.isTerminal : NotificationMessageStatus → Bool
  | sent | permanentFailure | inhibited => true
  | _ => false

/-- A row of `notification_messages`, without its id. Times of the database are in
microseconds. -/
structure MessageRow where
  status : NotificationMessageStatus
  statusReason : Option String
  attemptCount : Option Int
  createdAt : Int
  updatedAt : Option Int
  leasedUntil : Option Int
  nextRetryAfter : Option Int
  deriving DecidableEq

abbrev MessageTable := HashMap Uuid MessageRow

structure NotificationMessageRecord where
  id : Uuid
  attemptCount : Int
  deriving DecidableEq

namespace MessageRow

/-- `COALESCE(attempt_count, 0)`. -/
def attempts (row : MessageRow) : Int := row.attemptCount.getD 0

/-- A message as it is enqueued. -/
def fresh (attemptCount : Option Int) (createdAt : Int) : MessageRow where
  status := .pending
  statusReason := none
  attemptCount := attemptCount
  createdAt := createdAt
  updatedAt := none
  leasedUntil := none
  nextRetryAfter := none

end MessageRow

/-- `n as i32`. -/
def asI32 (n : Nat) : Int := (BitVec.ofNat 32 n).toInt

def second : Int := 10 ^ 6

/-! ## The lease -/

namespace MessageRow

open SqlBool in
/-- The `WHERE` clause of the acquisition. -/
def acquirable (row : MessageRow) (now : Int) (maxAttemptCount : Nat) : SqlBool :=
  ((ofBool (row.status = .pending ∨ row.status = .temporaryFailure)).or
      ((ofBool (row.status = .leased)).and
        (compare (fun until' now => until' < now) row.leasedUntil (some now)))).and <|
    ((isNull row.nextRetryAfter).or
      (compare (fun after now => after < now) row.nextRetryAfter (some now))).and <|
    (isNull row.attemptCount).or
      (compare (fun count max => count < max) row.attemptCount (some (asI32 maxAttemptCount)))

theorem acquirable_iff {row : MessageRow} {now : Int} {maxAttemptCount : Nat} :
    row.acquirable now maxAttemptCount = .true ↔
      (row.status = .pending ∨ row.status = .temporaryFailure ∨
        (row.status = .leased ∧ ∃ leasedUntil, row.leasedUntil = some leasedUntil ∧
          leasedUntil < now)) ∧
      (∀ after, row.nextRetryAfter = some after → after < now) ∧
      ∀ count, row.attemptCount = some count → count < asI32 maxAttemptCount := by
  cases hretry : row.nextRetryAfter <;> cases hcount : row.attemptCount <;>
    simp [acquirable, hretry, hcount, or_assoc]

def lease (row : MessageRow) (now : Int) (notifierId : Uuid) : MessageRow :=
  { row with
    status := .leased
    statusReason := some ("Leased by notifier " ++ notifierId.toHyphenated)
    leasedUntil := some (now + 30 * second)
    updatedAt := some now }

end MessageRow

namespace MessageTable

/-- The inner `SELECT`; rows that another transaction has locked are skipped. -/
def selectPending (messages : MessageTable) (now : Int) (limit maxAttemptCount : Nat)
    (locked : List Uuid) : List ((_ : Uuid) × MessageRow) :=
  ((messages.entries.filter fun e =>
    decide (e.2.acquirable now maxAttemptCount = .true) && !locked.contains e.1).insertionSort
      fun e e' => e.2.createdAt ≤ e'.2.createdAt).take limit

def acquirePendingNotificationMessages (messages : MessageTable) (now : Int)
    (limit maxAttemptCount : Nat) (notifierId : Uuid) (locked : List Uuid) :
    List NotificationMessageRecord × MessageTable :=
  let selected := messages.selectPending now limit maxAttemptCount locked
  (selected.map fun e => { id := e.1, attemptCount := e.2.attempts },
    messages.mapValues fun id row =>
      if id ∈ selected.map (·.1) then row.lease now notifierId else row)

theorem mem_selectPending {messages : MessageTable} {now : Int} {limit maxAttemptCount : Nat}
    {locked : List Uuid} {e : (_ : Uuid) × MessageRow}
    (h : e ∈ messages.selectPending now limit maxAttemptCount locked) :
    messages.lookup e.1 = some e.2 ∧ e.2.acquirable now maxAttemptCount = .true := by
  have hmem := (List.perm_insertionSort _ _).subset (List.mem_of_mem_take h)
  obtain ⟨hentry, hwhere⟩ := List.mem_filter.mp hmem
  simp only [Bool.and_eq_true, decide_eq_true_eq] at hwhere
  exact ⟨AList.mem_lookup_iff.mpr hentry, hwhere.1⟩

/-- No message is selected twice. -/
theorem nodup_selectPending (messages : MessageTable) (now : Int) (limit maxAttemptCount : Nat)
    (locked : List Uuid) :
    ((messages.selectPending now limit maxAttemptCount locked).map (·.1)).Nodup := by
  have hkeys : (messages.entries.map (·.1)).Nodup := messages.nodupKeys
  have hfilter := (List.filter_sublist (l := messages.entries) (p := fun e =>
    decide (e.2.acquirable now maxAttemptCount = .true) && !locked.contains e.1)).map (·.1)
  have hsorted := ((List.perm_insertionSort (fun e e' => e.2.createdAt ≤ e'.2.createdAt)
    (messages.entries.filter fun e =>
      decide (e.2.acquirable now maxAttemptCount = .true) && !locked.contains e.1)).map
        (·.1)).nodup_iff.mpr (hfilter.nodup hkeys)
  exact ((List.take_sublist _ _).map _).nodup hsorted

end MessageTable

/-! ## The outcome -/

/-- How a dispatch of a message ended without a delivery. -/
structure Failure where
  id : Uuid
  status : NotificationMessageStatus
  reason : String
  deriving DecidableEq

namespace MessageRow

def markSent (row : MessageRow) (now : Int) : MessageRow :=
  { row with
    updatedAt := some now
    attemptCount := some (row.attempts + 1)
    status := .sent
    statusReason := none
    leasedUntil := none
    nextRetryAfter := none }

/-- A failure that would be the last attempt is permanent. -/
def failedStatus (row : MessageRow) (status : NotificationMessageStatus) (maxAttempts : Nat) :
    NotificationMessageStatus :=
  -- the status that was noted is kept while attempts are left
  if row.attempts + 1 < asI32 maxAttempts ∧ status ≠ .inhibited then status
  else if status = .inhibited then .inhibited
  else .permanentFailure

def markFailed (row : MessageRow) (now : Int) (failure : Failure)
    (maxAttempts retryIntervalSecs : Nat) : MessageRow :=
  { row with
    updatedAt := some now
    attemptCount := some (row.attempts + 1)
    status := row.failedStatus failure.status maxAttempts
    statusReason := some failure.reason
    leasedUntil := none
    nextRetryAfter :=
      if row.attempts + 1 < asI32 maxAttempts ∧ failure.status = .temporaryFailure then
        some (now + asI32 retryIntervalSecs * second)
      else none }

end MessageRow

namespace MessageTable

def bulkMarkNotificationMessagesSent (messages : MessageTable) (now : Int) (ids : List Uuid) :
    MessageTable :=
  messages.mapValues fun id row => if id ∈ ids then row.markSent now else row

/-- A row takes the first of the failures that name it. -/
def bulkMarkNotificationMessagesFailed (messages : MessageTable) (now : Int)
    (failures : List Failure) (maxAttempts retryIntervalSecs : Nat) : MessageTable :=
  messages.mapValues fun id row =>
    match failures.find? fun failure => failure.id = id with
    | some failure => row.markFailed now failure maxAttempts retryIntervalSecs
    | none => row

/-- A message is enqueued under an id that is free. -/
def enqueue (messages : MessageTable) (id : Uuid) (row : MessageRow) : MessageTable :=
  match messages.lookup id with
  | some _ => messages
  | none => messages.insert id row

theorem lookup_enqueue {messages : MessageTable} {id id' : Uuid} {row row' : MessageRow}
    (h : (messages.enqueue id row).lookup id' = some row') :
    messages.lookup id' = some row' ∨ (messages.lookup id' = none ∧ id' = id ∧ row' = row) := by
  unfold enqueue at h
  split at h
  · exact .inl h
  · rename_i hfree
    rw [HashMap.lookup_insert_ite] at h
    split at h
    · rename_i hid
      cases h
      exact .inr ⟨hid ▸ hfree, hid, rfl⟩
    · exact .inl h

theorem lookup_enqueue_of_some {messages : MessageTable} {id id' : Uuid} {row row' : MessageRow}
    (h : messages.lookup id' = some row') :
    (messages.enqueue id row).lookup id' = some row' := by
  unfold enqueue
  split
  · exact h
  · rename_i hfree
    rw [HashMap.lookup_insert_ite, if_neg, h]
    rintro rfl
    rw [hfree] at h
    cases h

end MessageTable

end Coderd.Notifications
