import Coderd.Notifications.Retries

namespace Coderd.Notifications

open Coderd.Foundation

/-! ## A single dispatcher -/

inductive SoloMove where
  | step (choice : DispatchChoice)
  | outside (event : TableEvent)

def soloStep (s : World × Dispatcher) : SoloMove → World × Dispatcher
  | .step choice => s.2.advance s.1 choice
  | .outside event => (s.1.happen event, s.2)

/-- The deliveries of a message that were attempted. -/
def attempted (deliveries : List (Uuid × Delivery)) (id : Uuid) : Nat :=
  deliveries.countP fun e => e.1 = id

/-- One delivery of the message ended with a permanent error, or all attempts were made. -/
def Deserved (deliveries : List (Uuid × Delivery)) (id : Uuid) : Prop :=
  (∃ error, (id, .permanent error) ∈ deliveries) ∨
    attempted deliveries id = maxDispatchAttempts

/-- The budget is spent on deliveries only. -/
structure SpentOnDeliveries (s : World × Dispatcher) : Prop where
  permanent : ∀ id row, s.1.messages.lookup id = some row → row.status = .permanentFailure →
    Deserved s.1.deliveries id
  counted : ∀ id row, s.1.messages.lookup id = some row →
    row.status = .pending ∨ row.status = .temporaryFailure →
      row.attempts = attempted s.1.deliveries id

/-- No statement fails. -/
def SoloMove.faultless : SoloMove → Bool
  | .step choice => choice.fault.isNone
  | .outside _ => true

/-- The message whose turn it is waits for the end of its backoff. -/
def Dispatcher.skips (d : Dispatcher) (instant : Nat) (choice : DispatchChoice) : Bool :=
  match d.phase, choice.preference with
  | .dispatching (_ :: _) _ _, .ok (some true) => false
  | .dispatching (message :: _) _ _, _ => d.isInBackoff message.id instant
  | _, _ => false

def skipping (s : World × Dispatcher) : SoloMove → Bool
  | .step choice => s.2.skips s.1.instant choice
  | .outside _ => false

/-! ## Between the lease and the flush -/

/-- The outcome that is noted for a message agrees with its deliveries. -/
def Settled (deliveries : List (Uuid × Delivery)) (row : MessageRow) (failure : Failure) : Prop :=
  failure.status = .inhibited ∨
    (failure.status = .temporaryFailure ∧ row.attempts + 1 = attempted deliveries failure.id ∧
      attempted deliveries failure.id < maxDispatchAttempts) ∨
    (failure.status = .permanentFailure ∧ Deserved deliveries failure.id)

/-- The messages of a cycle are those that are leased, each of them is in one place, and the
counters of the others are the numbers of their deliveries. -/
structure Spent (messages : MessageTable) (deliveries : List (Uuid × Delivery))
    (todo : List NotificationMessageRecord) (sentIds : List Uuid) (failed : List Failure) :
    Prop where
  nodup : (todo.map (·.id) ++ (sentIds ++ failed.map (·.id))).Nodup
  working : ∀ id ∈ todo.map (·.id) ++ (sentIds ++ failed.map (·.id)),
    ∃ row, messages.lookup id = some row ∧ row.status = .leased
  leased : ∀ id row, messages.lookup id = some row → row.status = .leased →
    id ∈ todo.map (·.id) ++ (sentIds ++ failed.map (·.id))
  known : ∀ e ∈ deliveries, ∃ row, messages.lookup e.1 = some row
  waiting : ∀ id row, messages.lookup id = some row →
    row.status = .pending ∨ row.status = .temporaryFailure →
      row.attempts = attempted deliveries id ∧ attempted deliveries id < maxDispatchAttempts
  todo : ∀ message ∈ todo, ∀ row, messages.lookup message.id = some row →
    message.attemptCount = row.attempts ∧ row.attempts = attempted deliveries message.id ∧
      attempted deliveries message.id < maxDispatchAttempts
  failed : ∀ failure ∈ failed, ∀ row, messages.lookup failure.id = some row →
    Settled deliveries row failure
  permanent : ∀ id row, messages.lookup id = some row → row.status = .permanentFailure →
    Deserved deliveries id

def Dispatcher.todo (d : Dispatcher) : List NotificationMessageRecord :=
  match d.phase with
  | .dispatching messages _ _ => messages
  | .delivering message messages _ _ => message :: messages
  | _ => []

def Dispatcher.sentIds (d : Dispatcher) : List Uuid :=
  match d.phase with
  | .dispatching _ sentIds _ => sentIds
  | .delivering _ _ sentIds _ => sentIds
  | _ => []

abbrev SpentSo (s : World × Dispatcher) : Prop :=
  Spent s.1.messages s.1.deliveries s.2.todo s.2.sentIds s.2.failures

theorem attempted_append (deliveries : List (Uuid × Delivery)) (id id' : Uuid)
    (delivery : Delivery) :
    attempted (deliveries ++ [(id', delivery)]) id =
      attempted deliveries id + if id' = id then 1 else 0 := by
  simp [attempted, List.countP_append, List.countP_cons]

theorem Deserved.append {deliveries : List (Uuid × Delivery)} {id id' : Uuid}
    (h : Deserved deliveries id) (hne : id' ≠ id) (delivery : Delivery) :
    Deserved (deliveries ++ [(id', delivery)]) id := by
  obtain ⟨error, hmem⟩ | hall := h
  · exact .inl ⟨error, List.mem_append_left _ hmem⟩
  · refine .inr ?_
    rw [attempted_append, if_neg hne, hall, Nat.add_zero]

theorem Settled.append {deliveries : List (Uuid × Delivery)} {row : MessageRow}
    {failure : Failure} {id' : Uuid} (h : Settled deliveries row failure)
    (hne : id' ≠ failure.id) (delivery : Delivery) :
    Settled (deliveries ++ [(id', delivery)]) row failure := by
  obtain hinhibited | ⟨hstatus, hcount, hlt⟩ | ⟨hstatus, hdeserved⟩ := h
  · exact .inl hinhibited
  · refine .inr (.inl ⟨hstatus, ?_, ?_⟩) <;> rw [attempted_append, if_neg hne] <;> assumption
  · exact .inr (.inr ⟨hstatus, hdeserved.append hne delivery⟩)

/-- The bulk update keeps the status that was noted. -/
theorem Settled.status_markFailed {deliveries : List (Uuid × Delivery)} {row : MessageRow}
    {failure : Failure} (h : Settled deliveries row failure) (now : Int)
    (retryIntervalSecs : Nat) :
    (row.markFailed now failure maxDispatchAttempts retryIntervalSecs).status =
      failure.status := by
  show row.failedStatus failure.status maxDispatchAttempts = failure.status
  rw [MessageRow.failedStatus, asI32_maxDispatchAttempts]
  obtain hstatus | ⟨hstatus, hcount, hlt⟩ | ⟨hstatus, -⟩ := h
  · simp [hstatus]
  · rw [if_pos ⟨by omega, by rw [hstatus]; decide⟩]
  · rw [hstatus]
    split
    · rfl
    · rfl

/-! ## One step of the cycle -/

theorem lookup_mapValues_ite {messages : MessageTable} {ids : List Uuid}
    {f : MessageRow → MessageRow} {id : Uuid} {row' : MessageRow}
    (h : (messages.mapValues fun id row => if id ∈ ids then f row else row).lookup id =
      some row') :
    ∃ row, messages.lookup id = some row ∧
      ((id ∈ ids ∧ row' = f row) ∨ (id ∉ ids ∧ row' = row)) := by
  rw [HashMap.lookup_mapValues] at h
  obtain ⟨row, hrow, rfl⟩ := Option.map_eq_some_iff.mp h
  refine ⟨row, hrow, ?_⟩
  split
  · exact .inl ⟨‹_›, rfl⟩
  · exact .inr ⟨‹_›, rfl⟩

theorem lookup_bulkMarkNotificationMessagesFailed {messages : MessageTable} {now : Int}
    {failures : List Failure} {maxAttempts retryIntervalSecs : Nat} {id : Uuid}
    {row' : MessageRow}
    (h : (messages.bulkMarkNotificationMessagesFailed now failures maxAttempts
      retryIntervalSecs).lookup id = some row') :
    ∃ row, messages.lookup id = some row ∧
      ((∃ failure ∈ failures, failure.id = id ∧
          row' = row.markFailed now failure maxAttempts retryIntervalSecs) ∨
        (id ∉ failures.map (·.id) ∧ row' = row)) := by
  rw [MessageTable.bulkMarkNotificationMessagesFailed, HashMap.lookup_mapValues] at h
  obtain ⟨row, hrow, rfl⟩ := Option.map_eq_some_iff.mp h
  refine ⟨row, hrow, ?_⟩
  split
  · rename_i failure hfind
    refine .inl ⟨failure, List.mem_of_find?_eq_some hfind, ?_, rfl⟩
    simpa using List.find?_some hfind
  · rename_i hnone
    refine .inr ⟨?_, rfl⟩
    simpa using hnone

namespace Spent

variable {messages : MessageTable} {deliveries : List (Uuid × Delivery)}
  {todo : List NotificationMessageRecord} {sentIds : List Uuid} {failed : List Failure}
  {message : NotificationMessageRecord}

/-- The message in hand is to be marked as sent. -/
theorem send (h : Spent messages deliveries (message :: todo) sentIds failed) :
    Spent messages deliveries todo (sentIds ++ [message.id]) failed := by
  have hperm : (todo.map (·.id) ++ ((sentIds ++ [message.id]) ++ failed.map (·.id))).Perm
      ((message :: todo).map (·.id) ++ (sentIds ++ failed.map (·.id))) := by
    simp only [List.map_cons, List.cons_append, List.append_assoc, List.nil_append]
    rw [← List.append_assoc, ← List.append_assoc]
    exact List.perm_middle
  exact
    { nodup := hperm.nodup_iff.mpr h.nodup
      working := fun id hmem => h.working id (hperm.mem_iff.mp hmem)
      leased := fun id row hrow hstatus => hperm.mem_iff.mpr (h.leased id row hrow hstatus)
      known := h.known
      waiting := h.waiting
      todo := fun m hm => h.todo m (List.mem_cons_of_mem _ hm)
      failed := h.failed
      permanent := h.permanent }

/-- The same for a message that is noted among the failures, once it is not waiting any more. -/
theorem fail {failure : Failure}
    (h : Spent messages deliveries todo (sentIds ++ [failure.id]) failed)
    (hsettled : ∀ row, messages.lookup failure.id = some row → Settled deliveries row failure) :
    Spent messages deliveries todo sentIds (failed ++ [failure]) := by
  have hperm : (todo.map (·.id) ++ (sentIds ++ (failed ++ [failure]).map (·.id))).Perm
      (todo.map (·.id) ++ ((sentIds ++ [failure.id]) ++ failed.map (·.id))) := by
    rw [List.append_assoc, List.map_append]
    exact (List.perm_append_comm.append_left sentIds).append_left _
  exact
    { nodup := hperm.nodup_iff.mpr h.nodup
      working := fun id hmem => h.working id (hperm.mem_iff.mp hmem)
      leased := fun id row hrow hstatus => hperm.mem_iff.mpr (h.leased id row hrow hstatus)
      known := h.known
      waiting := h.waiting
      todo := h.todo
      failed := by
        intro f hf row hrow
        obtain hold | hnew := List.mem_append.mp hf
        · exact h.failed f hold row hrow
        · cases List.mem_singleton.mp hnew
          exact hsettled row hrow
      permanent := h.permanent }

/-- A delivery is counted for its own message only. -/
theorem deliver {id : Uuid} (h : Spent messages deliveries todo (sentIds ++ [id]) failed)
    (delivery : Delivery) :
    Spent messages (deliveries ++ [(id, delivery)]) todo (sentIds ++ [id]) failed := by
  have hmem : id ∈ todo.map (·.id) ++ ((sentIds ++ [id]) ++ failed.map (·.id)) := by simp
  obtain ⟨leasedRow, hleasedRow, hleased⟩ := h.working id hmem
  -- the message is leased, and the others of the cycle have other ids
  have hother : ∀ id' row, messages.lookup id' = some row → row.status ≠ .leased → id ≠ id' := by
    rintro id' row hrow hstatus rfl
    rw [hleasedRow] at hrow
    cases hrow
    exact hstatus hleased
  have hnodup := h.nodup
  have htodo : ∀ m ∈ todo, id ≠ m.id := by
    rintro m hm rfl
    have hdisjoint := (List.nodup_append.mp hnodup).2.2
    exact hdisjoint m.id (List.mem_map_of_mem hm) m.id (by simp) rfl
  have hfailed : ∀ f ∈ failed, id ≠ f.id := by
    rintro f hf rfl
    have hrest := (List.nodup_append.mp hnodup).2.1
    exact (List.nodup_append.mp hrest).2.2 f.id (by simp) f.id (List.mem_map_of_mem hf) rfl
  have hcount : ∀ id', id ≠ id' →
      attempted (deliveries ++ [(id, delivery)]) id' = attempted deliveries id' := by
    intro id' hne
    rw [attempted_append, if_neg hne, Nat.add_zero]
  exact
    { nodup := h.nodup
      working := h.working
      leased := h.leased
      known := by
        intro e he
        obtain hold | hnew := List.mem_append.mp he
        · exact h.known e hold
        · cases List.mem_singleton.mp hnew
          exact ⟨leasedRow, hleasedRow⟩
      waiting := by
        intro id' row hrow hstatus
        rw [hcount id' (hother id' row hrow (by rintro h; simp [h] at hstatus))]
        exact h.waiting id' row hrow hstatus
      todo := by
        intro m hm row hrow
        rw [hcount m.id (htodo m hm)]
        exact h.todo m hm row hrow
      failed := fun f hf row hrow => (h.failed f hf row hrow).append (hfailed f hf) delivery
      permanent := by
        intro id' row hrow hstatus
        exact (h.permanent id' row hrow hstatus).append
          (hother id' row hrow (by rw [hstatus]; decide)) delivery }

theorem known_mapValues (h : Spent messages deliveries todo sentIds failed)
    (f : Uuid → MessageRow → MessageRow) :
    ∀ e ∈ deliveries, ∃ row, (messages.mapValues f).lookup e.1 = some row := by
  intro e he
  obtain ⟨row, hrow⟩ := h.known e he
  rw [HashMap.lookup_mapValues, hrow]
  exact ⟨_, rfl⟩

/-- Between two cycles no message is leased, so only messages that wait are selected. -/
theorem selected_waits (h : Spent messages deliveries [] [] []) {now : Int}
    {limit maxAttemptCount : Nat} {locked : List Uuid} {e : (_ : Uuid) × MessageRow}
    (he : e ∈ messages.selectPending now limit maxAttemptCount locked) :
    messages.lookup e.1 = some e.2 ∧
      (e.2.status = .pending ∨ e.2.status = .temporaryFailure) := by
  obtain ⟨hrow, hwhere⟩ := MessageTable.mem_selectPending he
  obtain ⟨hstatus | hstatus | ⟨hstatus, -⟩, -⟩ := MessageRow.acquirable_iff.mp hwhere
  · exact ⟨hrow, .inl hstatus⟩
  · exact ⟨hrow, .inr hstatus⟩
  · cases h.leased e.1 e.2 hrow hstatus

theorem acquire (h : Spent messages deliveries [] [] []) (now : Int) (limit : Nat)
    (notifierId : Uuid) (locked : List Uuid) :
    Spent
      (messages.acquirePendingNotificationMessages now limit maxDispatchAttempts notifierId
        locked).2
      deliveries
      (messages.acquirePendingNotificationMessages now limit maxDispatchAttempts notifierId
        locked).1 [] [] := by
  generalize hselected : messages.selectPending now limit maxDispatchAttempts locked = selected
  have hnodup : (selected.map (·.1)).Nodup := by
    rw [← hselected]
    exact MessageTable.nodup_selectPending _ _ _ _ _
  have hwaiting : ∀ e ∈ selected, messages.lookup e.1 = some e.2 ∧
      (e.2.status = .pending ∨ e.2.status = .temporaryFailure) := by
    rw [← hselected]
    exact fun e he => h.selected_waits he
  simp only [MessageTable.acquirePendingNotificationMessages, hselected]
  have hids : (selected.map fun e => NotificationMessageRecord.mk e.1 e.2.attempts).map (·.id) =
      selected.map (·.1) := by
    rw [List.map_map]
    rfl
  exact
    { nodup := by
        rw [hids]
        simpa using hnodup
      working := by
        intro id hmem
        rw [hids] at hmem
        have hmem : id ∈ selected.map (·.1) := by simpa using hmem
        obtain ⟨e, he, rfl⟩ := List.mem_map.mp hmem
        refine ⟨e.2.lease now notifierId, ?_, rfl⟩
        rw [HashMap.lookup_mapValues, (hwaiting e he).1, Option.map_some, if_pos hmem]
      leased := by
        intro id row' hrow' hstatus
        rw [hids]
        obtain ⟨row, hrow, ⟨hmem, -⟩ | ⟨-, rfl⟩⟩ := lookup_mapValues_ite hrow'
        · exact List.mem_append_left _ hmem
        · cases h.leased id row' hrow hstatus
      known := h.known_mapValues _
      waiting := by
        intro id row' hrow' hstatus
        obtain ⟨row, hrow, ⟨-, rfl⟩ | ⟨-, rfl⟩⟩ := lookup_mapValues_ite hrow'
        · obtain hstatus | hstatus := hstatus <;> cases hstatus
        · exact h.waiting id row' hrow hstatus
      todo := by
        intro message hmessage row' hrow'
        obtain ⟨e, he, rfl⟩ := List.mem_map.mp hmessage
        obtain ⟨hbefore, hstatus⟩ := hwaiting e he
        obtain ⟨hattempts, hlt⟩ := h.waiting e.1 e.2 hbefore hstatus
        obtain ⟨row, hrow, hcases⟩ := lookup_mapValues_ite hrow'
        rw [hbefore] at hrow
        cases hrow
        obtain ⟨-, rfl⟩ | ⟨-, rfl⟩ := hcases <;> exact ⟨rfl, hattempts, hlt⟩
      failed := by
        intro failure hfailure
        cases hfailure
      permanent := by
        intro id row' hrow' hstatus
        obtain ⟨row, hrow, ⟨-, rfl⟩ | ⟨-, rfl⟩⟩ := lookup_mapValues_ite hrow'
        · cases hstatus
        · exact h.permanent id row' hrow hstatus }

/-- The messages of `sentIds` leave the cycle. -/
theorem markSent (h : Spent messages deliveries [] sentIds failed) (now : Int) :
    Spent (messages.bulkMarkNotificationMessagesSent now sentIds) deliveries [] [] failed := by
  have hnodup : (sentIds ++ failed.map (·.id)).Nodup := h.nodup
  obtain ⟨-, hfailedNodup, hdisjoint⟩ := List.nodup_append.mp hnodup
  exact
    { nodup := hfailedNodup
      working := by
        intro id hmem
        have hmem : id ∈ failed.map (·.id) := hmem
        obtain ⟨row, hrow, hstatus⟩ := h.working id (List.mem_append_right sentIds hmem)
        refine ⟨row, ?_, hstatus⟩
        rw [MessageTable.bulkMarkNotificationMessagesSent, HashMap.lookup_mapValues, hrow,
          Option.map_some, if_neg fun hsent => hdisjoint id hsent id hmem rfl]
      leased := by
        intro id row' hrow' hstatus
        obtain ⟨row, hrow, ⟨-, rfl⟩ | ⟨hunsent, rfl⟩⟩ := lookup_mapValues_ite hrow'
        · cases hstatus
        · have hmem : id ∈ sentIds ++ failed.map (·.id) := h.leased id row' hrow hstatus
          obtain hsent | hfailed := List.mem_append.mp hmem
          · exact absurd hsent hunsent
          · exact hfailed
      known := h.known_mapValues _
      waiting := by
        intro id row' hrow' hstatus
        obtain ⟨row, hrow, ⟨-, rfl⟩ | ⟨-, rfl⟩⟩ := lookup_mapValues_ite hrow'
        · obtain hstatus | hstatus := hstatus <;> cases hstatus
        · exact h.waiting id row' hrow hstatus
      todo := by
        intro message hmessage
        cases hmessage
      failed := by
        intro failure hfailure row' hrow'
        obtain ⟨row, hrow, ⟨hsent, -⟩ | ⟨-, rfl⟩⟩ := lookup_mapValues_ite hrow'
        · exact absurd rfl (hdisjoint failure.id hsent failure.id (List.mem_map_of_mem hfailure))
        · exact h.failed failure hfailure row' hrow
      permanent := by
        intro id row' hrow' hstatus
        obtain ⟨row, hrow, ⟨-, rfl⟩ | ⟨-, rfl⟩⟩ := lookup_mapValues_ite hrow'
        · cases hstatus
        · exact h.permanent id row' hrow hstatus }

/-- The noted failures are written, each with the status that it was noted with. -/
theorem markFailed (h : Spent messages deliveries [] [] failed) (now : Int)
    (retryIntervalSecs : Nat) :
    Spent (messages.bulkMarkNotificationMessagesFailed now failed maxDispatchAttempts
      retryIntervalSecs) deliveries [] [] [] := by
  exact
    { nodup := List.nodup_nil
      working := by
        intro id hmem
        cases hmem
      leased := by
        intro id row' hrow' hstatus
        obtain ⟨row, hrow, ⟨failure, hfailure, rfl, rfl⟩ | ⟨hnone, rfl⟩⟩ :=
          lookup_bulkMarkNotificationMessagesFailed hrow'
        · have hsettled := h.failed failure hfailure row hrow
          rw [hsettled.status_markFailed] at hstatus
          obtain hnoted | ⟨hnoted, -⟩ | ⟨hnoted, -⟩ := hsettled <;> rw [hnoted] at hstatus <;>
            cases hstatus
        · exact absurd (h.leased id row' hrow hstatus) hnone
      known := h.known_mapValues _
      waiting := by
        intro id row' hrow' hstatus
        obtain ⟨row, hrow, ⟨failure, hfailure, rfl, rfl⟩ | ⟨-, rfl⟩⟩ :=
          lookup_bulkMarkNotificationMessagesFailed hrow'
        · have hsettled := h.failed failure hfailure row hrow
          rw [hsettled.status_markFailed] at hstatus
          obtain hnoted | ⟨-, hcount, hlt⟩ | ⟨hnoted, -⟩ := hsettled
          · rw [hnoted] at hstatus
            obtain hstatus | hstatus := hstatus <;> cases hstatus
          · exact ⟨hcount, hlt⟩
          · rw [hnoted] at hstatus
            obtain hstatus | hstatus := hstatus <;> cases hstatus
        · exact h.waiting id row' hrow hstatus
      todo := by
        intro message hmessage
        cases hmessage
      failed := by
        intro failure hfailure
        cases hfailure
      permanent := by
        intro id row' hrow' hstatus
        obtain ⟨row, hrow, ⟨failure, hfailure, rfl, rfl⟩ | ⟨-, rfl⟩⟩ :=
          lookup_bulkMarkNotificationMessagesFailed hrow'
        · have hsettled := h.failed failure hfailure row hrow
          rw [hsettled.status_markFailed] at hstatus
          obtain hnoted | ⟨hnoted, -⟩ | ⟨-, hdeserved⟩ := hsettled
          · rw [hnoted] at hstatus
            cases hstatus
          · rw [hnoted] at hstatus
            cases hstatus
          · exact hdeserved
        · exact h.permanent id row' hrow hstatus }

/-- The counter of a new message is zero, and nothing was delivered under its id. -/
theorem enqueue (h : Spent messages deliveries todo sentIds failed) (id : Uuid) (counted : Bool)
    (createdAt : Int) :
    Spent (messages.enqueue id (.fresh (if counted then some 0 else none) createdAt)) deliveries
      todo sentIds failed := by
  have hrows : ∀ {id' row}, messages.lookup id' = some row → ∀ {row'},
      (messages.enqueue id (.fresh (if counted then some 0 else none) createdAt)).lookup id' =
        some row' → row' = row := by
    intro id' row hrow row' hrow'
    rw [MessageTable.lookup_enqueue_of_some hrow] at hrow'
    cases hrow'
    rfl
  -- an id that is free was never delivered
  have hknown : ∀ id', messages.lookup id' = none → attempted deliveries id' = 0 := by
    intro id' hnone
    refine List.countP_eq_zero.mpr fun e he heq => ?_
    obtain ⟨row, hrow⟩ := h.known e he
    rw [of_decide_eq_true heq, hnone] at hrow
    cases hrow
  exact
    { nodup := h.nodup
      working := by
        intro id' hmem
        obtain ⟨row, hrow, hstatus⟩ := h.working id' hmem
        exact ⟨row, MessageTable.lookup_enqueue_of_some hrow, hstatus⟩
      leased := by
        intro id' row' hrow' hstatus
        obtain hold | ⟨-, -, rfl⟩ := MessageTable.lookup_enqueue hrow'
        · exact h.leased id' row' hold hstatus
        · cases hstatus
      known := by
        intro e he
        obtain ⟨row, hrow⟩ := h.known e he
        exact ⟨row, MessageTable.lookup_enqueue_of_some hrow⟩
      waiting := by
        intro id' row' hrow' hstatus
        obtain hold | ⟨hnone, -, rfl⟩ := MessageTable.lookup_enqueue hrow'
        · exact h.waiting id' row' hold hstatus
        · rw [hknown id' hnone]
          cases counted <;> exact ⟨rfl, by decide⟩
      todo := by
        intro message hmessage row' hrow'
        obtain ⟨row, hrow, -⟩ := h.working message.id
          (List.mem_append_left _ (List.mem_map_of_mem hmessage))
        rw [hrows hrow hrow']
        exact h.todo message hmessage row hrow
      failed := by
        intro failure hfailure row' hrow'
        obtain ⟨row, hrow, -⟩ := h.working failure.id
          (List.mem_append_right _ (List.mem_append_right _ (List.mem_map_of_mem hfailure)))
        rw [hrows hrow hrow']
        exact h.failed failure hfailure row hrow
      permanent := by
        intro id' row' hrow' hstatus
        obtain hold | ⟨-, -, rfl⟩ := MessageTable.lookup_enqueue hrow'
        · exact h.permanent id' row' hold hstatus
        · cases hstatus }

end Spent

/-! ## Every run -/

theorem spentSo_takeUp {world : World} {d : Dispatcher} {choice : DispatchChoice}
    {message : NotificationMessageRecord} {messages : List NotificationMessageRecord}
    {sentIds : List Uuid} {failed : List Failure}
    (h : Spent world.messages world.deliveries (message :: messages) sentIds failed)
    (hskip : choice.preference = .ok (some true) ∨ d.isInBackoff message.id world.instant = false) :
    SpentSo (world, d.takeUp world.instant choice message messages sentIds failed) := by
  rw [Dispatcher.takeUp]
  split
  · exact Spent.fail h.send fun row _ => .inl rfl
  · rename_i hwanted
    obtain hdisabled | hready := hskip
    · exact absurd hdisabled hwanted
    · rw [if_neg (by simp [hready])]
      exact h

theorem spentSo_finishDelivery {world : World} {d : Dispatcher} {choice : DispatchChoice}
    {message : NotificationMessageRecord} {messages : List NotificationMessageRecord}
    {sentIds : List Uuid} {failed : List Failure}
    (h : Spent world.messages world.deliveries (message :: messages) sentIds failed) :
    SpentSo ({ world with deliveries := world.deliveries ++ [(message.id, choice.delivery)] },
      d.finishDelivery world.instant choice message messages sentIds failed) := by
  have hsent := h.send.deliver choice.delivery
  have htodo := h.todo message List.mem_cons_self
  have hcount : attempted (world.deliveries ++ [(message.id, choice.delivery)]) message.id =
      attempted world.deliveries message.id + 1 := by
    rw [attempted_append, if_pos rfl]
  simp only [Dispatcher.finishDelivery]
  split
  · exact hsent
  · rename_i error hdelivery
    refine Spent.fail hsent fun row hrow => .inr (.inr ⟨rfl, .inl ⟨error, ?_⟩⟩)
    exact List.mem_append_right _ (by rw [hdelivery]; exact List.mem_singleton.mpr rfl)
  · rename_i error hdelivery
    split
    · rename_i hexhausted
      refine Spent.fail hsent fun row hrow => .inr (.inr ⟨rfl, .inr ?_⟩)
      -- the attempt that the record counts up to the limit was the last one left
      obtain ⟨hrecord, hattempts, hlt⟩ := htodo row hrow
      have hlast := of_decide_eq_true hexhausted
      rw [asI32_maxDispatchAttempts] at hlast
      rw [hcount]
      omega
    · rename_i hleft
      refine Spent.fail hsent fun row hrow => .inr (.inl ⟨rfl, ?_, ?_⟩)
      all_goals
        obtain ⟨hrecord, hattempts, hlt⟩ := htodo row hrow
        rw [hcount]
      · rw [hattempts]
        rfl
      · have hmore : ¬ (asI32 maxDispatchAttempts ≤ message.attemptCount + 1) := by
          simpa [Dispatcher.attemptsExhausted] using hleft
        rw [asI32_maxDispatchAttempts] at hmore
        omega

theorem DispatchChoice.takesEffect_of_faultless {choice : DispatchChoice}
    (h : choice.fault = none) : choice.takesEffect = true := by
  rw [takesEffect, h]
  rfl

theorem spentSo_advance {world : World} {d : Dispatcher} {choice : DispatchChoice}
    (h : SpentSo (world, d)) (hfault : choice.fault = none)
    (hskip : d.skips world.instant choice = false) : SpentSo (d.advance world choice) := by
  have heffect := DispatchChoice.takesEffect_of_faultless hfault
  obtain ⟨config, retryAfter, phase⟩ := d
  cases phase with
  | idle =>
    simp only [Dispatcher.advance, Dispatcher.checkPaused]
    split <;> exact h
  | acquiring =>
    simp only [Dispatcher.advance, Dispatcher.acquire, heffect, hfault]
    exact Spent.acquire h world.now dispatchBatchSize choice.notifierId choice.locked
  | delivering message messages sentIds failed => exact spentSo_finishDelivery h
  | dispatching messages sentIds failed =>
    cases messages with
    | cons message messages =>
      refine spentSo_takeUp h ?_
      rw [Dispatcher.skips] at hskip
      split at hskip
      · exact .inl ‹_›
      · rename_i hphase _
        cases hphase
        exact .inr hskip
      · rename_i hphase _
        exact (hphase message messages sentIds failed rfl).elim
    | nil =>
      simp only [Dispatcher.advance, Dispatcher.flushSent, heffect]
      split
      · rename_i hempty
        have hnil : sentIds = [] := by simpa using hempty
        subst hnil
        exact h
      · exact Spent.markSent h world.now
  | flushing failed =>
    simp only [Dispatcher.advance, Dispatcher.flushFailed, heffect]
    split
    · rename_i hempty
      have hnil : failed = [] := by simpa using hempty
      subst hnil
      exact h
    · exact Spent.markFailed h world.now _

theorem spentSo_step {s : World × Dispatcher} {move : SoloMove} (h : SpentSo s)
    (hfault : move.faultless = true) (hskip : skipping s move = false) :
    SpentSo (soloStep s move) := by
  cases move with
  | step choice => exact spentSo_advance h (Option.isNone_iff_eq_none.mp hfault) hskip
  | outside event =>
    cases event with
    | enqueue id counted createdAt => exact Spent.enqueue h id counted createdAt
    | elapse micros nanos => exact h

theorem spentSo_start {world : World} (hfresh : Fresh world.messages)
    (hdeliveries : world.deliveries = []) (config : NotificationConfig) :
    SpentSo (world, .start config) := by
  have hrows : ∀ id row, world.messages.lookup id = some row →
      row.status = .pending ∧ row.attempts = 0 := by
    intro id row hrow
    obtain ⟨counted, createdAt, rfl⟩ := hfresh id row hrow
    cases counted <;> exact ⟨rfl, rfl⟩
  have hnone : ∀ id, attempted world.deliveries id = 0 := by
    intro id
    rw [hdeliveries]
    rfl
  exact
    { nodup := List.nodup_nil
      working := by
        intro id hmem
        cases hmem
      leased := by
        intro id row hrow hstatus
        rw [(hrows id row hrow).1] at hstatus
        cases hstatus
      known := by
        intro e he
        rw [hdeliveries] at he
        cases he
      waiting := by
        intro id row hrow _
        rw [hnone id]
        exact ⟨(hrows id row hrow).2, by decide⟩
      todo := by
        intro message hmessage
        cases hmessage
      failed := by
        intro failure hfailure
        cases hfailure
      permanent := by
        intro id row hrow hstatus
        rw [(hrows id row hrow).1] at hstatus
        cases hstatus }

theorem spentSo_run {s : World × Dispatcher} (h : SpentSo s) {moves : List SoloMove}
    (hmoves : Along soloStep (fun s move => move.faultless = true ∧ skipping s move = false) s
      moves) :
    SpentSo (moves.foldl soloStep s) := by
  induction moves generalizing s with
  | nil => exact h
  | cons move moves ih =>
    obtain ⟨⟨hfault, hskip⟩, hrest⟩ := hmoves
    exact ih (spentSo_step h hfault hskip) hrest

/-- As long as no message comes up for its turn within its backoff, a message is given up only
for its deliveries, and its counter is their number. -/
theorem spentOnDeliveries (world : World) (hfresh : Fresh world.messages)
    (hdeliveries : world.deliveries = []) (config : NotificationConfig) (moves : List SoloMove)
    (hmoves : Along soloStep (fun s move => move.faultless = true ∧ skipping s move = false)
      (world, .start config) moves) :
    SpentOnDeliveries (moves.foldl soloStep (world, .start config)) := by
  have hrun := spentSo_run (spentSo_start hfresh hdeliveries config) hmoves
  exact ⟨hrun.permanent, fun id row hrow hstatus => (hrun.waiting id row hrow hstatus).1⟩

/-! ## A skipped message -/

/-- A cycle that takes up one message. -/
def cycle (delivery : Delivery) : List SoloMove :=
  [.step {}, .step {}, .step {}, .step { delivery }, .step {}, .step {}]

def pause (seconds : Nat) : SoloMove :=
  .outside (.elapse (seconds * 10 ^ 6) (seconds * 10 ^ 9))

/-- With twelve seconds between the cycles each of the three attempts is a delivery. -/
def slowRetries : List SoloMove :=
  cycle (.retryable "timeout") ++ pause 12 :: cycle (.retryable "timeout") ++
    pause 12 :: cycle (.retryable "timeout")

theorem spentOnDeliveries_slowRetries :
    SpentOnDeliveries (slowRetries.foldl soloStep (oneMessage, .start fiveSeconds)) := by
  refine spentOnDeliveries oneMessage fresh_oneMessage rfl fiveSeconds slowRetries ?_
  decide

/-- With six seconds between them the third one comes within the second backoff, of ten seconds:
the interval in the table is five seconds, so the message is acquired, and it is skipped. -/
def quickRetries : List SoloMove :=
  cycle (.retryable "timeout") ++ pause 6 :: cycle (.retryable "timeout") ++
    pause 6 :: [.step {}, .step {}, .step {}, .step {}, .step {}]

/-- The message is given up after two deliveries, neither of which was a permanent failure. -/
theorem not_spentOnDeliveries_quickRetries :
    ¬ SpentOnDeliveries (quickRetries.foldl soloStep (oneMessage, .start fiveSeconds)) := by
  intro h
  have hrow : (quickRetries.foldl soloStep
      (oneMessage, .start fiveSeconds)).1.messages.lookup ⟨7⟩ =
      some
        { status := .permanentFailure
          statusReason := some "backoff"
          attemptCount := some 3
          createdAt := 0
          updatedAt := some (12 * 10 ^ 6)
          leasedUntil := none
          nextRetryAfter := none } := by rfl
  have hdeliveries : (quickRetries.foldl soloStep
      (oneMessage, .start fiveSeconds)).1.deliveries =
      [(⟨7⟩, .retryable "timeout"), (⟨7⟩, .retryable "timeout")] := by rfl
  have hdeserved := h.permanent ⟨7⟩ _ hrow rfl
  rw [hdeliveries] at hdeserved
  obtain ⟨error, hmem⟩ | hall := hdeserved
  · simp at hmem
  · exact absurd hall (by decide)

end Coderd.Notifications
