import Coderd.Notifications.Dispatcher

namespace Coderd.Notifications

open Coderd.Foundation

/-! ## What is claimed -/

/-- The messages that the acquisition returns to the dispatcher. -/
def Dispatcher.acquires (d : Dispatcher) (world : World) (choice : DispatchChoice) : List Uuid :=
  match d.phase, choice.fault with
  | .acquiring, none =>
    (world.messages.selectPending world.now dispatchBatchSize maxDispatchAttempts
      choice.locked).map (·.1)
  | _, _ => []

def acquires (w : Pool World Dispatcher) :
    Move NotificationConfig DispatchChoice TableEvent → List Uuid
  | .run i choice =>
    match w.tasks[i]? with
    | some d => d.acquires w.shared choice
    | none => []
  | _ => []

/-- The messages of one table that are in a terminal status are in it in the other. -/
def Keeps (messages messages' : MessageTable) : Prop :=
  ∀ id row, messages.lookup id = some row → row.status.isTerminal = true →
    ∃ row', messages'.lookup id = some row' ∧ row'.status = row.status

/-- A message that is in a terminal status at some point of the run has the same status at every
later one, and is not acquired again. -/
structure TerminalIsFinal (world : World)
    (moves : List (Move NotificationConfig DispatchChoice TableEvent)) : Prop where
  status : ∀ before after rest, moves = before ++ (after ++ rest) →
    Keeps (dispatchers.run (idle world) before).shared.messages
      (dispatchers.run (idle world) (before ++ after)).shared.messages
  acquire : ∀ before after move rest, moves = before ++ (after ++ move :: rest) →
    ∀ id row, (dispatchers.run (idle world) before).shared.messages.lookup id = some row →
      row.status.isTerminal = true →
        id ∉ acquires (dispatchers.run (idle world) (before ++ after)) move

/-! ## The bulk updates -/

/-- One of the two bulk updates at the end of a cycle. -/
inductive Mark where
  | sent (ids : List Uuid)
  | failed (failures : List Failure) (retryIntervalSecs : Nat)

namespace Mark

/-- What it makes of a row. -/
def set (mark : Mark) (now : Int) (id : Uuid) (row : MessageRow) : MessageRow :=
  match mark with
  | sent ids => if id ∈ ids then row.markSent now else row
  | failed failures retryIntervalSecs =>
    match failures.find? fun failure => failure.id = id with
    | some failure => row.markFailed now failure maxDispatchAttempts retryIntervalSecs
    | none => row

def apply (mark : Mark) (messages : MessageTable) (now : Int) : MessageTable :=
  messages.mapValues (mark.set now)

/-- Every row in a terminal status that the update names already has the status it would
write. -/
def spares (mark : Mark) (world : World) : Bool :=
  world.messages.entries.all fun e =>
    !e.2.status.isTerminal || decide ((mark.set world.now e.1 e.2).status = e.2.status)

theorem spares_iff (mark : Mark) (world : World) :
    mark.spares world = true ↔
      ∀ id row, world.messages.lookup id = some row → row.status.isTerminal = true →
        (mark.set world.now id row).status = row.status := by
  simp only [spares, List.all_eq_true, Bool.or_eq_true, Bool.not_eq_true', decide_eq_true_eq]
  constructor
  · intro h id row hrow hterminal
    obtain hopen | hsame := h ⟨id, row⟩ (AList.mem_lookup_iff.mp hrow)
    · rw [hterminal] at hopen
      cases hopen
    · exact hsame
  · rintro h ⟨id, row⟩ hmem
    cases hterminal : row.status.isTerminal with
    | false => exact .inl rfl
    | true => exact .inr (h id row (AList.mem_lookup_iff.mpr hmem) hterminal)

end Mark

/-- The bulk update that a dispatcher is about to make. -/
def Dispatcher.marking (d : Dispatcher) (choice : DispatchChoice) : Option Mark :=
  match d.phase with
  | .dispatching [] sentIds _ =>
    if sentIds.isEmpty ∨ !choice.takesEffect then none else some (.sent sentIds)
  | .flushing failed =>
    if failed.isEmpty ∨ !choice.takesEffect then none
    else some (.failed failed d.config.retryIntervalSecs)
  | _ => none

/-! ## What a step does to the table -/

inductive Effect (world : World) : Option Mark → MessageTable → Prop where
  | same : Effect world none world.messages
  | acquired (notifierId : Uuid) (locked : List Uuid) :
    Effect world none (world.messages.acquirePendingNotificationMessages world.now
      dispatchBatchSize maxDispatchAttempts notifierId locked).2
  | marked (mark : Mark) : Effect world (some mark) (mark.apply world.messages world.now)

theorem Dispatcher.advance_effect (d : Dispatcher) (world : World) (choice : DispatchChoice) :
    Effect world (d.marking choice) (d.advance world choice).1.messages := by
  obtain ⟨config, retryAfter, phase⟩ := d
  cases phase with
  | idle => exact .same
  | acquiring =>
    show Effect world none (if choice.takesEffect = true then _ else _)
    split
    · exact .acquired choice.notifierId choice.locked
    · exact .same
  | delivering message messages sentIds failed => exact .same
  | dispatching messages sentIds failed =>
    cases messages with
    | cons message messages => exact .same
    | nil =>
      simp only [marking, advance, flushSent]
      split
      · exact .same
      · exact .marked (.sent sentIds)
  | flushing failed =>
    simp only [marking, advance, flushFailed]
    split
    · exact .same
    · exact .marked (.failed failed config.retryIntervalSecs)

namespace Keeps

variable {messages messages' messages'' : MessageTable}

theorem refl (messages : MessageTable) : Keeps messages messages :=
  fun _ row hrow _ => ⟨row, hrow, rfl⟩

theorem trans (h : Keeps messages messages') (h' : Keeps messages' messages'') :
    Keeps messages messages'' := by
  intro id row hrow hterminal
  obtain ⟨row', hrow', hstatus⟩ := h id row hrow hterminal
  obtain ⟨row'', hrow'', hstatus'⟩ := h' id row' hrow' (hstatus ▸ hterminal)
  exact ⟨row'', hrow'', hstatus'.trans hstatus⟩

theorem mapValues_iff {f : Uuid → MessageRow → MessageRow} :
    Keeps messages (messages.mapValues f) ↔
      ∀ id row, messages.lookup id = some row → row.status.isTerminal = true →
        (f id row).status = row.status := by
  constructor
  · intro h id row hrow hterminal
    obtain ⟨row', hrow', hstatus⟩ := h id row hrow hterminal
    rw [HashMap.lookup_mapValues, hrow] at hrow'
    cases hrow'
    exact hstatus
  · intro h id row hrow hterminal
    refine ⟨f id row, ?_, h id row hrow hterminal⟩
    rw [HashMap.lookup_mapValues, hrow]
    rfl

end Keeps

/-- The clause of the acquisition names the statuses that are not terminal. -/
theorem MessageRow.isTerminal_of_acquirable {row : MessageRow} {now : Int} {max : Nat}
    (h : row.acquirable now max = .true) : row.status.isTerminal = false := by
  obtain ⟨hstatus | hstatus | ⟨hstatus, -⟩, -⟩ := acquirable_iff.mp h <;> rw [hstatus] <;> rfl

theorem isTerminal_of_selected {messages : MessageTable} {now : Int} {limit max : Nat}
    {locked : List Uuid} {id : Uuid} {row : MessageRow}
    (hid : id ∈ (messages.selectPending now limit max locked).map (·.1))
    (hrow : messages.lookup id = some row) : row.status.isTerminal = false := by
  obtain ⟨⟨id, row'⟩, hmem, rfl⟩ := List.mem_map.mp hid
  obtain ⟨hrow', hwhere⟩ := MessageTable.mem_selectPending hmem
  rw [hrow] at hrow'
  cases hrow'
  exact MessageRow.isTerminal_of_acquirable hwhere

/-- Only a bulk update can change a row in a terminal status. -/
theorem Effect.keeps_iff {world : World} {mark : Option Mark} {messages' : MessageTable}
    (h : Effect world mark messages') :
    Keeps world.messages messages' ↔ ∀ m, mark = some m → m.spares world = true := by
  cases h with
  | same => exact ⟨by simp, fun _ => Keeps.refl _⟩
  | acquired notifierId locked =>
    refine ⟨by simp, fun _ => Keeps.mapValues_iff.mpr ?_⟩
    intro id row hrow hterminal
    -- what is selected is not in a terminal status, so a row that is stays as it is
    rw [if_neg]
    intro hselected
    rw [isTerminal_of_selected hselected hrow] at hterminal
    cases hterminal
  | marked m =>
    rw [Mark.apply, Keeps.mapValues_iff, ← Mark.spares_iff]
    exact ⟨fun hspares m' heq => by cases heq; exact hspares, fun hspares => hspares m rfl⟩

/-! ## Every run -/

/-- The bulk update of this step, if there is one, spares the rows in a terminal status. -/
def undisturbed (w : Pool World Dispatcher) :
    Move NotificationConfig DispatchChoice TableEvent → Bool
  | .run i choice =>
    match w.tasks[i]? with
    | some d => (d.marking choice).all fun mark => mark.spares w.shared
    | none => true
  | _ => true

theorem keeps_step_iff (w : Pool World Dispatcher)
    (move : Move NotificationConfig DispatchChoice TableEvent) :
    Keeps w.shared.messages (dispatchers.step w move).shared.messages ↔
      undisturbed w move = true := by
  cases move with
  | spawn config => exact iff_of_true (Keeps.refl _) rfl
  | outside event =>
    refine iff_of_true ?_ rfl
    cases event with
    | enqueue id counted createdAt =>
      exact fun id row hrow _ => ⟨row, MessageTable.lookup_enqueue_of_some hrow, rfl⟩
    | elapse micros nanos => exact Keeps.refl _
  | run i choice =>
    cases htask : w.tasks[i]? with
    | none =>
      simp only [Program.step, undisturbed, htask]
      exact iff_of_true (Keeps.refl _) trivial
    | some d =>
      simp only [Program.step, dispatchers, undisturbed, htask]
      rw [(d.advance_effect w.shared choice).keeps_iff]
      cases d.marking choice <;> simp

theorem keeps_of_undisturbed {w : Pool World Dispatcher}
    {moves : List (Move NotificationConfig DispatchChoice TableEvent)}
    (h : Along dispatchers.step (fun w move => undisturbed w move = true) w moves) :
    Keeps w.shared.messages (dispatchers.run w moves).shared.messages := by
  induction moves generalizing w with
  | nil => exact Keeps.refl _
  | cons move moves ih => exact ((keeps_step_iff w move).mpr h.1).trans (ih h.2)

theorem not_mem_acquires {w : Pool World Dispatcher} {id : Uuid} {row : MessageRow}
    (hrow : w.shared.messages.lookup id = some row) (hterminal : row.status.isTerminal = true)
    (move : Move NotificationConfig DispatchChoice TableEvent) : id ∉ acquires w move := by
  intro hid
  cases move with
  | spawn config => cases hid
  | outside event => cases hid
  | run i choice =>
    simp only [acquires] at hid
    split at hid
    · simp only [Dispatcher.acquires] at hid
      split at hid
      · rw [isTerminal_of_selected hid hrow] at hterminal
        cases hterminal
      · cases hid
    · cases hid

/-! ## A lease that runs out -/

def oneMessage : World where
  messages := AList.insert ⟨7⟩ (.fresh (some 0) 0) ∅
  now := 0
  instant := 0
  deliveries := []

def fiveSeconds : NotificationConfig where
  baseRetryIntervalSecs := 5
  maxRetryIntervalSecs := 300

/-- One dispatcher takes the message up and is slow to deliver it. After 31 seconds another one
leases it, finds that the user has disabled the template, and marks it as inhibited. -/
def inhibitedMeanwhile : List (Move NotificationConfig DispatchChoice TableEvent) :=
  [.spawn fiveSeconds, .run 0 {}, .run 0 {}, .run 0 {},
    .outside (.elapse (31 * 10 ^ 6) (31 * 10 ^ 9)),
    .spawn fiveSeconds, .run 1 {}, .run 1 {}, .run 1 { preference := .ok (some true) },
    .run 1 {}, .run 1 {}]

end Coderd.Notifications
