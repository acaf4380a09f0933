import Mathlib.Data.List.Induction
import Coderd.Provisioner.Exclusive

namespace Coderd.Provisioner

open Coderd.Foundation
open Coderd.CryptoKeys (OffsetDateTime)

/-! ## What a pass marks -/

/-- The pass `i` is about to mark the job. -/
def Marking (w : Pool World Writer) (i : Nat) (choice : WriterChoice) (now : OffsetDateTime)
    (job : ProvisionerJobRecord) : Prop :=
  choice.fault = none ∧ ∃ stale reaped,
    w.tasks[i]? = some (.reaper { now, phase := .reaping (job :: stale) reaped })

/-- Whenever a pass marks a job, its row is unfinished and stale by the thresholds of the pass. -/
def ReapsOnlyStale (world : World) (moves : List (Move WriterOp WriterChoice TableEvent)) :
    Prop :=
  ∀ before i choice rest now job input, moves = before ++ .run i choice :: rest →
    Marking (writers.run (idle world) before) i choice now job →
      Reaper.reapInput now = some input →
        ∃ row, (writers.run (idle world) before).shared.jobs.lookup job.id = some row ∧
          row.completedAt = none ∧ input.isStale row = true

/-- A writer other than the pass `i` has changed the row of a job during `moves`. -/
def Rewritten (w : Pool World Writer) (moves : List (Move WriterOp WriterChoice TableEvent))
    (i : Nat) (id : Uuid) : Prop :=
  ∃ before j choice rest, moves = before ++ .run j choice :: rest ∧ j ≠ i ∧
    (writers.run w (before ++ [.run j choice])).shared.jobs.lookup id ≠
      (writers.run w before).shared.jobs.lookup id

/-- The pass `i` has found the job unfinished and stale by its thresholds, and the row is still
the one it has found unless someone else has written to it. -/
def Listed (world : World) (moves : List (Move WriterOp WriterChoice TableEvent)) (i : Nat)
    (now : OffsetDateTime) (job : ProvisionerJobRecord) : Prop :=
  ∃ before choice since input, moves = before ++ .run i choice :: since ∧
    (writers.run (idle world) before).tasks[i]? =
      some (.reaper { now, phase := .selecting }) ∧
    Reaper.reapInput now = some input ∧
    (writers.run (idle world) before).shared.jobs.lookup job.id =
      some job.toProvisionerJobRow ∧
    job.completedAt = none ∧ input.isStale job.toProvisionerJobRow = true ∧
    ((writers.run (idle world) moves).shared.jobs.lookup job.id =
        some job.toProvisionerJobRow ∨
      Rewritten (writers.run (idle world) (before ++ [.run i choice])) since i job.id)

/-- Whenever a pass marks a job, it has listed it before, and it marks the row as it finds it. -/
def ReapsListed (world : World) (moves : List (Move WriterOp WriterChoice TableEvent)) : Prop :=
  ∀ before i choice rest now job, moves = before ++ .run i choice :: rest →
    Marking (writers.run (idle world) before) i choice now job →
      Listed world before i now job ∧
        (writers.run (idle world) (before ++ [.run i choice])).shared.jobs.lookup job.id =
          ((writers.run (idle world) before).shared.jobs.lookup job.id).map
            (Reaper.completeInput now job).set

/-! ## One step -/

/-- A row is only changed by a writer that makes a step. -/
theorem lookup_step {w : Pool World Writer} {id : Uuid} {row : ProvisionerJobRow}
    (hrow : w.shared.jobs.lookup id = some row)
    (move : Move WriterOp WriterChoice TableEvent) :
    (writers.step w move).shared.jobs.lookup id = some row ∨ ∃ j choice, move = .run j choice := by
  cases move with
  | spawn op => exact .inl hrow
  | run j choice => exact .inr ⟨j, choice, rfl⟩
  | outside event =>
    cases event with
    | insertJob input => exact .inl (JobTable.lookup_insertProvisionerJob hrow input)
    | setClock time => exact .inl hrow

theorem Rewritten.concat {w : Pool World Writer}
    {moves : List (Move WriterOp WriterChoice TableEvent)} {i : Nat} {id : Uuid}
    (h : Rewritten w moves i id) (move : Move WriterOp WriterChoice TableEvent) :
    Rewritten w (moves ++ [move]) i id := by
  obtain ⟨before, j, choice, rest, rfl, hj, hlookup⟩ := h
  exact ⟨before, j, choice, rest ++ [move], by simp, hj, hlookup⟩

/-- A move that is not of the pass, or that leaves the row alone. -/
theorem Listed.concat {world : World} {moves : List (Move WriterOp WriterChoice TableEvent)}
    {i : Nat} {now : OffsetDateTime} {job : ProvisionerJobRecord} (h : Listed world moves i now job)
    {move : Move WriterOp WriterChoice TableEvent}
    (hmove : (∃ choice, move = .run i choice) →
      (writers.run (idle world) (moves ++ [move])).shared.jobs.lookup job.id =
        (writers.run (idle world) moves).shared.jobs.lookup job.id) :
    Listed world (moves ++ [move]) i now job := by
  obtain ⟨before, choice, since, input, rfl, hselecting, hinput, hrow, hunfinished, hstale, hnow⟩ :=
    h
  refine ⟨before, choice, since ++ [move], input, by simp, hselecting, hinput, hrow, hunfinished,
    hstale, ?_⟩
  obtain hsame | hrewritten := hnow
  · rw [Program.run_concat] at hmove ⊢
    obtain hkept | ⟨j, choice', rfl⟩ := lookup_step hsame move
    · exact .inl hkept
    · by_cases hj : j = i
      · subst hj
        exact .inl ((hmove ⟨choice', rfl⟩).trans hsame)
      · by_cases hlookup : (writers.step (writers.run (idle world)
            (before ++ .run i choice :: since)) (.run j choice')).shared.jobs.lookup job.id =
              some job.toProvisionerJobRow
        · exact .inl hlookup
        · refine .inr ⟨since, j, choice', [], rfl, hj, ?_⟩
          rw [Program.run_concat, ← Program.run_append, List.append_assoc, List.singleton_append,
            hsame]
          exact hlookup
  · exact .inr (hrewritten.concat move)

/-! ## Every run -/

/-- The jobs that a pass still has to mark are different ones, and it has listed them all. -/
structure ListsAll (world : World) (moves : List (Move WriterOp WriterChoice TableEvent))
    (i : Nat) (now : OffsetDateTime) (stale : List ProvisionerJobRecord) : Prop where
  nodup : (stale.map (·.id)).Nodup
  listed : ∀ job ∈ stale, Listed world moves i now job

variable {world : World} {moves : List (Move WriterOp WriterChoice TableEvent)}

/-- The step that selects the jobs changes no row. -/
theorem listsAll_selected {i : Nat} {choice : WriterChoice} {now : OffsetDateTime}
    {stale : List ProvisionerJobRecord} {reaped : Nat} {jobs : JobTable}
    (htask : (writers.run (idle world) moves).tasks[i]? =
      some (.reaper { now, phase := .selecting }))
    (hadvance : Reaper.advance { now, phase := .selecting }
      (writers.run (idle world) moves).shared choice.toStoreChoice =
        some (jobs, { now, phase := .reaping stale reaped }))
    (hshared : (writers.run (idle world) (moves ++ [.run i choice])).shared.jobs = jobs) :
    ListsAll world (moves ++ [.run i choice]) i now stale := by
  simp only [Reaper.advance] at hadvance
  split at hadvance
  · cases hadvance
  · cases hadvance
  · rename_i input hinput hfault
    cases hadvance
    refine ⟨JobTable.nodup_jobsToBeReaped _ _ _, fun job hjob => ?_⟩
    obtain ⟨hrow, hstale⟩ := JobTable.mem_getProvisionerJobsToBeReaped hjob
    exact ⟨moves, choice, [], input, rfl, htask, hinput, hrow,
      GetJobsToBeReapedInput.completedAt_of_isStale hstale, hstale, .inl (hshared ▸ hrow)⟩

/-- The step that marks a job, or fails to, changes no row of the others. -/
theorem ListsAll.marked {i : Nat} {choice : WriterChoice} {now : OffsetDateTime}
    {job : ProvisionerJobRecord} {stale : List ProvisionerJobRecord}
    (h : ListsAll world moves i now (job :: stale))
    (hlookup : ∀ id ≠ job.id,
      (writers.run (idle world) (moves ++ [.run i choice])).shared.jobs.lookup id =
        (writers.run (idle world) moves).shared.jobs.lookup id) :
    ListsAll world (moves ++ [.run i choice]) i now stale := by
  obtain ⟨hnew, hnodup⟩ := List.nodup_cons.mp h.nodup
  refine ⟨hnodup, fun other hother => ?_⟩
  have hid : other.id ≠ job.id := by
    intro heq
    exact hnew (List.mem_map.mpr ⟨other, hother, heq⟩)
  exact (h.listed other (List.mem_cons_of_mem _ hother)).concat fun _ => hlookup other.id hid

theorem ListsAll.concat {i : Nat} {now : OffsetDateTime} {stale : List ProvisionerJobRecord}
    (h : ListsAll world moves i now stale) {move : Move WriterOp WriterChoice TableEvent}
    (hmove : (∃ choice, move = .run i choice) →
      writers.run (idle world) (moves ++ [move]) = writers.run (idle world) moves) :
    ListsAll world (moves ++ [move]) i now stale :=
  ⟨h.nodup, fun job hjob => (h.listed job hjob).concat fun hrun => by rw [hmove hrun]⟩

/-- The step of a pass that still has jobs to mark afterwards. -/
theorem ListsAll.advance {i : Nat} {choice : WriterChoice} {reaper : Reaper} {now : OffsetDateTime}
    {stale : List ProvisionerJobRecord} {reaped : Nat} {jobs : JobTable}
    (h : ∀ stale reaped, reaper.phase = .reaping stale reaped →
      ListsAll world moves i reaper.now stale)
    (htask : (writers.run (idle world) moves).tasks[i]? = some (.reaper reaper))
    (hadvance : reaper.advance (writers.run (idle world) moves).shared choice.toStoreChoice =
      some (jobs, { now, phase := .reaping stale reaped }))
    (hshared : (writers.run (idle world) (moves ++ [.run i choice])).shared.jobs = jobs) :
    ListsAll world (moves ++ [.run i choice]) i now stale := by
  obtain ⟨started, phase⟩ := reaper
  cases phase with
  | finished result => cases hadvance
  | panicked => cases hadvance
  | selecting =>
    have hnow : started = now := by
      simp only [Reaper.advance] at hadvance
      split at hadvance <;> cases hadvance
      rfl
    subst hnow
    exact listsAll_selected htask hadvance hshared
  | reaping left done =>
    cases left with
    | nil => cases hadvance
    | cons job left =>
      have hbefore := h (job :: left) done rfl
      cases hfault : choice.fault with
      | some e =>
        simp only [Reaper.advance, hfault] at hadvance
        cases hadvance
        exact hbefore.marked fun id _ => by rw [hshared]
      | none =>
        simp only [Reaper.advance, hfault] at hadvance
        cases hadvance
        refine hbefore.marked fun id hid => ?_
        rw [hshared, JobTable.updateProvisionerJobWithCompleteById, JobTable.lookup_update]
        exact if_neg hid

theorem listsAll_run (world : World) (moves : List (Move WriterOp WriterChoice TableEvent))
    {i : Nat} {now : OffsetDateTime} {stale : List ProvisionerJobRecord} {reaped : Nat}
    (htask : (writers.run (idle world) moves).tasks[i]? =
      some (.reaper { now, phase := .reaping stale reaped })) :
    ListsAll world moves i now stale := by
  induction moves using List.reverseRecOn generalizing now stale reaped with
  | nil => cases htask
  | append_singleton moves move ih =>
    have hconcat := Program.run_concat writers (idle world) moves move
    rw [hconcat] at htask
    have hsteps := writers.steps_step (writers.run (idle world) moves) move
    generalize writers.step (writers.run (idle world) moves) move = w' at hsteps htask hconcat
    cases hsteps with
    | idle => exact (ih htask).concat fun _ => hconcat
    | outside event => exact (ih htask).concat fun ⟨choice, heq⟩ => by cases heq
    | spawn op =>
      by_cases hi : i < (writers.run (idle world) moves).tasks.length
      · rw [List.getElem?_append_left hi] at htask
        exact (ih htask).concat fun ⟨choice, heq⟩ => by cases heq
      · -- a pass that has just been started has selected nothing
        rw [List.getElem?_append_right (Nat.le_of_not_lt hi)] at htask
        have hentered := List.mem_singleton.mp (List.mem_of_getElem? htask)
        cases op <;> cases hentered
    | run hbefore hadvance =>
      obtain ⟨⟨jobs, writer'⟩, hwriter, heq⟩ := Option.map_eq_some_iff.mp hadvance
      cases heq
      obtain ⟨rfl, rfl⟩ | ⟨hi, hother⟩ := Pool.getElem?_set_cases htask
      · obtain ⟨r, rfl, hreap⟩ := Writer.exists_reaper_of_advance hwriter
        refine ListsAll.advance ?_ hbefore hreap (by rw [hconcat])
        rintro left done hphase
        exact ih (by rw [hbefore, ← hphase])
      · refine (ih hother).concat ?_
        rintro ⟨choice', heq⟩
        cases heq
        exact absurd rfl hi

/-- A pass marks only jobs that it has found stale. It does not look again: the row that it
marks is the one it found, unless another writer has changed it in the meantime. -/
theorem reapsListed (world : World) (moves : List (Move WriterOp WriterChoice TableEvent)) :
    ReapsListed world moves := by
  rintro before i choice rest now job - ⟨hfault, stale, reaped, htask⟩
  refine ⟨(listsAll_run world before htask).listed job List.mem_cons_self, ?_⟩
  have hadvance : writers.advance (writers.run (idle world) before).shared
      (.reaper { now, phase := .reaping (job :: stale) reaped }) choice =
        some ({ (writers.run (idle world) before).shared with
          jobs := (writers.run (idle world) before).shared.jobs.update job.id
            (Reaper.completeInput now job).set },
          .reaper { now, phase := .reaping stale (reaped + 1) }) := by
    simp only [writers, Writer.advance, Reaper.advance, hfault]
    rfl
  rw [Program.run_concat]
  simp only [Program.step, htask, hadvance]
  rw [JobTable.lookup_update, if_pos rfl]

/-- A daemon takes the job, is silent for 31 seconds, and sends a heartbeat after the reaper has
listed the job as hung. -/
def heartbeatAfterListing : List (Move WriterOp WriterChoice TableEvent) :=
  [.spawn (.session ⟨9⟩
      { provisioners := ["terraform"], tags := untagged, organizationId := ⟨1⟩ }),
    .run 0 { event := .message .acquireJob },
    .outside (.setClock halfMinuteLater),
    .spawn (.reap halfMinuteLater),
    .run 1 { order := [⟨7⟩] },
    .run 0 { event := .message .heartbeat }]

/-- The job is marked all the same. -/
theorem not_reapsOnlyStale_heartbeatAfterListing :
    ¬ ReapsOnlyStale queuedWorld (heartbeatAfterListing ++ [.run 1 {}]) := by
  intro h
  obtain ⟨row, hrow, -, hstale⟩ := h heartbeatAfterListing 1 {} [] halfMinuteLater
    { createdAt := .unixEpoch
      updatedAt := .unixEpoch
      startedAt := some .unixEpoch
      canceledAt := none
      completedAt := none
      error := ""
      errorCode := ""
      organizationId := ⟨1⟩
      provisioner := .terraform
      tags := untagged
      workerId := some ⟨9⟩
      id := ⟨7⟩ }
    { pendingSince := ⟨(31 - 1800) * 10 ^ 9, by decide, by decide⟩
      hungSince := ⟨10 ^ 9, by decide, by decide⟩
      maxJobs := 100 } rfl ⟨rfl, [], 0, rfl⟩ rfl
  have hfresh : (writers.run (idle queuedWorld) heartbeatAfterListing).shared.jobs.lookup ⟨7⟩ =
      some
        { createdAt := .unixEpoch
          updatedAt := halfMinuteLater
          startedAt := some .unixEpoch
          canceledAt := none
          completedAt := none
          error := ""
          errorCode := ""
          organizationId := ⟨1⟩
          provisioner := .terraform
          tags := untagged
          workerId := some ⟨9⟩ } := rfl
  rw [hfresh] at hrow
  cases hrow
  exact absurd hstale (by decide)

end Coderd.Provisioner
