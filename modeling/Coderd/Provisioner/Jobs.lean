import Coderd.CryptoKeys.Rotator
import Coderd.Foundation.HashMap
import Coderd.Foundation.Uuid

namespace Coderd.Provisioner

open Coderd.Foundation
open Coderd.CryptoKeys (OffsetDateTime)

/-! ## Rows -/

inductive ProvisionerType where
  | terraform
  | echo
  deriving DecidableEq, Repr

def ProvisionerType.asStr : ProvisionerType → String
  | terraform => "terraform"
  | echo => "echo"

inductive ProvisionerJobStatus where
  | pending | running | succeeded | failed | canceling | canceled
  deriving DecidableEq, Repr

/-- The keys and values of provisioner tags are always strings. -/
abbrev Tags := HashMap String String

/-- A row of `provisioner_jobs`, without its id. -/
structure ProvisionerJobRow where
  createdAt : OffsetDateTime
  updatedAt : OffsetDateTime
  startedAt : Option OffsetDateTime
  canceledAt : Option OffsetDateTime
  completedAt : Option OffsetDateTime
  error : String
  errorCode : String
  organizationId : Uuid
  provisioner : ProvisionerType
  tags : Tags
  workerId : Option Uuid

/-- The generated column. -/
def ProvisionerJobRow.jobStatus (row : ProvisionerJobRow) : ProvisionerJobStatus :=
  if row.completedAt.isSome ∧ row.canceledAt.isSome then .canceled
  else if row.completedAt.isSome ∧ row.error ≠ "" then .failed
  else if row.completedAt.isSome then .succeeded
  else if row.canceledAt.isSome then .canceling
  else if row.startedAt.isSome then .running
  else .pending

structure ProvisionerJobRecord extends ProvisionerJobRow where
  id : Uuid

abbrev JobTable := HashMap Uuid ProvisionerJobRow

/-! ## Tags -/

/-- `<@` of two tag objects. -/
def Tags.containedIn (tags other : Tags) : Bool :=
  tags.entries.all fun tag => other.lookup tag.1 = some tag.2

/-- Equality of two tag objects. -/
def Tags.same (tags other : Tags) : Bool := tags.containedIn other && other.containedIn tags

/-- `{"scope": "organization", "owner": ""}`. -/
def untagged : Tags := (AList.insert "scope" "organization" ∅ : Tags).insert "owner" ""

/-- The tag condition of the acquisition. -/
def tagsMatch (jobTags daemonTags : Tags) : Bool :=
  if jobTags.same untagged then jobTags.same daemonTags else jobTags.containedIn daemonTags

/-! ## Inputs -/

structure AcquireProvisionerJobInput where
  workerId : Uuid
  startedAt : OffsetDateTime
  organizationId : Uuid
  types : List ProvisionerType
  provisionerTags : Tags

/-- Whether the `WHERE` clause of the acquisition holds of a row. -/
def AcquireProvisionerJobInput.accepts (input : AcquireProvisionerJobInput)
    (row : ProvisionerJobRow) : Bool :=
  row.startedAt.isNone && row.completedAt.isNone && row.canceledAt.isNone &&
    decide (row.organizationId = input.organizationId) && input.types.contains row.provisioner &&
    tagsMatch row.tags input.provisionerTags

theorem AcquireProvisionerJobInput.completedAt_of_accepts {input : AcquireProvisionerJobInput}
    {row : ProvisionerJobRow} (h : input.accepts row = true) : row.completedAt = none := by
  simp only [accepts, Bool.and_eq_true, Option.isNone_iff_eq_none] at h
  exact h.1.1.1.1.2

structure CompleteProvisionerJobInput where
  id : Uuid
  updatedAt : OffsetDateTime
  completedAt : OffsetDateTime
  error : String
  errorCode : String

structure CancelProvisionerJobInput where
  id : Uuid
  canceledAt : OffsetDateTime
  completedAt : Option OffsetDateTime

structure InsertProvisionerJobInput where
  id : Uuid
  createdAt : OffsetDateTime
  organizationId : Uuid
  provisioner : ProvisionerType
  tags : Tags

structure GetJobsToBeReapedInput where
  pendingSince : OffsetDateTime
  hungSince : OffsetDateTime
  maxJobs : Nat

/-- Whether a row is pending for too long, or running without a heartbeat for too long. -/
def GetJobsToBeReapedInput.isStale (input : GetJobsToBeReapedInput) (row : ProvisionerJobRow) :
    Bool :=
  (decide (row.updatedAt < input.pendingSince) && row.startedAt.isNone &&
      row.completedAt.isNone) ||
    (decide (row.updatedAt < input.hungSince) && row.startedAt.isSome && row.completedAt.isNone)

/-- What `UPDATE … SET` of each statement does to the row it finds. -/
def AcquireProvisionerJobInput.set (input : AcquireProvisionerJobInput)
    (row : ProvisionerJobRow) : ProvisionerJobRow :=
  { row with
    startedAt := some input.startedAt
    updatedAt := input.startedAt
    workerId := some input.workerId }

def CompleteProvisionerJobInput.set (input : CompleteProvisionerJobInput)
    (row : ProvisionerJobRow) : ProvisionerJobRow :=
  { row with
    updatedAt := input.updatedAt
    completedAt := some input.completedAt
    error := input.error
    errorCode := input.errorCode }

def CancelProvisionerJobInput.set (input : CancelProvisionerJobInput)
    (row : ProvisionerJobRow) : ProvisionerJobRow :=
  { row with
    canceledAt := some input.canceledAt
    completedAt := input.completedAt.or row.completedAt
    updatedAt := input.canceledAt }

def InsertProvisionerJobInput.row (input : InsertProvisionerJobInput) : ProvisionerJobRow where
  createdAt := input.createdAt
  updatedAt := input.createdAt
  startedAt := none
  canceledAt := none
  completedAt := none
  error := ""
  errorCode := ""
  organizationId := input.organizationId
  provisioner := input.provisioner
  tags := input.tags
  workerId := none

/-! ## Store calls -/

namespace JobTable

/-- `UPDATE provisioner_jobs SET … WHERE id = …`. -/
def update (jobs : JobTable) (id : Uuid) (set : ProvisionerJobRow → ProvisionerJobRow) :
    JobTable :=
  match jobs.lookup id with
  | some row => jobs.insert id (set row)
  | none => jobs

theorem lookup_update (jobs : JobTable) (id : Uuid)
    (set : ProvisionerJobRow → ProvisionerJobRow) (id' : Uuid) :
    (jobs.update id set).lookup id' =
      if id' = id then (jobs.lookup id).map set else jobs.lookup id' := by
  unfold update
  cases hrow : jobs.lookup id with
  | some row =>
    rw [HashMap.lookup_insert_ite]
    rfl
  | none =>
    by_cases hid : id' = id
    · rw [if_pos hid, hid, hrow]
      rfl
    · rw [if_neg hid]

def records (jobs : JobTable) : List ProvisionerJobRecord :=
  jobs.entries.map fun entry => { entry.2 with id := entry.1 }

theorem lookup_of_mem_records {jobs : JobTable} {job : ProvisionerJobRecord}
    (h : job ∈ jobs.records) : jobs.lookup job.id = some job.toProvisionerJobRow := by
  obtain ⟨entry, hentry, rfl⟩ := List.mem_map.mp h
  exact AList.mem_lookup_iff.mpr hentry

def getProvisionerJobById (jobs : JobTable) (id : Uuid) : Option ProvisionerJobRecord :=
  (jobs.lookup id).map fun row => { row with id }

theorem getProvisionerJobById_eq_some {jobs : JobTable} {id : Uuid} {job : ProvisionerJobRecord}
    (h : jobs.getProvisionerJobById id = some job) :
    job.id = id ∧ jobs.lookup id = some job.toProvisionerJobRow := by
  obtain ⟨row, hrow, rfl⟩ := Option.map_eq_some_iff.mp h
  exact ⟨rfl, hrow⟩

/-- `ORDER BY created_at ASC LIMIT 1`. -/
def oldest : List ProvisionerJobRecord → Option ProvisionerJobRecord
  | [] => none
  | job :: jobs =>
    match oldest jobs with
    | none => some job
    | some best => some (if best.createdAt < job.createdAt then best else job)

theorem mem_of_oldest {jobs : List ProvisionerJobRecord} {job : ProvisionerJobRecord}
    (h : oldest jobs = some job) : job ∈ jobs := by
  induction jobs generalizing job with
  | nil => cases h
  | cons first jobs ih =>
    cases hbest : oldest jobs with
    | none =>
      simp only [oldest, hbest] at h
      cases h
      exact List.mem_cons_self
    | some best =>
      simp only [oldest, hbest] at h
      split at h
      · cases h
        exact List.mem_cons_of_mem _ (ih hbest)
      · cases h
        exact List.mem_cons_self

/-- `acquire_provisioner_job`. The rows in `locked` are held by another acquisition and
skipped. -/
def acquireProvisionerJob (jobs : JobTable) (input : AcquireProvisionerJobInput)
    (locked : List Uuid) : Option ProvisionerJobRecord × JobTable :=
  match oldest (jobs.records.filter fun job =>
      input.accepts job.toProvisionerJobRow && !locked.contains job.id) with
  | none => (none, jobs)
  | some job =>
    (some { input.set job.toProvisionerJobRow with id := job.id }, jobs.update job.id input.set)

/-- The row that is acquired was in the table, and the `WHERE` clause held of it. -/
theorem acquireProvisionerJob_cases (jobs : JobTable) (input : AcquireProvisionerJobInput)
    (locked : List Uuid) :
    jobs.acquireProvisionerJob input locked = (none, jobs) ∨
      ∃ id row, jobs.lookup id = some row ∧ input.accepts row = true ∧
        jobs.acquireProvisionerJob input locked =
          (some { input.set row with id }, jobs.update id input.set) := by
  unfold acquireProvisionerJob
  split
  · exact .inl rfl
  · rename_i job hjob
    obtain ⟨hmem, hwhere⟩ := List.mem_filter.mp (mem_of_oldest hjob)
    simp only [Bool.and_eq_true] at hwhere
    exact .inr ⟨job.id, job.toProvisionerJobRow, lookup_of_mem_records hmem, hwhere.1, rfl⟩

def updateProvisionerJobById (jobs : JobTable) (id : Uuid) (updatedAt : OffsetDateTime) :
    JobTable :=
  jobs.update id fun row => { row with updatedAt }

def updateProvisionerJobWithCompleteById (jobs : JobTable)
    (input : CompleteProvisionerJobInput) : JobTable :=
  jobs.update input.id input.set

/-- `completed_at = COALESCE($2, completed_at)`. -/
def updateProvisionerJobWithCancelById (jobs : JobTable) (input : CancelProvisionerJobInput) :
    JobTable :=
  jobs.update input.id input.set

/-- An id that is taken is an error of the database. -/
def insertProvisionerJob (jobs : JobTable) (input : InsertProvisionerJobInput) : JobTable :=
  match jobs.lookup input.id with
  | some _ => jobs
  | none => jobs.insert input.id input.row

theorem lookup_insertProvisionerJob {jobs : JobTable} {id : Uuid} {row : ProvisionerJobRow}
    (hrow : jobs.lookup id = some row) (input : InsertProvisionerJobInput) :
    (jobs.insertProvisionerJob input).lookup id = some row := by
  unfold insertProvisionerJob
  split
  · exact hrow
  · rename_i hfree
    rw [HashMap.lookup_insert_ite, if_neg, hrow]
    rintro rfl
    rw [hfree] at hrow
    cases hrow

/-- `get_provisioner_jobs_to_be_reaped`; `order` is the random order of the rows. -/
def getProvisionerJobsToBeReaped (jobs : JobTable) (input : GetJobsToBeReapedInput)
    (order : List Uuid) : List ProvisionerJobRecord :=
  ((order.dedup.filterMap jobs.getProvisionerJobById).filter fun job =>
    input.isStale job.toProvisionerJobRow).take input.maxJobs

theorem mem_getProvisionerJobsToBeReaped {jobs : JobTable} {input : GetJobsToBeReapedInput}
    {order : List Uuid} {job : ProvisionerJobRecord}
    (h : job ∈ jobs.getProvisionerJobsToBeReaped input order) :
    jobs.lookup job.id = some job.toProvisionerJobRow ∧
      input.isStale job.toProvisionerJobRow = true := by
  obtain ⟨hmem, hstale⟩ := List.mem_filter.mp (List.mem_of_mem_take h)
  obtain ⟨id, -, hfind⟩ := List.mem_filterMap.mp hmem
  obtain ⟨hid, hrow⟩ := getProvisionerJobById_eq_some hfind
  exact ⟨hid ▸ hrow, hstale⟩

end JobTable

end Coderd.Provisioner
