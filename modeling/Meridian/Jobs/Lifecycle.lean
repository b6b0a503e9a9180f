import Meridian.Foundations.KeyedTable
import Meridian.Jobs.Store

/-!
# Jobs over whole runs

The table `generation_jobs` under the operations of `InMemoryJobStore`, each call in one piece: the
operations of `Meridian.Jobs.Op` on one job, and those that create a job, store what is needed later
and list. A job has no artifact here and is always of one kind.

## Main definitions

* `Meridian.Jobs.GenerationJob`: a row with the columns that the transitions leave alone.
* `Meridian.Jobs.JobCall`, `Meridian.Jobs.callJob`: the calls and what they do.
* `Meridian.Jobs.JobRow.Consistent`: what a status says about the other columns.

## Main results

* `Meridian.Jobs.consistentRun`: in a run, every row is consistent at every moment, its statuses
  are a path in the table of transitions, and what goes with a terminal status is final.
-/

namespace Meridian.Jobs

open Foundations

variable {D M : Type*}

/-! ### The store -/

/-- A row of `generation_jobs`, with decoded payloads. -/
structure GenerationJob (D M : Type*) extends JobRow D where
  jobId : String
  sessionId : String
  officeId : String
  brokerId : String
  retryAllowed : Bool
  pendingResponseId : Option String
  jobPollToken : String
  createdAt : String
  autonomyMetadata : Option M

/-- The table, by its primary key. -/
abbrev JobTable (D M : Type*) := KeyedTable (GenerationJob.jobId : GenerationJob D M → String)

/-- The arguments of `create_job`. -/
structure NewJob where
  sessionId : String
  brokerId : String
  officeId : String
  progressMessage : String
  retryAllowed : Bool

/-- The calls of the store; a new job comes with the id and the token drawn for it. -/
inductive JobCall (D M : Type*)
  | createJob (jobId jobPollToken : String) (new : NewJob)
  | prepareResult (jobId : String) (result : D)
  | bindPendingResponse (jobId pendingResponseId : String)
  | operate (jobId : String) (op : Op D)
  | updateAutonomyMetadata (jobId : String) (metadata : M) (triggerCompletion : Bool)
  | listJobs (sessionId : Option String) (status : Option JobStatus) (offset limit : ℤ)

/-- What a call returns. -/
inductive JobReply (D M : Type*)
  | none
  | job (job : Option (GenerationJob D M))
  | jobs (jobs : List (GenerationJob D M))
  | raised

/-- The row of `create_job`. -/
def NewJob.row (new : NewJob) (jobId jobPollToken now : String) : GenerationJob D M :=
  { jobId := jobId
    sessionId := new.sessionId
    officeId := new.officeId
    brokerId := new.brokerId
    jobStatus := .pending
    progressMessage := new.progressMessage
    retryAllowed := new.retryAllowed
    pendingResponseId := none
    completedResponseId := none
    preparedResultPayload := none
    resultPayload := none
    jobPollToken := jobPollToken
    completionRefreshesRemaining := none
    createdAt := now
    updatedAt := now
    completedAt := none
    errorMessage := none
    failedAt := none
    autonomyMetadata := none }

/-- An operation on its own: the row that its blocks leave one after the other, unless it raises. -/
def Op.run (config : Config D) (op : Op D) (now : String) (row : JobRow D) : Option (JobRow D) :=
  match readBlock config op (some row) with
  | .done .raised => none
  | .write job => some (op.write config job now row)
  | .refresh job =>
    match refreshBlock config job now (some row) with
    | (_, .done .raised) => none
    | (row', _) => row'
  | _ => some row

/-- `list_jobs`, where an empty session id is none, and `LIMIT` and `OFFSET` read negative numbers
as no bound. -/
def listJobs (jobs : JobTable D M) (sessionId : Option String) (status : Option JobStatus)
    (offset limit : ℤ) : List (GenerationJob D M) :=
  let rows := jobs.rows.filter fun job =>
    sessionId.all (fun id => id = "" || job.sessionId = id) && status.all (job.jobStatus = ·)
  let rows := (rows.mergeSort fun job job' => job'.createdAt ≤ job.createdAt).drop offset.toNat
  if limit < 0 then rows else rows.take limit.toNat

/-- One call at the time `now`. -/
def callJob (config : Config D) (jobs : JobTable D M) (now : String) :
    JobCall D M → JobTable D M × JobReply D M
  | .createJob jobId jobPollToken new =>
    let job := new.row jobId jobPollToken now
    match jobs.insert? job with
    | some jobs' => (jobs', .job (some job))
    | none => (jobs, .raised)
  | .prepareResult jobId result =>
    (jobs.modify jobId
      (fun job => { job with preparedResultPayload := some result, updatedAt := now })
      fun _ => rfl, .none)
  | .bindPendingResponse jobId pendingResponseId =>
    let jobs' := jobs.modify jobId
      (fun job => { job with pendingResponseId := some pendingResponseId, updatedAt := now })
      fun _ => rfl
    (jobs', .job (jobs'.lookup jobId))
  | .operate jobId op =>
    match jobs.lookup jobId with
    | none => (jobs, .job none)
    | some job =>
      match op.run config now job.toJobRow with
      | none => (jobs, .raised)
      | some row =>
        let jobs' := jobs.modify jobId (fun job => { job with toJobRow := row }) fun _ => rfl
        (jobs', .job (jobs'.lookup jobId))
  | .updateAutonomyMetadata jobId metadata triggerCompletion =>
    let jobs' := jobs.modify jobId
      (fun job =>
        { job with
          autonomyMetadata := some metadata
          updatedAt := now
          completionRefreshesRemaining :=
            if triggerCompletion then some 0 else job.completionRefreshesRemaining })
      fun _ => rfl
    (jobs', .job (jobs'.lookup jobId))
  | .listJobs sessionId status offset limit =>
    (jobs, .jobs (Jobs.listJobs jobs sessionId status offset limit))

/-- One call as a step of the table. -/
def jobStep (config : Config D) (jobs : JobTable D M) (l : String × JobCall D M) :
    Option (JobTable D M) :=
  some (callJob config jobs l.1 l.2).1

/-! ### Consistent rows -/

/-- What a status says about the other columns: the columns of a completion are set together and
only with `succeeded`, the completed response is that of the result, the time of a failure goes with
`failed` and the error message with `failed` or `expired`. -/
structure JobRow.Consistent (reader : PayloadReader D) (row : JobRow D) : Prop where
  resultPayload : row.resultPayload.isSome ↔ row.jobStatus = .succeeded
  completedResponseId : row.completedResponseId.isSome ↔ row.jobStatus = .succeeded
  completedAt : row.completedAt.isSome ↔ row.jobStatus = .succeeded
  responseId : ∀ result ∈ row.resultPayload, row.completedResponseId = reader.responseId result
  failedAt : row.failedAt.isSome ↔ row.jobStatus = .failed
  errorMessage : row.errorMessage.isSome ↔ row.jobStatus = .failed ∨ row.jobStatus = .expired

/-- The columns that a terminal status settles. -/
def JobRow.outcome (row : JobRow D) :
    JobStatus × Option D × Option String × Option String × Option String × Option String :=
  (row.jobStatus, row.resultPayload, row.completedResponseId, row.completedAt, row.failedAt,
    row.errorMessage)

/-- The row keeps these columns, or moves along the table of transitions to a consistent row. -/
def JobRow.Follows (reader : PayloadReader D) (row row' : JobRow D) : Prop :=
  row'.outcome = row.outcome ∨
    row'.jobStatus ∈ row.jobStatus.validTransitions ∧ row'.Consistent reader

variable {config : Config D} {reader : PayloadReader D} {row row' : JobRow D} {now : String}

theorem JobRow.Follows.refl (row : JobRow D) : row.Follows reader row := .inl rfl

theorem JobRow.Consistent.of_outcome (h : row.Consistent reader)
    (heq : row'.outcome = row.outcome) : row'.Consistent reader := by
  simp only [JobRow.outcome, Prod.mk.injEq] at heq
  obtain ⟨hstatus, hresult, hresponse, hcompleted, hfailed, herror⟩ := heq
  constructor
  · rw [hresult, hstatus, h.resultPayload]
  · rw [hresponse, hstatus, h.completedResponseId]
  · rw [hcompleted, hstatus, h.completedAt]
  · rw [hresult, hresponse]
    exact h.responseId
  · rw [hfailed, hstatus, h.failedAt]
  · rw [herror, hstatus, h.errorMessage]

theorem JobRow.Follows.consistent (h : row.Follows reader row') (hrow : row.Consistent reader) :
    row'.Consistent reader := by
  obtain heq | ⟨-, hrow'⟩ := h
  · exact hrow.of_outcome heq
  · exact hrow'

/-- A row that follows a terminal one keeps its outcome. -/
theorem JobRow.Follows.outcome_eq (h : row.Follows reader row')
    (hterminal : row.jobStatus.isTerminal = true) : row'.outcome = row.outcome := by
  obtain heq | ⟨hvalid, -⟩ := h
  · exact heq
  · rw [JobStatus.isTerminal_eq_false_of_valid hvalid] at hterminal
    cases hterminal

theorem JobRow.Follows.status (h : row.Follows reader row') :
    row'.jobStatus = row.jobStatus ∨ row'.jobStatus ∈ row.jobStatus.validTransitions :=
  h.imp (congrArg Prod.fst) And.left

/-! ### Operations -/

/-- A row that is not terminal has nothing of an outcome. -/
theorem JobRow.Consistent.of_transient (h : row.Consistent reader)
    (ht : row.jobStatus.isTerminal = false) :
    row.resultPayload = none ∧ row.completedResponseId = none ∧ row.completedAt = none ∧
      row.failedAt = none ∧ row.errorMessage = none := by
  have hne {status : JobStatus} (hs : status.isTerminal = true) : row.jobStatus ≠ status := by
    rintro rfl
    rw [hs] at ht
    cases ht
  have hsucceeded : row.jobStatus ≠ .succeeded := hne rfl
  have hfailed : row.jobStatus ≠ .failed := hne rfl
  have hexpired : row.jobStatus ≠ .expired := hne rfl
  simp only [← Option.not_isSome_iff_eq_none]
  exact ⟨h.resultPayload.not.mpr hsucceeded, h.completedResponseId.not.mpr hsucceeded,
    h.completedAt.not.mpr hsucceeded, h.failedAt.not.mpr hfailed,
    h.errorMessage.not.mpr (not_or.mpr ⟨hfailed, hexpired⟩)⟩

/-- A completion is consistent. -/
theorem JobRow.Consistent.completed (h : row.Consistent reader)
    (ht : row.jobStatus.isTerminal = false) {result : D} {responseId progressMessage : String}
    (hid : reader.responseId result = some responseId) :
    (row.completed result responseId progressMessage now).Consistent reader := by
  obtain ⟨-, -, -, hfailed, -⟩ := h.of_transient ht
  constructor
  · simp [JobRow.completed]
  · simp [JobRow.completed]
  · simp [JobRow.completed]
  · rintro _ ⟨rfl⟩
    exact hid.symm
  · simp [JobRow.completed, hfailed]
  · simp [JobRow.completed]

/-- What the writing block of an admitted operation leaves is consistent. -/
theorem Op.write_consistent {op : Op D} (h : row.Consistent config.reader)
    (hadm : op.Admitted config row) : (op.write config row now row).Consistent config.reader := by
  obtain ⟨hraises, target, htarget, hvalid⟩ := hadm
  have ht := JobStatus.isTerminal_eq_false_of_valid hvalid
  obtain ⟨hresult, hresponse, hcompleted, hfailed, herror⟩ := h.of_transient ht
  cases op with
  | completeJob result progressMessage =>
    simp only [Op.raises, Option.isNone_eq_false_iff, Option.isSome_iff_exists] at hraises
    obtain ⟨responseId, hid⟩ := hraises
    simp only [Op.write, hid]
    exact h.completed ht hid
  | refreshJob => cases htarget
  | startJob progressMessage =>
    constructor <;> simp [Op.write, hresult, hresponse, hcompleted, hfailed, herror]
  | failJob errorMessage progressMessage =>
    constructor <;> simp [Op.write, hresult, hresponse, hcompleted]
  | cancelJob progressMessage =>
    constructor <;> simp [Op.write, hresult, hresponse, hcompleted, hfailed, herror]
  | expireJob progressMessage =>
    constructor <;> simp [Op.write, hresult, hresponse, hcompleted, hfailed]

/-- A refresh of a consistent row is consistent. -/
theorem refreshBlock_follows {job : JobRow D} (h : row.Consistent config.reader)
    (hrefresh : (refreshBlock config job now (some row)).1 = some row') :
    row.Follows config.reader row' := by
  simp only [refreshBlock] at hrefresh
  split at hrefresh
  · obtain rfl := Option.some.inj hrefresh
    exact .refl row
  · next prepared hprepared =>
    split_ifs at hrefresh with hremaining hvalid
    · have hmem := JobStatus.validateTransition_iff.mp hvalid
      split at hrefresh
      · obtain rfl := Option.some.inj hrefresh
        exact .refl row
      · next responseId hid =>
        obtain rfl := Option.some.inj hrefresh
        exact .inr ⟨hmem, h.completed (JobStatus.isTerminal_eq_false_of_valid hmem) hid⟩
    · obtain rfl := Option.some.inj hrefresh
      exact .refl row
    · obtain rfl := Option.some.inj hrefresh
      exact .inl rfl

/-- An operation on a consistent row leaves one that follows it. -/
theorem Op.run_follows {op : Op D} (h : row.Consistent config.reader)
    (hrun : op.run config now row = some row') : row.Follows config.reader row' := by
  unfold Op.run at hrun
  split at hrun
  · cases hrun
  · next job hread =>
    obtain ⟨hrow, hadm⟩ := readBlock_eq_write hread
    obtain rfl := Option.some.inj hrow
    obtain rfl := Option.some.inj hrun
    obtain ⟨target, htarget, hvalid⟩ := hadm.exists_target
    refine .inr ⟨?_, Op.write_consistent h hadm⟩
    rwa [Op.write_jobStatus htarget hadm.no_raise]
  · next job hread =>
    split at hrun
    · cases hrun
    · next row'' pc hne hblock =>
      have hrefresh : (refreshBlock config job now (some row)).1 = some row' := by
        rw [hblock]
        exact hrun
      exact refreshBlock_follows h hrefresh
  · obtain rfl := Option.some.inj hrun
    exact .refl row

/-! ### Calls -/

variable {jobs jobs' : JobTable D M} {job : GenerationJob D M} {jobId : String}

/-- A job of a consistent row is followed by its row after a call. -/
theorem callJob_follows {call : JobCall D M} (hlookup : jobs.lookup jobId = some job)
    (h : job.Consistent config.reader) :
    ∃ job', (callJob config jobs now call).1.lookup jobId = some job' ∧
      job.Follows config.reader job'.toJobRow := by
  cases call with
  | createJob id token new =>
    simp only [callJob]
    split
    · next hinsert =>
      rw [KeyedTable.lookup_insert? hinsert]
      split_ifs with hid
      · rw [hid, (KeyedTable.insert?_eq_some hinsert).1] at hlookup
        cases hlookup
      · exact ⟨job, hlookup, .refl _⟩
    · exact ⟨job, hlookup, .refl _⟩
  | prepareResult id result =>
    simp only [callJob, KeyedTable.lookup_modify, hlookup]
    split_ifs
    · exact ⟨_, rfl, .inl rfl⟩
    · exact ⟨job, rfl, .refl _⟩
  | bindPendingResponse id pendingResponseId =>
    simp only [callJob, KeyedTable.lookup_modify, hlookup]
    split_ifs
    · exact ⟨_, rfl, .inl rfl⟩
    · exact ⟨job, rfl, .refl _⟩
  | operate id op =>
    simp only [callJob]
    split
    · exact ⟨job, hlookup, .refl _⟩
    · next job₀ hjob₀ =>
      split
      · exact ⟨job, hlookup, .refl _⟩
      · next row hrun =>
        rw [KeyedTable.lookup_modify, hlookup]
        split_ifs with hid
        · subst hid
          obtain rfl := Option.some.inj (hjob₀.symm.trans hlookup)
          exact ⟨_, rfl, Op.run_follows h hrun⟩
        · exact ⟨job, rfl, .refl _⟩
  | updateAutonomyMetadata id metadata triggerCompletion =>
    simp only [callJob, KeyedTable.lookup_modify, hlookup]
    split_ifs
    · exact ⟨_, rfl, .inl rfl⟩
    · exact ⟨_, rfl, .inl rfl⟩
    · exact ⟨job, rfl, .refl _⟩
  | listJobs sessionId status offset limit => exact ⟨job, hlookup, .refl _⟩

/-- A job that a call adds is new. -/
theorem callJob_new {call : JobCall D M} (hnone : jobs.lookup jobId = none)
    (hlookup : (callJob config jobs now call).1.lookup jobId = some job) :
    ∃ id token new, job = NewJob.row new id token now := by
  cases call with
  | createJob id token new =>
    simp only [callJob] at hlookup
    split at hlookup
    · next hinsert =>
      rw [KeyedTable.lookup_insert? hinsert] at hlookup
      split_ifs at hlookup with hid
      · exact ⟨id, token, new, (Option.some.inj hlookup).symm⟩
      · rw [hnone] at hlookup
        cases hlookup
    · rw [hnone] at hlookup
      cases hlookup
  | operate id op =>
    simp only [callJob] at hlookup
    split at hlookup
    · rw [hnone] at hlookup
      cases hlookup
    · split at hlookup
      · rw [hnone] at hlookup
        cases hlookup
      · rw [KeyedTable.lookup_modify_eq_none.mpr hnone] at hlookup
        cases hlookup
  | listJobs sessionId status offset limit =>
    rw [callJob, hnone] at hlookup
    cases hlookup
  | _ =>
    rw [callJob, KeyedTable.lookup_modify_eq_none.mpr hnone] at hlookup
    cases hlookup

/-- Only a creation changes which jobs there are. -/
theorem keys_callJob {call : JobCall D M} (h : ∀ id token new, call ≠ .createJob id token new) :
    (callJob config jobs now call).1.keys = jobs.keys := by
  cases call with
  | createJob id token new => exact absurd rfl (h id token new)
  | operate id op =>
    simp only [callJob]
    split
    · rfl
    · split
      · rfl
      · rw [KeyedTable.keys_modify]
  | listJobs sessionId status offset limit => rfl
  | _ => rw [callJob, KeyedTable.keys_modify]

/-- An operation returns the stored job. -/
theorem lookup_of_operate {op : Op D}
    (h : (callJob config jobs now (.operate jobId op)).2 = .job (some job)) :
    (callJob config jobs now (.operate jobId op)).1.lookup jobId = some job := by
  simp only [callJob] at h ⊢
  split at h
  · cases h
  · split at h
    · cases h
    · exact (JobReply.job.inj h)

theorem NewJob.row_consistent (new : NewJob) (jobId token now : String) :
    (new.row jobId token now : GenerationJob D M).Consistent reader := by
  constructor <;> simp [NewJob.row]

/-! ### Response ids -/

/-- The results of a row, prepared or completed, have this response id. -/
structure JobRow.Completes (reader : PayloadReader D) (responseId : String) (row : JobRow D) :
    Prop where
  prepared : ∀ result ∈ row.preparedResultPayload, reader.responseId result = some responseId
  completed : ∀ id ∈ row.completedResponseId, id = responseId

/-- The pending and the completed response of a job, as far as it has them, are these. -/
structure GenerationJob.Shows (reader : PayloadReader D) (pending completed : String)
    (job : GenerationJob D M) : Prop extends job.toJobRow.Completes reader completed where
  pending : ∀ id ∈ job.pendingResponseId, id = pending

/-- What a call gives the job `jobId` are these. -/
def JobCall.Shows (reader : PayloadReader D) (jobId pending completed : String) :
    JobCall D M → Prop
  | prepareResult id result => id = jobId → reader.responseId result = some completed
  | bindPendingResponse id pendingResponseId => id = jobId → pendingResponseId = pending
  | operate id (.completeJob result _) => id = jobId → reader.responseId result = some completed
  | _ => True

theorem refreshBlock_completes {job : JobRow D} {responseId : String}
    (h : row.Completes config.reader responseId)
    (hrefresh : (refreshBlock config job now (some row)).1 = some row') :
    row'.Completes config.reader responseId := by
  simp only [refreshBlock] at hrefresh
  split at hrefresh
  · obtain rfl := Option.some.inj hrefresh
    exact h
  · next prepared hprepared =>
    have hid := h.prepared prepared hprepared
    split_ifs at hrefresh
    · rw [hid] at hrefresh
      obtain rfl := Option.some.inj hrefresh
      exact ⟨h.prepared, fun _ hmem => (Option.some.inj hmem).symm⟩
    · obtain rfl := Option.some.inj hrefresh
      exact h
    · obtain rfl := Option.some.inj hrefresh
      exact ⟨h.prepared, h.completed⟩

/-- An operation completes a job with the result that was prepared or that it is given. -/
theorem Op.run_completes {op : Op D} {responseId : String}
    (h : row.Completes config.reader responseId)
    (hop : ∀ result progressMessage, op = .completeJob result progressMessage →
      config.reader.responseId result = some responseId)
    (hrun : op.run config now row = some row') : row'.Completes config.reader responseId := by
  unfold Op.run at hrun
  split at hrun
  · cases hrun
  · next job hread =>
    obtain ⟨hrow, hadm⟩ := readBlock_eq_write hread
    obtain rfl := Option.some.inj hrow
    obtain rfl := Option.some.inj hrun
    cases op with
    | completeJob result progressMessage =>
      simp only [Op.write, hop result progressMessage rfl]
      exact ⟨h.prepared, fun _ hmem => (Option.some.inj hmem).symm⟩
    | _ => exact ⟨h.prepared, h.completed⟩
  · next job hread =>
    split at hrun
    · cases hrun
    · next row'' pc hne hblock =>
      have hrefresh : (refreshBlock config job now (some row)).1 = some row' := by
        rw [hblock]
        exact hrun
      exact refreshBlock_completes h hrefresh
  · obtain rfl := Option.some.inj hrun
    exact h

theorem NewJob.row_shows (new : NewJob) (jobId token now : String) {pending completed : String} :
    (new.row jobId token now : GenerationJob D M).Shows reader pending completed :=
  ⟨⟨nofun, nofun⟩, nofun⟩

/-- A call that gives a job its own responses leaves it with these. -/
theorem callJob_shows {call : JobCall D M} {pending completed : String}
    (h : ∀ job, jobs.lookup jobId = some job → job.Shows config.reader pending completed)
    (hcall : call.Shows config.reader jobId pending completed)
    (hjob : (callJob config jobs now call).1.lookup jobId = some job) :
    job.Shows config.reader pending completed := by
  cases call with
  | createJob id token new =>
    simp only [callJob] at hjob
    split at hjob
    · next hinsert =>
      rw [KeyedTable.lookup_insert? hinsert] at hjob
      split_ifs at hjob
      · obtain rfl := Option.some.inj hjob
        exact new.row_shows id token now
      · exact h job hjob
    · exact h job hjob
  | prepareResult id result =>
    rw [callJob, KeyedTable.lookup_modify] at hjob
    split_ifs at hjob with hid
    · obtain ⟨job, hlookup, rfl⟩ := Option.map_eq_some_iff.mp hjob
      have hshows := h job hlookup
      exact ⟨⟨fun _ hmem => Option.some.inj hmem ▸ hcall hid.symm, hshows.completed⟩,
        hshows.pending⟩
    · exact h job hjob
  | bindPendingResponse id pendingResponseId =>
    rw [callJob, KeyedTable.lookup_modify] at hjob
    split_ifs at hjob with hid
    · obtain ⟨job, hlookup, rfl⟩ := Option.map_eq_some_iff.mp hjob
      have hshows := h job hlookup
      exact ⟨⟨hshows.prepared, hshows.completed⟩,
        fun _ hmem => (Option.some.inj hmem).symm.trans (hcall hid.symm)⟩
    · exact h job hjob
  | operate id op =>
    simp only [callJob] at hjob
    split at hjob
    · exact h job hjob
    · next job₀ hjob₀ =>
      split at hjob
      · exact h job hjob
      · next row hrun =>
        rw [KeyedTable.lookup_modify] at hjob
        split_ifs at hjob with hid
        · obtain ⟨job₁, hlookup, rfl⟩ := Option.map_eq_some_iff.mp hjob
          obtain rfl := Option.some.inj ((hid ▸ hlookup).symm.trans hjob₀)
          have hshows := h job₁ hlookup
          refine ⟨Op.run_completes hshows.toCompletes ?_ hrun, hshows.pending⟩
          rintro result progressMessage rfl
          exact hcall hid.symm
        · exact h job hjob
  | updateAutonomyMetadata id metadata triggerCompletion =>
    simp only [callJob, KeyedTable.lookup_modify] at hjob
    by_cases hid : jobId = id
    · rw [if_pos hid] at hjob
      obtain ⟨job, hlookup, rfl⟩ := Option.map_eq_some_iff.mp hjob
      have hshows := h job hlookup
      exact ⟨⟨hshows.prepared, hshows.completed⟩, hshows.pending⟩
    · rw [if_neg hid] at hjob
      exact h job hjob
  | listJobs sessionId status offset limit => exact h job hjob

/-! ### Runs -/

/-- Every row of the table is consistent. -/
def TableConsistent (reader : PayloadReader D) (jobs : JobTable D M) : Prop :=
  ∀ jobId job, jobs.lookup jobId = some job → job.Consistent reader

theorem TableConsistent.call {call : JobCall D M} (h : TableConsistent config.reader jobs) :
    TableConsistent config.reader (callJob config jobs now call).1 := by
  intro jobId job' hjob'
  cases hlookup : jobs.lookup jobId with
  | none =>
    obtain ⟨id, token, new, rfl⟩ := callJob_new hlookup hjob'
    exact new.row_consistent id token now
  | some job =>
    obtain ⟨job'', hjob'', hfollows⟩ : ∃ job'',
        (callJob config jobs now call).1.lookup jobId = some job'' ∧
          job.Follows config.reader job''.toJobRow := callJob_follows hlookup (h jobId job hlookup)
    obtain rfl := Option.some.inj (hjob''.symm.trans hjob')
    exact hfollows.consistent (h jobId job hlookup)

/-- What holds of the jobs in a run: a job starts pending and its statuses are a path in the table
of transitions; at every moment every row is consistent; and what goes with a terminal status is
final. -/
structure ConsistentRun (config : Config D) (jobs₀ : JobTable D M)
    (labels : List (String × JobCall D M)) : Prop where
  start : Along (jobStep config) (fun s _ t => ∀ jobId job, s.lookup jobId = none →
    t.lookup jobId = some job → job.jobStatus = .pending) jobs₀ labels
  path : Along (jobStep config) (fun s _ t => ∀ jobId job, s.lookup jobId = some job →
    ∃ job', t.lookup jobId = some job' ∧ (job'.jobStatus = job.jobStatus ∨
      job'.jobStatus ∈ job.jobStatus.validTransitions)) jobs₀ labels
  consistent : ∀ pre t, pre <+: labels → exec (jobStep config) jobs₀ pre = some t →
    ∀ jobId job, t.lookup jobId = some job → job.Consistent config.reader
  final : ∀ pre mid post s t, labels = pre ++ mid ++ post →
    exec (jobStep config) jobs₀ pre = some s → exec (jobStep config) s mid = some t →
    ∀ jobId job, s.lookup jobId = some job → job.jobStatus.isTerminal = true →
      ∃ job', t.lookup jobId = some job' ∧ job'.outcome = job.outcome

/-- **Job rows are consistent over whole runs.** For every sequence of calls on a store whose rows
are consistent. -/
theorem consistentRun {jobs₀ : JobTable D M} (h : TableConsistent config.reader jobs₀)
    (labels : List (String × JobCall D M)) : ConsistentRun config jobs₀ labels := by
  have hstep (s : JobTable D M) (l) (t) (hs : TableConsistent config.reader s)
      (ht : jobStep config s l = some t) : TableConsistent config.reader t := by
    obtain rfl := Option.some.inj ht
    exact hs.call
  have hfollows (s : JobTable D M) (l) (t) (hs : TableConsistent config.reader s)
      (ht : jobStep config s l = some t) (jobId : String) (job : GenerationJob D M)
      (hjob : s.lookup jobId = some job) :
      ∃ job', t.lookup jobId = some job' ∧ job.Follows config.reader job'.toJobRow := by
    obtain rfl := Option.some.inj ht
    exact callJob_follows hjob (hs jobId job hjob)
  have hpre {pre t} (ht : exec (jobStep config) jobs₀ pre = some t) :
      TableConsistent config.reader t := exec_invariant _ hstep h ht
  constructor
  · refine (along_iff_split labels jobs₀).mpr fun pre l post s t _ hs ht jobId job hnone hjob => ?_
    obtain rfl := Option.some.inj ht
    obtain ⟨id, token, new, rfl⟩ := callJob_new hnone hjob
    rfl
  · refine (along_iff_split labels jobs₀).mpr fun pre l post s t _ hs ht jobId job hjob => ?_
    obtain ⟨job', hjob', hfollow⟩ := hfollows s l t (hpre hs) ht jobId job hjob
    exact ⟨job', hjob', hfollow.status⟩
  · exact fun pre t _ ht => hpre ht
  · intro pre mid post s t _ hs ht jobId job hjob hterminal
    -- The outcome of the job is an invariant of the steps that follow.
    refine (exec_invariant (fun u : JobTable D M => TableConsistent config.reader u ∧
      ∃ job', u.lookup jobId = some job' ∧ job'.outcome = job.outcome) ?_
        ⟨hpre hs, job, hjob, rfl⟩ ht).2
    rintro u l v ⟨hu, job', hjob', houtcome⟩ hv
    obtain ⟨job'', hjob'', hfollow⟩ := hfollows u l v hu hv jobId job' hjob'
    refine ⟨hstep u l v hu hv, job'', hjob'', ?_⟩
    have hstatus : job'.jobStatus = job.jobStatus := congrArg Prod.fst houtcome
    rw [hfollow.outcome_eq (by rw [hstatus, hterminal]), houtcome]

/-- A new store is consistent in all its runs; here a job is prepared, started and refreshed until
it is complete, and a late failure changes nothing. -/
theorem consistentRun_new : ConsistentRun plainConfig (KeyedTable.empty : JobTable String String)
    [("t1", .createJob "job_1" "token"
        { sessionId := "chat_s_1", brokerId := "b", officeId := "memphis",
          progressMessage := "Queued.", retryAllowed := true }),
     ("t2", .prepareResult "job_1" "resp_1"), ("t3", .operate "job_1" (.startJob "Refreshing.")),
     ("t4", .updateAutonomyMetadata "job_1" "step 1" true), ("t5", .operate "job_1" .refreshJob),
     ("t6", .operate "job_1" (.failJob "late" none))] :=
  consistentRun (fun _ _ h => by cases h) _

end Meridian.Jobs
