import Meridian.Foundations.KeyedTable
import Meridian.Jobs.IdempotentStore
import Mathlib.Data.Int.Notation

/-!
# Durable jobs

`JobRepository`, from `backend/app/jobs/repository.py`, and any number of `IdempotentJobStore`s over
one repository. A store keeps its idempotency records in a mapping of its own, or in one that it
shares with other stores, while all of them write the same table `generation_jobs`. A sequence of
calls to these stores is a run; a call that waits for a record in progress waits forever.

## Main definitions

* `Meridian.Jobs.DurableRow`, `Meridian.Jobs.DurableTable`: the table `generation_jobs`.
* `Meridian.Jobs.JobRepository.repository`: the repository that the calls of
  `Meridian.Jobs.Request` meet.
* `Meridian.Jobs.durableStep`: one call through one of the stores.
* `Meridian.Jobs.DurableCall.KeepsEnded`: the condition on a call.

## Main results

* `Meridian.Jobs.ended_kept_iff`: in a run no job that has succeeded or failed changes its status or
  its result, exactly if no call fails a job that has succeeded or completes one that has failed.
* `Meridian.Jobs.succeeded_job_fails`: a run in which a job succeeds, fails and succeeds again.
-/

namespace Meridian.Jobs

open Foundations Gateway

variable {C D κ : Type*}

/-! ### The table -/

/-- The statuses that the statements of the repository name. -/
inductive DurableStatus
  | queued
  | running
  | succeeded
  | failed
  | cancelled
  deriving DecidableEq

/-- The text in the column. -/
def DurableStatus.text : DurableStatus → String
  | queued => "queued"
  | running => "running"
  | succeeded => "succeeded"
  | failed => "failed"
  | cancelled => "cancelled"

/-- A row of `generation_jobs`, with decoded payloads. -/
structure DurableRow (D : Type*) where
  jobId : String
  sessionId : String
  officeId : String
  brokerId : String
  jobKind : String
  jobStatus : DurableStatus
  progressMessage : String
  retryAllowed : Bool
  pendingResponseId : Option String
  completedResponseId : Option String
  preparedResultPayload : Option D
  resultPayload : Option D
  jobPollToken : Option String
  completionRefreshesRemaining : Option ℤ
  artifactKey : Option String
  artifactMimeType : Option String
  artifactSizeBytes : Option ℤ
  createdAt : String
  updatedAt : String
  completedAt : Option String

/-- The table, by its primary key. -/
abbrev DurableTable (D : Type*) := KeyedTable (DurableRow.jobId : DurableRow D → String)

/-- What the repository needs to know of payloads: what a column gives back of one, unless it cannot
be encoded, whether one is true, `str(payload.get("response_id", ""))` and
`str(payload.get("summary", ...))`. -/
structure PayloadColumn (D : Type*) where
  store : D → Except String D
  truthy : D → Bool
  responseId : D → String
  summary : D → String

/-- What a call takes from outside: the time, the id and the token drawn for a new job, and whether
the rows that a new job refers to exist. -/
structure Moment where
  now : String
  newJobId : String
  newPollToken : String
  referenced : Bool

/-- The entries of a job that the idempotent store reads. -/
def DurableRow.toJob (row : DurableRow D) : Job D :=
  ⟨row.jobId, row.jobStatus.text, row.resultPayload⟩

/-! ### The repository -/

namespace JobRepository

variable (column : PayloadColumn D) (moment : Moment) (jobs : DurableTable D) (jobId : String)

/-- `get`. -/
def get : RepositoryReply D × DurableTable D :=
  match jobs.lookup jobId with
  | some row => (.job row.toJob, jobs)
  | none => (.none, jobs)

/-- `create`. -/
def create (spec : JobSpec) : RepositoryReply D × DurableTable D :=
  let row : DurableRow D :=
    { jobId := moment.newJobId
      sessionId := spec.sessionId
      officeId := spec.officeId
      brokerId := spec.brokerId
      jobKind := spec.jobKind
      jobStatus := .queued
      progressMessage := spec.progressMessage
      retryAllowed := spec.retryAllowed
      pendingResponseId := none
      completedResponseId := none
      preparedResultPayload := none
      resultPayload := none
      jobPollToken := some moment.newPollToken
      completionRefreshesRemaining := none
      artifactKey := none
      artifactMimeType := none
      artifactSizeBytes := none
      createdAt := moment.now
      updatedAt := moment.now
      completedAt := none }
  if moment.referenced = false then (.raised "violates foreign key constraint", jobs)
  else
    match jobs.insert? row with
    | some jobs' => get jobs' moment.newJobId
    | none => (.raised "violates unique constraint", jobs)

/-- `update_status`, where an empty message counts as none. -/
def updateStatus (status : DurableStatus) (progressMessage : Option String) :
    RepositoryReply D × DurableTable D :=
  let message := progressMessage.filter (· ≠ "")
  get (jobs.modify jobId
    (fun row =>
      { row with
        jobStatus := status
        progressMessage := message.getD row.progressMessage
        updatedAt := moment.now })
    fun _ => rfl) jobId

/-- `start`, whose statement is guarded by the status. -/
def start (progressMessage : String) (refreshesRemaining : ℤ) :
    RepositoryReply D × DurableTable D :=
  get (jobs.modify jobId
    (fun row =>
      if row.jobStatus = .queued then
        { row with
          jobStatus := .running
          progressMessage := progressMessage
          completionRefreshesRemaining := some refreshesRemaining
          updatedAt := moment.now }
      else row)
    fun _ => by split <;> rfl) jobId

/-- `prepare_result`, which returns nothing. -/
def prepareResult (result : D) : RepositoryReply D × DurableTable D :=
  match column.store result with
  | .error message => (.raised message, jobs)
  | .ok stored =>
    (.none, jobs.modify jobId
      (fun row => { row with preparedResultPayload := some stored, updatedAt := moment.now })
      fun _ => rfl)

/-- The `UPDATE` of `complete`. -/
def completed (stored : D) (responseId progressMessage : String) (row : DurableRow D) :
    DurableRow D :=
  { row with
    jobStatus := .succeeded
    progressMessage := progressMessage
    completedResponseId := some responseId
    resultPayload := some stored
    completionRefreshesRemaining := none
    artifactKey := none
    artifactMimeType := none
    artifactSizeBytes := none
    updatedAt := moment.now
    completedAt := some moment.now }

theorem completed_jobId (stored : D) (responseId progressMessage : String) (row : DurableRow D) :
    (completed moment stored responseId progressMessage row).jobId = row.jobId := rfl

/-- `complete` without an artifact, as it is always called. -/
def complete (result : D) (progressMessage : String) : RepositoryReply D × DurableTable D :=
  match column.store result with
  | .error message => (.raised message, jobs)
  | .ok stored =>
    get (jobs.modify jobId (completed moment stored (column.responseId result) progressMessage)
      (completed_jobId moment stored _ _)) jobId

/-- `fail`. -/
def fail (errorMessage : String) : RepositoryReply D × DurableTable D :=
  updateStatus moment jobs jobId .failed (some errorMessage)

/-- `bind_pending_response`. -/
def bindPendingResponse (responseId : String) : RepositoryReply D × DurableTable D :=
  get (jobs.modify jobId
    (fun row => { row with pendingResponseId := some responseId, updatedAt := moment.now })
    fun _ => rfl) jobId

/-- `refresh`. -/
def refresh : RepositoryReply D × DurableTable D :=
  match jobs.lookup jobId with
  | none => (.none, jobs)
  | some row =>
    if row.jobStatus ≠ .running then (.job row.toJob, jobs)
    else
      match row.preparedResultPayload.filter column.truthy with
      | none => (.job row.toJob, jobs)
      | some prepared =>
        let remaining := row.completionRefreshesRemaining.getD 0
        if 0 < remaining then
          get (jobs.modify jobId
            (fun row =>
              { row with
                completionRefreshesRemaining := some (remaining - 1)
                updatedAt := moment.now })
            fun _ => rfl) jobId
        else complete column moment jobs jobId prepared (column.summary prepared)

/-- `link_artifact`. -/
def linkArtifact (artifactKey mimeType : String) (sizeBytes : ℤ) :
    RepositoryReply D × DurableTable D :=
  get (jobs.modify jobId
    (fun row =>
      { row with
        artifactKey := some artifactKey
        artifactMimeType := some mimeType
        artifactSizeBytes := some sizeBytes
        updatedAt := moment.now })
    fun _ => rfl) jobId

/-- The repository as `create_job` and `complete_job` meet it. -/
def repository : Repository (DurableTable D) D where
  get := get
  create jobs spec := create moment jobs spec
  complete jobs jobId result progressMessage :=
    complete column moment jobs jobId result progressMessage

end JobRepository

/-! ### The stores over the repository -/

/-- The calls of `IdempotentJobStore` that write. -/
inductive DurableCall (C D : Type*)
  | request (request : Request C D)
  | prepareResult (jobId : String) (result : D)
  | startJob (jobId progressMessage : String)
  | refreshJob (jobId : String)
  | bindPendingResponse (jobId responseId : String)
  | linkArtifact (jobId artifactKey mimeType : String) (sizeBytes : ℤ)
  | failJob (jobId errorMessage : String)

/-- The table and the records of each mapping. -/
structure DurableStore (κ D : Type*) where
  jobs : DurableTable D
  records : κ → Store (CachedResult D)

section Step

variable [DecidableEq D] [DecidableEq κ] (column : PayloadColumn D) (digests : Digests C D)

/-- One call through a store whose records are in the mapping `k`. -/
def durableStep (s : DurableStore κ D) (l : κ × Moment × DurableCall C D) :
    Option (DurableStore κ D) :=
  match l with
  | (k, moment, .request request) =>
    (request.run (JobRepository.repository column moment) digests ⟨s.jobs, s.records k⟩).map
      fun (_, t) => { jobs := t.repo, records := Function.update s.records k t.records }
  | (_, moment, .prepareResult jobId result) =>
    some { s with jobs := (JobRepository.prepareResult column moment s.jobs jobId result).2 }
  | (_, moment, .startJob jobId progressMessage) =>
    some { s with jobs := (JobRepository.start moment s.jobs jobId progressMessage 2).2 }
  | (_, moment, .refreshJob jobId) =>
    some { s with jobs := (JobRepository.refresh column moment s.jobs jobId).2 }
  | (_, moment, .bindPendingResponse jobId responseId) =>
    some { s with jobs := (JobRepository.bindPendingResponse moment s.jobs jobId responseId).2 }
  | (_, moment, .linkArtifact jobId artifactKey mimeType sizeBytes) =>
    some { s with
      jobs := (JobRepository.linkArtifact moment s.jobs jobId artifactKey mimeType sizeBytes).2 }
  | (_, moment, .failJob jobId errorMessage) =>
    some { s with jobs := (JobRepository.fail moment s.jobs jobId errorMessage).2 }

end Step

/-! ### Ended jobs -/

/-- The job has succeeded or failed. -/
def DurableRow.Ended (row : DurableRow D) : Prop :=
  row.jobStatus = .succeeded ∨ row.jobStatus = .failed

/-- The columns that are to be final. -/
def DurableRow.decided (row : DurableRow D) : DurableStatus × Option D :=
  (row.jobStatus, row.resultPayload)

/-- Every ended job keeps its status and its result. -/
def EndedKept (jobs jobs' : DurableTable D) : Prop :=
  ∀ jobId row, jobs.lookup jobId = some row → row.Ended →
    ∃ row', jobs'.lookup jobId = some row' ∧ row'.decided = row.decided

/-- A failure finds a job that has not succeeded; and a completion that finds a failed job finds a
record of a completion in the mapping of its store too, unless it raises before it writes. -/
def DurableCall.KeepsEnded (column : PayloadColumn D) (digests : Digests C D)
    (jobs : DurableTable D) (records : Store (CachedResult D)) : DurableCall C D → Prop
  | .failJob jobId _ => ∀ row, jobs.lookup jobId = some row → row.jobStatus ≠ .succeeded
  | .request (.completeJob jobId result _ requestFingerprint) =>
    ∀ row fingerprint stored, jobs.lookup jobId = some row → row.jobStatus = .failed →
      completionFingerprint digests result requestFingerprint = .ok fingerprint →
      column.store result = .ok stored → records ("job:complete:" ++ jobId) ≠ none
  | _ => True

variable {column : PayloadColumn D} {digests : Digests C D} {moment : Moment}
  {jobs jobs' jobs'' : DurableTable D} {jobId : String}

@[simp] theorem DurableStatus.text_eq_succeeded {status : DurableStatus} :
    status.text = "succeeded" ↔ status = .succeeded := by
  cases status <;> decide

@[simp] theorem EndedKept.refl (jobs : DurableTable D) : EndedKept jobs jobs :=
  fun _ row hrow _ => ⟨row, hrow, rfl⟩

theorem EndedKept.trans (h : EndedKept jobs jobs') (h' : EndedKept jobs' jobs'') :
    EndedKept jobs jobs'' := by
  intro id row hrow hended
  obtain ⟨row', hrow', hdecided⟩ := h id row hrow hended
  have hended' : row'.Ended := by
    have hstatus : row'.jobStatus = row.jobStatus := congrArg Prod.fst hdecided
    rwa [DurableRow.Ended, hstatus]
  obtain ⟨row'', hrow'', hdecided'⟩ := h' id row' hrow' hended'
  exact ⟨row'', hrow'', hdecided'.trans hdecided⟩

/-- A rewrite keeps ended jobs exactly if it does so for the one that it finds. -/
theorem endedKept_modify_iff {f : DurableRow D → DurableRow D} {hf} :
    EndedKept jobs (jobs.modify jobId f hf) ↔
      ∀ row, jobs.lookup jobId = some row → row.Ended → (f row).decided = row.decided := by
  constructor
  · intro h row hrow hended
    obtain ⟨row', hrow', hdecided⟩ := h jobId row hrow hended
    rw [KeyedTable.lookup_modify, if_pos rfl, hrow] at hrow'
    rwa [Option.some.inj hrow']
  · intro h id row hrow hended
    rw [KeyedTable.lookup_modify, hrow]
    split_ifs with hid
    · subst hid
      exact ⟨f row, rfl, h row hrow hended⟩
    · exact ⟨row, rfl, rfl⟩

/-- A rewrite of other columns keeps ended jobs. -/
theorem EndedKept.modify {f : DurableRow D → DurableRow D} {hf}
    (h : ∀ row : DurableRow D, row.Ended → (f row).decided = row.decided) :
    EndedKept jobs (jobs.modify jobId f hf) :=
  endedKept_modify_iff.mpr fun row _ => h row

@[simp] theorem JobRepository.get_snd : (JobRepository.get jobs jobId).2 = jobs := by
  unfold JobRepository.get
  split <;> rfl

/-! ### The operations of the repository -/

theorem JobRepository.create_endedKept (spec : JobSpec) :
    EndedKept jobs (JobRepository.create moment jobs spec).2 := by
  unfold JobRepository.create
  dsimp only
  split_ifs
  · exact .refl jobs
  · split
    · next jobs' hinsert =>
      intro id row hrow _
      rw [JobRepository.get_snd, KeyedTable.lookup_insert? hinsert]
      split_ifs with hid
      · rw [hid, (KeyedTable.insert?_eq_some hinsert).1] at hrow
        cases hrow
      · exact ⟨row, hrow, rfl⟩
    · exact .refl jobs

theorem JobRepository.prepareResult_endedKept (result : D) :
    EndedKept jobs (JobRepository.prepareResult column moment jobs jobId result).2 := by
  unfold JobRepository.prepareResult
  split
  · exact .refl jobs
  · dsimp only
    exact .modify fun _ _ => rfl

theorem JobRepository.start_endedKept (progressMessage : String) (refreshesRemaining : ℤ) :
    EndedKept jobs
      (JobRepository.start moment jobs jobId progressMessage refreshesRemaining).2 := by
  rw [JobRepository.start, JobRepository.get_snd]
  refine .modify fun row hended => ?_
  have hqueued : row.jobStatus ≠ .queued := by
    obtain h | h := hended <;> rw [h] <;> nofun
  rw [if_neg hqueued]

/-- A completion keeps ended jobs exactly if it raises or finds none. -/
theorem JobRepository.complete_endedKept_iff {result : D} {progressMessage : String}
    (h : ∀ row, jobs.lookup jobId = some row → row.jobStatus ≠ .succeeded) :
    EndedKept jobs (JobRepository.complete column moment jobs jobId result progressMessage).2 ↔
      ∀ row stored, jobs.lookup jobId = some row → column.store result = .ok stored →
        row.jobStatus ≠ .failed := by
  unfold JobRepository.complete
  split
  · next message hstore => simp [hstore]
  · next stored hstore =>
    rw [JobRepository.get_snd, endedKept_modify_iff]
    constructor
    · intro hkept row _ hrow _ hfailed
      have hdecided := hkept row hrow (.inr hfailed)
      simp only [DurableRow.decided, JobRepository.completed, hfailed, Prod.mk.injEq] at hdecided
      cases hdecided.1
    · rintro hne row hrow (hsucceeded | hfailed)
      · exact absurd hsucceeded (h row hrow)
      · exact absurd hfailed (hne row stored hrow hstore)

/-- A refresh looks at the status first. -/
theorem JobRepository.refresh_endedKept :
    EndedKept jobs (JobRepository.refresh column moment jobs jobId).2 := by
  unfold JobRepository.refresh
  split
  · exact .refl jobs
  · next row hrow =>
    split_ifs with hrunning
    · exact .refl jobs
    · rw [not_not] at hrunning
      split
      · exact .refl jobs
      · next prepared _ =>
        dsimp only
        split_ifs
        · rw [JobRepository.get_snd]
          exact .modify fun _ _ => rfl
        · refine (JobRepository.complete_endedKept_iff fun row' hrow' => ?_).mpr
            fun row' _ hrow' _ => ?_
          all_goals
            obtain rfl := Option.some.inj (hrow.symm.trans hrow')
            rw [hrunning]
            nofun

theorem JobRepository.bindPendingResponse_endedKept (responseId : String) :
    EndedKept jobs (JobRepository.bindPendingResponse moment jobs jobId responseId).2 := by
  rw [JobRepository.bindPendingResponse, JobRepository.get_snd]
  exact .modify fun _ _ => rfl

theorem JobRepository.linkArtifact_endedKept (artifactKey mimeType : String) (sizeBytes : ℤ) :
    EndedKept jobs
      (JobRepository.linkArtifact moment jobs jobId artifactKey mimeType sizeBytes).2 := by
  rw [JobRepository.linkArtifact, JobRepository.get_snd]
  exact .modify fun _ _ => rfl

/-- A failure keeps ended jobs exactly if it does not find one that has succeeded. -/
theorem JobRepository.fail_endedKept_iff (errorMessage : String) :
    EndedKept jobs (JobRepository.fail moment jobs jobId errorMessage).2 ↔
      ∀ row, jobs.lookup jobId = some row → row.jobStatus ≠ .succeeded := by
  rw [JobRepository.fail, JobRepository.updateStatus, JobRepository.get_snd, endedKept_modify_iff]
  refine forall_congr' fun row => imp_congr_right fun _ => ?_
  simp only [DurableRow.decided, Prod.mk.injEq, and_true, DurableRow.Ended]
  constructor
  · intro hkept hsucceeded
    rw [hsucceeded] at hkept
    cases hkept (.inl rfl)
  · rintro hne (hsucceeded | hfailed)
    · exact absurd hsucceeded hne
    · exact hfailed.symm

/-! ### One call -/

variable {ending : Ending D} {js t : JobStore (DurableTable D) D}

theorem tryComplete_repo {R : Type*} {repo : Repository R D} {result : D}
    {progressMessage key fingerprint : String} {s : JobStore R D} :
    (tryComplete repo jobId result progressMessage key fingerprint s).2.repo =
      (repo.complete s.repo jobId result progressMessage).2 := by
  unfold tryComplete
  split
  · next hreply => rw [hreply]
  · next hreply => rw [hreply]
  · next hreply => split <;> rw [hreply]

theorem tryCreate_repo {R : Type*} {repo : Repository R D} {spec : JobSpec}
    {key fingerprint : String} {s : JobStore R D} :
    (tryCreate repo spec key fingerprint s).2.repo = (repo.create s.repo spec).2 := by
  unfold tryCreate
  split
  · next hreply => rw [hreply]
  · next hreply => rw [hreply]
  · next hreply => split <;> rw [hreply]

/-- A completion that has looked at the job leaves the table, with a record under its key, or
completes the job. -/
theorem claimAndComplete_repo {result : D} {progressMessage fingerprint : String}
    (h : completeJob.claimAndComplete (JobRepository.repository column moment) jobId result
      progressMessage fingerprint js = some (ending, t)) :
    (t.repo = js.repo ∧ js.records ("job:complete:" ++ jobId) ≠ none) ∨
      t.repo = (JobRepository.complete column moment js.repo jobId result progressMessage).2 ∧
        (js.records ("job:complete:" ++ jobId) = none ∨ js.repo.lookup jobId = none) := by
  unfold completeJob.claimAndComplete at h
  split at h
  · cases h
  · next records' hclaim =>
    obtain ⟨hfree, -⟩ := claimRecord_eq_execute_iff.mp hclaim
    have ht := congrArg (·.2.repo) (Option.some.inj h)
    simp only [Prod.map_snd, id, tryComplete_repo] at ht
    exact .inr ⟨ht.symm, .inl hfree⟩
  · next cached records' hclaim =>
    obtain ⟨⟨f, hrec, -⟩, -⟩ := claimRecord_eq_conflict_iff.mp hclaim
    cases h
    exact .inl ⟨rfl, by simp [hrec]⟩
  · next cached records' hclaim =>
    obtain ⟨hrec, -⟩ := claimRecord_eq_replay_iff.mp hclaim
    simp only [JobRepository.repository, JobRepository.get] at h
    cases hrow : js.repo.lookup jobId with
    | some row =>
      simp only [hrow] at h
      cases h
      exact .inl ⟨rfl, by simp [hrec]⟩
    | none =>
      simp only [hrow] at h
      have ht := congrArg (·.2.repo) (Option.some.inj h)
      simp only [Prod.map_snd, id, tryComplete_repo] at ht
      exact .inr ⟨ht.symm, .inr rfl⟩

/-- `create_job` keeps ended jobs. -/
theorem createJob_endedKept {spec : JobSpec} {requestContext : Option C}
    (h : createJob (JobRepository.repository column moment) digests spec requestContext
      js = some (ending, t)) : EndedKept js.repo t.repo := by
  have htry {records' key fingerprint} :
      EndedKept js.repo (tryCreate (JobRepository.repository column moment) spec key fingerprint
        ⟨js.repo, records'⟩).2.repo := by
    rw [tryCreate_repo]
    exact JobRepository.create_endedKept spec
  unfold createJob at h
  split at h
  · cases h
    exact .refl js.repo
  · split at h
    · cases h
    · have ht := congrArg (·.2.repo) (Option.some.inj h)
      rw [← ht]
      exact htry
    · cases h
      exact .refl js.repo
    · next cached _ _ =>
      have hcached :
          (cachedJob (JobRepository.repository column moment) cached js.repo).2 = js.repo := by
        unfold cachedJob
        split
        · rfl
        · split_ifs
          · rfl
          · exact JobRepository.get_snd
      split at h
      · next message r hreply =>
        obtain rfl : r = js.repo := by rw [← hcached, hreply]
        cases h
        exact .refl js.repo
      · next job r hreply =>
        obtain rfl : r = js.repo := by rw [← hcached, hreply]
        cases h
        exact .refl js.repo
      · next r hreply =>
        obtain rfl : r = js.repo := by rw [← hcached, hreply]
        have ht := congrArg (·.2.repo) (Option.some.inj h)
        rw [← ht]
        exact htry

variable [DecidableEq D]

/-- What `complete_job` does to ended jobs. -/
theorem completeJob_endedKept_iff {result : D} {progressMessage : String}
    {requestFingerprint : Option String}
    (h : completeJob (JobRepository.repository column moment) digests jobId result progressMessage
      requestFingerprint js = some (ending, t)) :
    EndedKept js.repo t.repo ↔
      (DurableCall.request (.completeJob jobId result progressMessage requestFingerprint) :
        DurableCall C D).KeepsEnded column digests js.repo js.records := by
  unfold completeJob at h
  simp only [DurableCall.KeepsEnded]
  split at h
  · next message hdigest =>
    cases h
    exact iff_of_true (.refl js.repo) fun _ f _ _ _ hf => by rw [hdigest] at hf; cases hf
  · next fingerprint hdigest =>
    simp only [JobRepository.repository, JobRepository.get] at h
    cases hrow : js.repo.lookup jobId with
    | none =>
      refine iff_of_true ?_ fun _ _ _ h => by cases h
      simp only [hrow] at h
      obtain ⟨ht, -⟩ | ⟨ht, -⟩ := claimAndComplete_repo h
      · rw [ht]
        exact .refl js.repo
      · rw [ht, JobRepository.complete_endedKept_iff] <;> simp [hrow]
    | some row =>
      simp only [hrow, DurableRow.toJob, DurableStatus.text_eq_succeeded] at h
      split_ifs at h with hsucceeded hsame
      · cases h
        refine iff_of_true (.refl js.repo) ?_
        rintro _ _ _ ⟨⟩ hfailed
        rw [hsucceeded] at hfailed
        cases hfailed
      · cases h
        refine iff_of_true (.refl js.repo) ?_
        rintro _ _ _ ⟨⟩ hfailed
        rw [hsucceeded] at hfailed
        cases hfailed
      · obtain ⟨ht, hrec⟩ | ⟨ht, hfree⟩ := claimAndComplete_repo h
        · rw [ht]
          exact iff_of_true (.refl js.repo) fun _ _ _ _ _ _ _ => hrec
        · have hfree : js.records ("job:complete:" ++ jobId) = none := by
            simpa [hrow] using hfree
          rw [ht, JobRepository.complete_endedKept_iff (by simpa [hrow] using hsucceeded)]
          simp only [hrow, hdigest, hfree, ne_eq, not_true_eq_false, Except.ok.injEq]
          exact ⟨fun hne row _ stored hrow hfailed _ hstore => hne row stored hrow hstore hfailed,
            fun hne row stored hrow hstore hfailed => hne row _ stored hrow hfailed rfl hstore⟩

variable [DecidableEq κ] {s u : DurableStore κ D} {l : κ × Moment × DurableCall C D}

/-- A call keeps ended jobs exactly if it meets the condition. -/
theorem durableStep_endedKept_iff (h : durableStep column digests s l = some u) :
    EndedKept s.jobs u.jobs ↔ l.2.2.KeepsEnded column digests s.jobs (s.records l.1) := by
  obtain ⟨k, moment, call⟩ := l
  cases call with
  | request request =>
    obtain ⟨⟨ending, t⟩, hrun, rfl⟩ := Option.map_eq_some_iff.mp h
    cases request with
    | createJob spec requestContext =>
      exact iff_of_true (createJob_endedKept hrun) trivial
    | completeJob => exact completeJob_endedKept_iff hrun
  | failJob jobId errorMessage =>
    obtain rfl := Option.some.inj h
    exact JobRepository.fail_endedKept_iff errorMessage
  | prepareResult jobId result =>
    obtain rfl := Option.some.inj h
    exact iff_of_true (JobRepository.prepareResult_endedKept result) trivial
  | startJob jobId progressMessage =>
    obtain rfl := Option.some.inj h
    exact iff_of_true (JobRepository.start_endedKept progressMessage 2) trivial
  | refreshJob jobId =>
    obtain rfl := Option.some.inj h
    exact iff_of_true JobRepository.refresh_endedKept trivial
  | bindPendingResponse jobId responseId =>
    obtain rfl := Option.some.inj h
    exact iff_of_true (JobRepository.bindPendingResponse_endedKept responseId) trivial
  | linkArtifact jobId artifactKey mimeType sizeBytes =>
    obtain rfl := Option.some.inj h
    exact iff_of_true (JobRepository.linkArtifact_endedKept artifactKey mimeType sizeBytes) trivial

/-! ### Runs -/

variable {s₀ : DurableStore κ D} {labels : List (κ × Moment × DurableCall C D)}

/-- Between any two moments of the run, ended jobs keep their status and their result. -/
def EndedFinal (column : PayloadColumn D) (digests : Digests C D) (s₀ : DurableStore κ D)
    (labels : List (κ × Moment × DurableCall C D)) : Prop :=
  ∀ pre mid post s t, labels = pre ++ mid ++ post →
    exec (durableStep column digests) s₀ pre = some s →
    exec (durableStep column digests) s mid = some t → EndedKept s.jobs t.jobs

/-- **When terminal jobs stay terminal in the durable store.** In every run, ended jobs are final
exactly if every call meets the condition. -/
theorem ended_kept_iff :
    EndedFinal column digests s₀ labels ↔
      Along (durableStep column digests)
        (fun s l _ => l.2.2.KeepsEnded column digests s.jobs (s.records l.1)) s₀ labels := by
  constructor
  · intro h
    refine (along_iff_split labels s₀).mpr fun pre l post s t hlabels hs ht => ?_
    refine (durableStep_endedKept_iff ht).mp
      (h pre [l] post s t (by rw [hlabels, List.append_assoc, List.singleton_append]) hs ?_)
    exact exec_cons_eq_some.mpr ⟨t, ht, rfl⟩
  · rintro h pre mid post s t rfl hs ht
    rw [List.append_assoc, along_append] at h
    have hmid := (along_append.mp (h.2 s hs)).1
    exact along_relation (fun s t => EndedKept s.jobs t.jobs) (fun s => .refl s.jobs)
      (fun _ _ _ => .trans) (hmid.mono fun _ _ _ ht => (durableStep_endedKept_iff ht).mpr) ht

/-! ### A job with three outcomes -/

/-- Columns that store every payload as it is. -/
def plainColumn : PayloadColumn String :=
  { store := .ok, truthy := (· ≠ ""), responseId := id, summary := id }

/-- A running job, and two stores whose mappings are empty. -/
def runningJob : DurableStore Bool String :=
  { jobs :=
      { rows :=
          [{ jobId := "job_1"
             sessionId := "chat_s_1"
             officeId := "memphis"
             brokerId := "broker-123"
             jobKind := "analytics_refresh"
             jobStatus := .running
             progressMessage := "Job running"
             retryAllowed := false
             pendingResponseId := none
             completedResponseId := none
             preparedResultPayload := none
             resultPayload := none
             jobPollToken := some "token"
             completionRefreshesRemaining := some 2
             artifactKey := none
             artifactMimeType := none
             artifactSizeBytes := none
             createdAt := "2026-03-16T09:00:00Z"
             updatedAt := "2026-03-16T09:00:00Z"
             completedAt := none }]
        nodup := List.nodup_singleton _ }
    records := fun _ _ => none }

/-- A moment at which no job is created. -/
def laterMoment : Moment :=
  { now := "2026-03-16T09:05:00Z", newJobId := "", newPollToken := "", referenced := false }

/-- **A job that has succeeded fails and succeeds again.** One store completes the job and fails it,
and another completes it with another result. -/
theorem succeeded_job_fails :
    (∃ s t u, durableStep plainColumn plainDigests runningJob
        (true, laterMoment, .request (.completeJob "job_1" "resp_1" "Done." none)) = some s ∧
      durableStep plainColumn plainDigests s
        (true, laterMoment, .failJob "job_1" "late") = some t ∧
      durableStep plainColumn plainDigests t
        (false, laterMoment, .request (.completeJob "job_1" "resp_2" "Done." none)) = some u ∧
      (s.jobs.lookup "job_1").map DurableRow.decided = some (.succeeded, some "resp_1") ∧
      (t.jobs.lookup "job_1").map DurableRow.decided = some (.failed, some "resp_1") ∧
      (u.jobs.lookup "job_1").map DurableRow.decided = some (.succeeded, some "resp_2")) ∧
    ¬ EndedFinal plainColumn plainDigests runningJob
      [(true, laterMoment, .request (.completeJob "job_1" "resp_1" "Done." none)),
       (true, laterMoment, .failJob "job_1" "late")] := by
  refine ⟨⟨_, _, _, rfl, rfl, rfl, rfl, rfl, rfl⟩, fun h => ?_⟩
  obtain ⟨row', hrow', hdecided⟩ :=
    h [(true, laterMoment, .request (.completeJob "job_1" "resp_1" "Done." none))]
      [(true, laterMoment, .failJob "job_1" "late")] [] _ _ rfl rfl rfl "job_1" _ rfl (.inl rfl)
  obtain rfl := Option.some.inj hrow'
  cases congrArg Prod.fst hdecided

end Meridian.Jobs
