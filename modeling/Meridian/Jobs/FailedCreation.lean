import Meridian.Jobs.Repository

/-!
# Creations that answer `error`

`create_job` of `IdempotentJobStore` puts the insert of the job and the recording of its result into
one `try` block, whose handler answers `error`. An insert that is committed is not taken back, so
the answer does not tell whether there is a job. The repository here is that of
`backend/app/jobs/repository.py`, with a connection that can fail at each of its statements.

## Main definitions

* `Meridian.Jobs.Faults`: what fails in a call.
* `Meridian.Jobs.JobRepository.faulty`: the repository with these faults.
* `Meridian.Jobs.JobRepository.cleanupOld`: `cleanup_old`.
* `Meridian.Jobs.RecordsInsert`: the condition on a call and the state before it.

## Main results

* `Meridian.Jobs.error_creates_nothing_iff`: an answer `error` means that the table is as before,
  exactly if a job that goes in is read back and found without a completed record.
* `Meridian.Jobs.error_creates_job`: the retry of a creation whose job was cleaned up answers
  `error` and creates a job.
-/

namespace Meridian.Jobs

open Foundations Gateway

variable {C D : Type*}

/-! ### The repository with its faults -/

/-- What fails in a call of `create_job` besides the constraints of the table, as the message
raised: the read of a replayed job; the statements up to the insert, which is then not committed;
and what comes between the commit and the job that `create` returns. -/
structure Faults where
  replayRead : Option String
  insert : Option String
  readBack : Option String

namespace JobRepository

variable (column : PayloadColumn D) (moment : Moment) (faults : Faults)

/-- The repository with the faults of a call. -/
def faulty : Repository (DurableTable D) D where
  get jobs jobId :=
    match faults.replayRead with
    | some message => (.raised message, jobs)
    | none => get jobs jobId
  create jobs spec :=
    match faults.insert with
    | some message => (.raised message, jobs)
    | none =>
      match create moment jobs spec, faults.readBack with
      | (.job _, jobs'), some message => (.raised message, jobs')
      | reply, _ => reply
  complete jobs jobId result progressMessage :=
    complete column moment jobs jobId result progressMessage

/-- `cleanup_old`, where `old` decides `completed_at < NOW() - INTERVAL '... days'`. -/
def cleanupOld (old : String → Bool) (jobs : DurableTable D) : DurableTable D :=
  jobs.delete fun row =>
    decide (row.jobStatus ∈ [.succeeded, .failed, .cancelled]) && row.completedAt.any old

end JobRepository

/-! ### The condition -/

/-- The insert of a new job goes through. -/
structure Inserts (moment : Moment) (faults : Faults) (jobs : DurableTable D) : Prop where
  connected : faults.insert = none
  referenced : moment.referenced = true
  unused : jobs.lookup moment.newJobId = none

/-- The replay of a record finds no job: the record has no job id, or one that the table does not
have. -/
def CachedResult.Gone (cached : CachedResult D) (faults : Faults) (jobs : DurableTable D) : Prop :=
  ∀ jobId, cached.jobId = some jobId → jobId ≠ "" →
    faults.replayRead = none ∧ jobs.lookup jobId = none

/-- A job that goes in under a new claim is read back, and none goes in under a completed record. -/
def RecordsInsert (digests : Digests C D) (moment : Moment) (faults : Faults) (spec : JobSpec)
    (requestContext : Option C) (s : JobStore (DurableTable D) D) : Prop :=
  ∀ fingerprint, digests.jobRequest spec requestContext = .ok fingerprint →
    Inserts moment faults s.repo →
    (s.records ("job:create:" ++ fingerprint) = none → faults.readBack = none) ∧
      ∀ cached, s.records ("job:create:" ++ fingerprint) = some (.completed fingerprint cached) →
        ¬ cached.Gone faults s.repo

/-- If the call answers `error`, the table holds exactly the jobs that it held before. -/
def ErrorCreatesNothing (s : JobStore (DurableTable D) D)
    (call : Option (Ending D × JobStore (DurableTable D) D)) : Prop :=
  ∀ result t, call = some (.ok result, t) → result.outcome = .error → t.repo = s.repo

/-! ### One call -/

variable {column : PayloadColumn D} {digests : Digests C D} {moment : Moment} {faults : Faults}
  {spec : JobSpec} {requestContext : Option C} {key fingerprint : String}
  {jobs : DurableTable D} {s : JobStore (DurableTable D) D}

/-- A creation that does not insert raises and leaves the table. -/
theorem faulty_create_of_not_inserts (column : PayloadColumn D) (spec : JobSpec)
    (h : ¬ Inserts moment faults jobs) :
    ∃ message, (JobRepository.faulty column moment faults).create jobs spec =
      (.raised message, jobs) := by
  simp only [JobRepository.faulty]
  split
  · next message _ => exact ⟨message, rfl⟩
  · next hconnected =>
    have hraised : ∃ message, JobRepository.create moment jobs spec = (.raised message, jobs) := by
      unfold JobRepository.create
      dsimp only
      split_ifs with hreferenced
      · exact ⟨_, rfl⟩
      · split
        · next jobs' hinsert =>
          exact absurd ⟨hconnected, by simpa using hreferenced,
            (KeyedTable.insert?_eq_some hinsert).1⟩ h
        · exact ⟨_, rfl⟩
    obtain ⟨message, hraised⟩ := hraised
    exact ⟨message, by rw [hraised]⟩

/-- A creation that inserts changes the table, and returns a job if that is read back. -/
theorem faulty_create_of_inserts (column : PayloadColumn D) (spec : JobSpec)
    (h : Inserts moment faults jobs) :
    ∃ job jobs', jobs' ≠ jobs ∧ (JobRepository.faulty column moment faults).create jobs spec =
      (match faults.readBack with
        | some message => .raised message
        | none => .job job, jobs') := by
  have hcreate : ∃ job jobs', jobs' ≠ jobs ∧
      JobRepository.create moment jobs spec = (.job job, jobs') := by
    unfold JobRepository.create
    dsimp only
    rw [if_neg (by simp [h.referenced])]
    split
    · next jobs' hinsert =>
      have hlookup := KeyedTable.lookup_insert? hinsert (k := moment.newJobId)
      rw [if_pos rfl] at hlookup
      refine ⟨_, jobs', ?_, by rw [JobRepository.get, hlookup]⟩
      rintro rfl
      rw [h.unused] at hlookup
      cases hlookup
    · next hinsert =>
      obtain ⟨row, hrow⟩ := KeyedTable.insert?_eq_none.mp hinsert
      rw [h.unused] at hrow
      cases hrow
  obtain ⟨job, jobs', hne, hcreate⟩ := hcreate
  refine ⟨job, jobs', hne, ?_⟩
  simp only [JobRepository.faulty, h.connected, hcreate]
  cases faults.readBack with
  | some message => rfl
  | none => rfl

/-- A call that goes through to the `try` block creates nothing on an error, exactly if a job that
goes in is read back and can be recorded. -/
theorem errorCreatesNothing_tryCreate_iff {records : Store (CachedResult D)} :
    ErrorCreatesNothing s (some (Prod.map .ok id (tryCreate
        (JobRepository.faulty column moment faults) spec key fingerprint ⟨s.repo, records⟩))) ↔
      (Inserts moment faults s.repo → faults.readBack = none ∧
        (records key = none ∨ records key = some (.inProgress fingerprint))) := by
  unfold ErrorCreatesNothing tryCreate
  by_cases hinserts : Inserts moment faults s.repo
  · obtain ⟨job, jobs', hne, hcreate⟩ := faulty_create_of_inserts column spec hinserts
    simp only [hcreate, hinserts, true_implies]
    cases hread : faults.readBack with
    | some message => exact iff_of_false (fun h => hne (h _ _ rfl rfl)) nofun
    | none =>
      dsimp only
      split
      · next hnone =>
        refine iff_of_false (fun h => hne (h _ _ rfl rfl)) fun h => ?_
        rw [completeRecord_eq_some_iff.mpr ⟨h.2, rfl⟩] at hnone
        cases hnone
      · next records hsome =>
        refine iff_of_true ?_ ⟨rfl, (completeRecord_eq_some_iff.mp hsome).1⟩
        rintro _ _ ⟨⟩ ⟨⟩
  · obtain ⟨message, hcreate⟩ := faulty_create_of_not_inserts column spec hinserts
    simp only [hcreate, hinserts, false_implies, iff_true]
    rintro _ _ ⟨⟩ _
    rfl

/-- What a replay reads: the table stays, and no job comes back exactly if it is gone. -/
theorem cachedJob_faulty (column : PayloadColumn D) (moment : Moment) (faults : Faults)
    (cached : CachedResult D) (jobs : DurableTable D) :
    (cachedJob (JobRepository.faulty column moment faults) cached jobs).2 = jobs ∧
      ((cachedJob (JobRepository.faulty column moment faults) cached jobs).1 = .none ↔
        cached.Gone faults jobs) := by
  unfold CachedResult.Gone cachedJob
  cases hid : cached.jobId with
  | none => simp
  | some jobId =>
    by_cases hempty : jobId = ""
    · simp [hempty]
    · cases hread : faults.replayRead with
      | some message => simp [JobRepository.faulty, hread, hempty]
      | none =>
        cases hrow : jobs.lookup jobId with
        | some row => simp [JobRepository.faulty, JobRepository.get, hread, hrow, hempty]
        | none => simp [JobRepository.faulty, JobRepository.get, hread, hrow, hempty]

/-- **When `error` means that nothing was created.** For every state of the table and of the
records, and whatever fails in the call, an answer `error` leaves the table as it was, exactly if
the condition holds. -/
theorem error_creates_nothing_iff :
    ErrorCreatesNothing s (createJob (JobRepository.faulty column moment faults) digests spec
        requestContext s) ↔ RecordsInsert digests moment faults spec requestContext s := by
  unfold createJob RecordsInsert
  split
  · next message hdigest => simp [ErrorCreatesNothing, hdigest]
  · next fp hdigest =>
    simp only [hdigest, Except.ok.injEq, forall_eq']
    split
    · next hclaim =>
      obtain ⟨f, hrec⟩ := claimRecord_eq_none_iff.mp hclaim
      simp [ErrorCreatesNothing, hrec]
    · next records hclaim =>
      obtain ⟨hfree, rfl⟩ := claimRecord_eq_execute_iff.mp hclaim
      rw [errorCreatesNothing_tryCreate_iff]
      simp [hfree]
    · next cached records hclaim =>
      obtain ⟨⟨f, hrec, hne⟩, -⟩ := claimRecord_eq_conflict_iff.mp hclaim
      simp [ErrorCreatesNothing, hrec, hne]
    · next cached records hclaim =>
      obtain ⟨hrec, -⟩ := claimRecord_eq_replay_iff.mp hclaim
      obtain ⟨hrepo, hgone⟩ := cachedJob_faulty column moment faults cached s.repo
      split
      · next message r hraised =>
        rw [hraised] at hrepo hgone
        simp [ErrorCreatesNothing, hrec, ← hgone]
      · next job r hjob =>
        rw [hjob] at hrepo hgone
        simp [ErrorCreatesNothing, hrec, ← hgone]
      · next r hnone =>
        rw [hnone] at hrepo hgone
        obtain rfl : r = s.repo := hrepo
        rw [errorCreatesNothing_tryCreate_iff]
        simp [hrec, ← hgone]

/-! ### A job that was cleaned up -/

/-- The moment at which a first job is created. -/
def firstMoment : Moment :=
  { now := "2026-03-16T09:00:00Z", newJobId := "job_1", newPollToken := "token_1",
    referenced := true }

/-- A moment months later. -/
def retryMoment : Moment :=
  { now := "2026-06-01T09:00:00Z", newJobId := "job_2", newPollToken := "token_2",
    referenced := true }

/-- A connection that does not fail. -/
def noFaults : Faults := ⟨none, none, none⟩

/-- The call of both creations. -/
def memphisSpec : JobSpec :=
  { sessionId := "chat_s_1"
    officeId := "memphis"
    brokerId := "broker-123"
    jobKind := "analytics_refresh"
    progressMessage := "Job queued"
    retryAllowed := false }

/-- **`error` creates a job.** A job is created, completed and cleaned up. The same creation, made
again while nothing fails, answers `error` and leaves a new job in the table. -/
theorem error_creates_job :
    ∃ job s jobs t,
      createJob (JobRepository.faulty plainColumn firstMoment noFaults) plainDigests memphisSpec
        none ⟨.empty, fun _ => none⟩ = some (.ok ⟨.created, some job, none⟩, s) ∧
      jobs = JobRepository.cleanupOld (fun _ => true)
        (JobRepository.complete plainColumn firstMoment s.repo "job_1" "resp_1" "Done.").2 ∧
      jobs.rows = [] ∧
      createJob (JobRepository.faulty plainColumn retryMoment noFaults) plainDigests memphisSpec
        none ⟨jobs, s.records⟩ = some (.ok (errorResult mismatchMessage), t) ∧
      t.repo.keys = ["job_2"] ∧
      ¬ ErrorCreatesNothing ⟨jobs, s.records⟩
        (createJob (JobRepository.faulty plainColumn retryMoment noFaults) plainDigests memphisSpec
          none ⟨jobs, s.records⟩) := by
  refine ⟨_, _, _, _, rfl, rfl, rfl, rfl, rfl, fun h => ?_⟩
  have hrows := congrArg KeyedTable.rows (h _ _ rfl rfl)
  cases hrows

end Meridian.Jobs
