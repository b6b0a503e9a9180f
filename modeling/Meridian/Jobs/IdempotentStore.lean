import Meridian.Foundations.Execution
import Meridian.Gateway.IdempotencyStore

/-!
# The idempotent job store

`create_job` and `complete_job` of `IdempotentJobStore`, from
`backend/app/jobs/idempotent_store.py`, over a repository with a state of its own whose every call
may return a job, return `None` or raise. A call is one function from the state before to its
outcome and the state after; it is undefined where `claim_record` waits for a record in progress,
which in a sequence of calls is forever.

## Main definitions

* `Meridian.Jobs.Repository`: any behaviour of the repository.
* `Meridian.Jobs.createJob`, `Meridian.Jobs.completeJob`: the two calls.
* `Meridian.Jobs.NoClaimLeft`: a call leaves no record in progress behind.
* `Meridian.Jobs.Request.Answered`: the condition on the repository.

## Main results

* `Meridian.Jobs.no_claim_left_iff`: no call of a sequence leaves a claim behind exactly if the
  repository returns a job to every call that has claimed a record, and then no call waits.
* `Meridian.Jobs.failed_creation_blocks_retry`: a sequence whose second call waits forever.
-/

namespace Meridian.Jobs

open Foundations Gateway

/-! ### The repository and the records -/

/-- A job as the repository returns it, with `result` for `job.get("result", {})`. -/
structure Job (D : Type*) where
  jobId : String
  status : String
  result : Option D

/-- What a call to the repository comes to. -/
inductive RepositoryReply (D : Type*)
  | job (job : Job D)
  | none
  | raised (message : String)

/-- What `create_job` passes on to the repository. -/
structure JobSpec where
  sessionId : String
  officeId : String
  brokerId : String
  jobKind : String
  progressMessage : String
  retryAllowed : Bool

/-- A repository with states in `R`; every call answers and moves on to another state. -/
structure Repository (R D : Type*) where
  get : R → String → RepositoryReply D × R
  create : R → JobSpec → RepositoryReply D × R
  complete : R → String → D → String → RepositoryReply D × R

/-- The digests of requests with context in `C` and of results in `D`. Each raises where
`json.dumps` does. -/
structure Digests (C D : Type*) where
  jobRequest : JobSpec → Option C → Except String String
  result : D → Except String String

/-- The entries `job_id`, `job` and `status` of a cached result. -/
structure CachedResult (D : Type*) where
  jobId : Option String
  job : Option (Job D)
  status : Option String

/-- The state of the repository and the records of the store. -/
structure JobStore (R D : Type*) where
  repo : R
  records : Store (CachedResult D)

/-- `IdempotentJobResult.outcome`. -/
inductive Outcome
  | created
  | replayed
  | conflict
  | error
  deriving DecidableEq

/-- `IdempotentJobResult`. -/
structure IdempotentJobResult (D : Type*) where
  outcome : Outcome
  job : Option (Job D)
  error : Option String

variable {R C D : Type*}

/-- The result with outcome `error`. -/
def errorResult (message : String) : IdempotentJobResult D := ⟨.error, none, some message⟩

/-- What a call comes to: a result, or an exception that leaves it. -/
abbrev Ending (D : Type*) := Except String (IdempotentJobResult D)

/-- The message of the `ValueError` of `complete_record`. -/
def mismatchMessage : String := "idempotency claim does not match completion request"

/-! ### The calls -/

section Calls

variable (repo : Repository R D) (digests : Digests C D)

/-- The `try` block of `create_job`. -/
def tryCreate (spec : JobSpec) (key fingerprint : String) (s : JobStore R D) :
    IdempotentJobResult D × JobStore R D :=
  match repo.create s.repo spec with
  | (.raised message, r) => (errorResult message, { s with repo := r })
  | (.none, r) => (errorResult "'NoneType' object is not subscriptable", { s with repo := r })
  | (.job job, r) =>
    match completeRecord s.records key fingerprint ⟨some job.jobId, some job, none⟩ with
    | none => (errorResult mismatchMessage, { s with repo := r })
    | some records => (⟨.created, some job, none⟩, ⟨r, records⟩)

/-- The job of a record that is replayed: `None` without asking if the record has no job id. -/
def cachedJob (cached : CachedResult D) (r : R) : RepositoryReply D × R :=
  match cached.jobId with
  | none => (.none, r)
  | some jobId => if jobId = "" then (.none, r) else repo.get r jobId

/-- `create_job`; `none` if it waits. -/
def createJob (spec : JobSpec) (requestContext : Option C) (s : JobStore R D) :
    Option (Ending D × JobStore R D) :=
  match digests.jobRequest spec requestContext with
  | .error message => some (.error message, s)
  | .ok fingerprint =>
    match claimRecord s.records ("job:create:" ++ fingerprint) fingerprint with
    | none => none
    | some (.execute, records) =>
      some (Prod.map .ok id (tryCreate repo spec ("job:create:" ++ fingerprint) fingerprint
        { s with records := records }))
    | some (.conflict _, _) =>
      some (.ok ⟨.conflict, none, some "Duplicate job request with different parameters"⟩, s)
    | some (.replay cached, _) =>
      match cachedJob repo cached s.repo with
      | (.raised message, r) => some (.error message, { s with repo := r })
      | (.job job, r) => some (.ok ⟨.replayed, some job, none⟩, { s with repo := r })
      -- the job has vanished: create it again, under a record that is completed
      | (.none, r) =>
        some (Prod.map .ok id (tryCreate repo spec ("job:create:" ++ fingerprint) fingerprint
          { s with repo := r }))

/-- The `try` block of `complete_job`. -/
def tryComplete (jobId : String) (result : D) (progressMessage key fingerprint : String)
    (s : JobStore R D) : IdempotentJobResult D × JobStore R D :=
  match repo.complete s.repo jobId result progressMessage with
  | (.raised message, r) => (errorResult message, { s with repo := r })
  | (.none, r) => (errorResult ("Job " ++ jobId ++ " not found"), { s with repo := r })
  | (.job job, r) =>
    match completeRecord s.records key fingerprint ⟨some jobId, none, some "succeeded"⟩ with
    | none => (errorResult mismatchMessage, { s with repo := r })
    | some records => (⟨.created, some job, none⟩, ⟨r, records⟩)

/-- `request_fingerprint or ...`: an empty fingerprint counts as none. -/
def completionFingerprint (result : D) : Option String → Except String String
  | none => digests.result result
  | some fingerprint => if fingerprint = "" then digests.result result else .ok fingerprint

/-- `complete_job`; `none` if it waits. -/
def completeJob [DecidableEq D] (jobId : String) (result : D) (progressMessage : String)
    (requestFingerprint : Option String) (s : JobStore R D) :
    Option (Ending D × JobStore R D) :=
  match completionFingerprint digests result requestFingerprint with
  | .error message => some (.error message, s)
  | .ok fingerprint =>
    match repo.get s.repo jobId with
    | (.raised message, r) => some (.error message, { s with repo := r })
    | (.job existing, r) =>
      if existing.status = "succeeded" then
        if existing.result = some result then
          some (.ok ⟨.replayed, some existing, none⟩, { s with repo := r })
        else
          some (.ok ⟨.conflict, some existing,
            some "Job already completed with different result"⟩, { s with repo := r })
      else claimAndComplete jobId result progressMessage fingerprint { s with repo := r }
    | (.none, r) => claimAndComplete jobId result progressMessage fingerprint { s with repo := r }
where
  /-- What follows the first look at the repository. -/
  claimAndComplete (jobId : String) (result : D) (progressMessage fingerprint : String)
      (s : JobStore R D) : Option (Ending D × JobStore R D) :=
    match claimRecord s.records ("job:complete:" ++ jobId) fingerprint with
    | none => none
    | some (.execute, records) =>
      some (Prod.map .ok id (tryComplete repo jobId result progressMessage
        ("job:complete:" ++ jobId) fingerprint { s with records := records }))
    | some (.conflict _, _) => some (.ok ⟨.conflict, none, some "Concurrent completion attempt"⟩, s)
    | some (.replay _, _) =>
      match repo.get s.repo jobId with
      | (.raised message, r) => some (.error message, { s with repo := r })
      | (.job job, r) => some (.ok ⟨.replayed, some job, none⟩, { s with repo := r })
      | (.none, r) =>
        some (Prod.map .ok id (tryComplete repo jobId result progressMessage
          ("job:complete:" ++ jobId) fingerprint { s with repo := r }))

end Calls

/-! ### Sequences of calls, the property and the condition -/

/-- A call with its arguments. -/
inductive Request (C D : Type*)
  | createJob (spec : JobSpec) (requestContext : Option C)
  | completeJob (jobId : String) (result : D) (progressMessage : String)
      (requestFingerprint : Option String)

section Sequences

variable [DecidableEq D] (repo : Repository R D) (digests : Digests C D)

/-- A call from its arguments to its ending. -/
def Request.run (request : Request C D) (s : JobStore R D) : Option (Ending D × JobStore R D) :=
  match request with
  | .createJob spec requestContext => Jobs.createJob repo digests spec requestContext s
  | .completeJob jobId result progressMessage requestFingerprint =>
    Jobs.completeJob repo digests jobId result progressMessage requestFingerprint s

/-- A sequence of calls proceeds by the next call, unless that waits. -/
def serve (s : JobStore R D) (request : Request C D) : Option (JobStore R D) :=
  (request.run repo digests s).map Prod.snd

/-- A record that is in progress afterwards was so before: no claim of the call is left. -/
def NoClaimLeft {V : Type*} (records records' : Store V) : Prop :=
  ∀ key fingerprint, records' key = some (.inProgress fingerprint) →
    records key = some (.inProgress fingerprint)

/-- The job may be completed, as far as the first look at it tells. -/
def RepositoryReply.Open : RepositoryReply D → Prop
  | .job existing => existing.status ≠ "succeeded"
  | .none => True
  | .raised _ => False

/-- The repository returns a job. -/
def RepositoryReply.IsJob (reply : RepositoryReply D) : Prop := ∃ job, reply = .job job

/-- If the call finds no record under its key, and so claims one, the repository returns a job to
it. -/
def Request.Answered (s : JobStore R D) : Request C D → Prop
  | .createJob spec requestContext =>
    ∀ fingerprint, digests.jobRequest spec requestContext = .ok fingerprint →
      s.records ("job:create:" ++ fingerprint) = none → (repo.create s.repo spec).1.IsJob
  | .completeJob jobId result progressMessage requestFingerprint =>
    ∀ fingerprint, completionFingerprint digests result requestFingerprint = .ok fingerprint →
      (repo.get s.repo jobId).1.Open → s.records ("job:complete:" ++ jobId) = none →
      (repo.complete (repo.get s.repo jobId).2 jobId result progressMessage).1.IsJob

end Sequences

/-! ### The records after a `try` block -/

variable {V : Type*} {records : Store V} {key fingerprint : String}

/-- What a `try` block makes of the records: a job completes the record if it can, and all else
leaves it. -/
def settle (records : Store V) (key fingerprint : String) (reply : RepositoryReply D)
    (cached : Job D → V) : Store V :=
  match reply with
  | .job job => (completeRecord records key fingerprint (cached job)).getD records
  | _ => records

theorem tryCreate_records (repo : Repository R D) (spec : JobSpec) (s : JobStore R D) :
    (tryCreate repo spec key fingerprint s).2.records =
      settle s.records key fingerprint (repo.create s.repo spec).1
        fun job => ⟨some job.jobId, some job, none⟩ := by
  unfold tryCreate
  split
  · next hreply => simp only [hreply, settle]
  · next hreply => simp only [hreply, settle]
  · next job r hreply =>
    split
    · next hnone => simp only [hreply, settle, hnone, Option.getD_none]
    · next records hsome => simp only [hreply, settle, hsome, Option.getD_some]

theorem tryComplete_records (repo : Repository R D) (jobId : String) (result : D)
    (progressMessage : String) (s : JobStore R D) :
    (tryComplete repo jobId result progressMessage key fingerprint s).2.records =
      settle s.records key fingerprint (repo.complete s.repo jobId result progressMessage).1
        fun _ => ⟨some jobId, none, some "succeeded"⟩ := by
  unfold tryComplete
  split
  · next hreply => simp only [hreply, settle]
  · next hreply => simp only [hreply, settle]
  · next job r hreply =>
    split
    · next hnone => simp only [hreply, settle, hnone, Option.getD_none]
    · next records hsome => simp only [hreply, settle, hsome, Option.getD_some]

/-- A completed record stays, whatever the repository returns. -/
theorem settle_of_completed {f : String} {v : V} (h : records key = some (.completed f v))
    (reply : RepositoryReply D) (cached : Job D → V) :
    settle records key fingerprint reply cached = records := by
  cases reply with
  | job job => simp only [settle, completeRecord, h, Option.getD_none]
  | none => rfl
  | raised message => rfl

@[simp] theorem noClaimLeft_self (records : Store V) : NoClaimLeft records records :=
  fun _ _ h => h

/-- A `try` block under a new claim settles it exactly if the repository returns a job. -/
theorem noClaimLeft_settle_iff (h : records key = none) (reply : RepositoryReply D)
    (cached : Job D → V) :
    NoClaimLeft records (settle (Function.update records key (some (.inProgress fingerprint))) key
      fingerprint reply cached) ↔ reply.IsJob := by
  have hleft : ¬ NoClaimLeft records
      (Function.update records key (some (.inProgress fingerprint))) := by
    intro hno
    have hkey := hno key fingerprint (Function.update_self ..)
    rw [h] at hkey
    cases hkey
  cases reply with
  | job job =>
    rw [settle, completeRecord_of_inProgress (Function.update_self ..), Option.getD_some,
      Function.update_idem]
    refine iff_of_true (fun key' f hf => ?_) ⟨job, rfl⟩
    by_cases hk : key' = key
    · subst hk
      rw [Function.update_self] at hf
      cases hf
    · rwa [Function.update_of_ne hk] at hf
  | none => exact iff_of_false hleft nofun
  | raised message => exact iff_of_false hleft nofun

/-! ### One call -/

section Call

variable {repo : Repository R D} {digests : Digests C D} {s t : JobStore R D} {ending : Ending D}

/-- `create_job` leaves no claim exactly if the repository answers it. -/
theorem createJob_noClaimLeft_iff [DecidableEq D] {spec : JobSpec} {requestContext : Option C}
    (h : createJob repo digests spec requestContext s = some (ending, t)) :
    NoClaimLeft s.records t.records ↔
      (Request.createJob spec requestContext : Request C D).Answered repo digests s := by
  unfold createJob at h
  split at h
  · next message hdigest =>
    cases h
    exact iff_of_true (noClaimLeft_self _) fun f hf => by rw [hdigest] at hf; cases hf
  · next fp hdigest =>
    have hanswered : (Request.createJob spec requestContext : Request C D).Answered repo digests s ↔
        (s.records ("job:create:" ++ fp) = none → (repo.create s.repo spec).1.IsJob) := by
      simp only [Request.Answered, hdigest, Except.ok.injEq, forall_eq']
    rw [hanswered]
    split at h
    · cases h
    · next records hclaim =>
      obtain ⟨hfree, rfl⟩ := claimRecord_eq_execute_iff.mp hclaim
      have ht : _ = t := congrArg Prod.snd (Option.some.inj h)
      rw [← ht, Prod.map_snd, id, tryCreate_records, noClaimLeft_settle_iff hfree]
      simp only [hfree, forall_const]
    · next cached records hclaim =>
      obtain ⟨⟨f, hrec, -⟩, -⟩ := claimRecord_eq_conflict_iff.mp hclaim
      cases h
      simp only [noClaimLeft_self, hrec, reduceCtorEq, false_implies]
    · next cached records hclaim =>
      obtain ⟨hrec, -⟩ := claimRecord_eq_replay_iff.mp hclaim
      have hrecords : t.records = s.records := by
        split at h
        · cases h; rfl
        · cases h; rfl
        · cases h
          exact (tryCreate_records ..).trans (settle_of_completed hrec ..)
      simp only [hrecords, noClaimLeft_self, hrec, reduceCtorEq, false_implies]

/-- The part of `complete_job` after the first look at the repository. -/
theorem claimAndComplete_noClaimLeft_iff {jobId : String} {result : D}
    {progressMessage fp : String}
    (h : completeJob.claimAndComplete repo jobId result progressMessage fp s = some (ending, t)) :
    NoClaimLeft s.records t.records ↔ (s.records ("job:complete:" ++ jobId) = none →
      (repo.complete s.repo jobId result progressMessage).1.IsJob) := by
  unfold completeJob.claimAndComplete at h
  split at h
  · cases h
  · next records hclaim =>
    obtain ⟨hfree, rfl⟩ := claimRecord_eq_execute_iff.mp hclaim
    have ht : _ = t := congrArg Prod.snd (Option.some.inj h)
    rw [← ht, Prod.map_snd, id, tryComplete_records, noClaimLeft_settle_iff hfree]
    simp only [hfree, forall_const]
  · next cached records hclaim =>
    obtain ⟨⟨f, hrec, -⟩, -⟩ := claimRecord_eq_conflict_iff.mp hclaim
    cases h
    simp only [noClaimLeft_self, hrec, reduceCtorEq, false_implies]
  · next cached records hclaim =>
    obtain ⟨hrec, -⟩ := claimRecord_eq_replay_iff.mp hclaim
    have hrecords : t.records = s.records := by
      split at h
      · cases h; rfl
      · cases h; rfl
      · cases h
        exact (tryComplete_records ..).trans (settle_of_completed hrec ..)
    simp only [hrecords, noClaimLeft_self, hrec, reduceCtorEq, false_implies]

/-- `complete_job` leaves no claim exactly if the repository answers it. -/
theorem completeJob_noClaimLeft_iff [DecidableEq D] {jobId : String} {result : D}
    {progressMessage : String} {requestFingerprint : Option String}
    (h : completeJob repo digests jobId result progressMessage requestFingerprint s =
      some (ending, t)) :
    NoClaimLeft s.records t.records ↔
      (Request.completeJob jobId result progressMessage requestFingerprint :
        Request C D).Answered repo digests s := by
  unfold completeJob at h
  split at h
  · next message hdigest =>
    cases h
    exact iff_of_true (noClaimLeft_self _) fun f hf => by rw [hdigest] at hf; cases hf
  · next fp hdigest =>
    have hanswered : (Request.completeJob jobId result progressMessage requestFingerprint :
        Request C D).Answered repo digests s ↔
        ((repo.get s.repo jobId).1.Open → s.records ("job:complete:" ++ jobId) = none →
          (repo.complete (repo.get s.repo jobId).2 jobId result progressMessage).1.IsJob) := by
      simp only [Request.Answered, hdigest, Except.ok.injEq, forall_eq']
    rw [hanswered]
    split at h
    · next message r hget =>
      cases h
      simp only [hget, RepositoryReply.Open, noClaimLeft_self, false_implies]
    · next existing r hget =>
      simp only [hget, RepositoryReply.Open]
      split_ifs at h with hdone hsame
      · cases h
        simp only [noClaimLeft_self, hdone, ne_eq, not_true_eq_false, false_implies]
      · cases h
        simp only [noClaimLeft_self, hdone, ne_eq, not_true_eq_false, false_implies]
      · simp only [claimAndComplete_noClaimLeft_iff h, hdone, ne_eq, not_false_eq_true,
          forall_const]
    · next r hget =>
      simp only [hget, RepositoryReply.Open, claimAndComplete_noClaimLeft_iff h, forall_const]

/-- A call waits only for a record in progress. -/
theorem Request.exists_inProgress [DecidableEq D] {request : Request C D}
    (h : request.run repo digests s = none) : ∃ key f, s.records key = some (.inProgress f) := by
  have hclaim {jobId : String} {result : D} {progressMessage fp : String} {r : R}
      (h : completeJob.claimAndComplete repo jobId result progressMessage fp { s with repo := r } =
        none) : ∃ key f, s.records key = some (.inProgress f) := by
    unfold completeJob.claimAndComplete at h
    split at h
    · next hclaim => exact ⟨_, claimRecord_eq_none_iff.mp hclaim⟩
    · cases h
    · cases h
    · split at h <;> cases h
  cases request with
  | createJob spec requestContext =>
    simp only [Request.run, Jobs.createJob] at h
    split at h
    · cases h
    · split at h
      · next hclaim => exact ⟨_, claimRecord_eq_none_iff.mp hclaim⟩
      · cases h
      · cases h
      · split at h <;> cases h
  | completeJob jobId result progressMessage requestFingerprint =>
    simp only [Request.run, Jobs.completeJob] at h
    split at h
    · cases h
    · split at h
      · cases h
      · split_ifs at h
        exact hclaim h
      · exact hclaim h

theorem serve_eq_some_iff [DecidableEq D] {request : Request C D} :
    serve repo digests s request = some t ↔
      ∃ ending, request.run repo digests s = some (ending, t) := by
  simp only [serve, Option.map_eq_some_iff, Prod.exists, exists_eq_right]

/-- A call leaves no claim exactly if the repository answers it. -/
theorem noClaimLeft_iff_answered [DecidableEq D] {request : Request C D}
    (h : serve repo digests s request = some t) :
    NoClaimLeft s.records t.records ↔ request.Answered repo digests s := by
  obtain ⟨ending, h⟩ := serve_eq_some_iff.mp h
  cases request with
  | createJob => exact createJob_noClaimLeft_iff h
  | completeJob => exact completeJob_noClaimLeft_iff h

end Call

/-! ### Sequences of calls -/

variable [DecidableEq D] {repo : Repository R D} {digests : Digests C D} {s₀ : JobStore R D}
  {requests : List (Request C D)}

/-- If no call of a sequence leaves a claim, then from a store without records in progress no call
waits. -/
theorem exists_exec_of_noClaimLeft (hs₀ : ∀ key f, s₀.records key ≠ some (.inProgress f))
    (h : Along (serve repo digests) (fun s _ t => NoClaimLeft s.records t.records) s₀ requests) :
    ∃ t, exec (serve repo digests) s₀ requests = some t := by
  refine along_exists_exec (fun s => ∀ key f, s.records key ≠ some (.inProgress f))
    (fun s _ t hs hno _ key f hf => hs key f (hno key f hf)) (fun s request hs => ?_) hs₀ h
  cases hserve : serve repo digests s request with
  | some t => exact ⟨t, rfl⟩
  | none =>
    obtain ⟨key, f, hf⟩ := Request.exists_inProgress (Option.map_eq_none_iff.mp hserve)
    exact absurd hf (hs key f)

/-- **Claims are settled exactly if the repository answers.** In every sequence of calls, no call
leaves a record that it claimed in progress, if and only if the repository returns a job to every
call that has claimed a record; and then, from a store without records in progress, no call of the
sequence waits. -/
theorem no_claim_left_iff :
    (Along (serve repo digests) (fun s _ t => NoClaimLeft s.records t.records) s₀ requests ↔
      Along (serve repo digests) (fun s request _ => request.Answered repo digests s) s₀
        requests) ∧
    ((∀ key f, s₀.records key ≠ some (.inProgress f)) →
      Along (serve repo digests) (fun s request _ => request.Answered repo digests s) s₀
        requests →
      ∃ t, exec (serve repo digests) s₀ requests = some t) := by
  have hiff : Along (serve repo digests) (fun s _ t => NoClaimLeft s.records t.records) s₀
      requests ↔ Along (serve repo digests) (fun s request _ => request.Answered repo digests s) s₀
        requests :=
    ⟨Along.mono fun _ _ _ h => (noClaimLeft_iff_answered h).mp,
      Along.mono fun _ _ _ h => (noClaimLeft_iff_answered h).mpr⟩
  exact ⟨hiff, fun hs₀ h => exists_exec_of_noClaimLeft hs₀ (hiff.mpr h)⟩

/-! ### A repository that works and one that fails -/

/-- A repository that returns the same job to every call. -/
def working : Repository Unit String where
  get _ _ := (.job ⟨"job_1", "queued", none⟩, ())
  create _ _ := (.job ⟨"job_1", "queued", none⟩, ())
  complete _ _ _ _ := (.job ⟨"job_1", "succeeded", none⟩, ())

/-- A repository that cannot be reached. -/
def unreachable : Repository Unit String where
  get _ _ := (.raised "connection refused", ())
  create _ _ := (.raised "connection refused", ())
  complete _ _ _ _ := (.raised "connection refused", ())

/-- Digests that are the session and the result itself. -/
def plainDigests : Digests String String where
  jobRequest spec _ := .ok spec.sessionId
  result := .ok

/-- A request to create a job. -/
def memphisRequest : Request String String :=
  .createJob
    { sessionId := "chat_s_1"
      officeId := "memphis"
      brokerId := "broker-123"
      jobKind := "analytics_refresh"
      progressMessage := "Job queued"
      retryAllowed := false } none

/-- A creation and its retry, with a repository that works. -/
theorem no_claim_left_iff_retry :
    ∃ t, exec (serve working plainDigests) ⟨(), fun _ => none⟩ [memphisRequest, memphisRequest] =
      some t := by
  have hanswered (s : JobStore Unit String) :
      memphisRequest.Answered working plainDigests s := fun _ _ _ => ⟨_, rfl⟩
  exact no_claim_left_iff.2 (fun _ _ => nofun)
    (.cons rfl (hanswered _) (.cons rfl (hanswered _) trivial))

/-- **A failed creation blocks its retry.** The repository raises, the call returns `error` and
leaves its record in progress, and the same call made again waits forever. -/
theorem failed_creation_blocks_retry :
    ∃ t, memphisRequest.run unreachable plainDigests ⟨(), fun _ => none⟩ =
        some (.ok (errorResult "connection refused"), t) ∧
      t.records "job:create:chat_s_1" = some (.inProgress "chat_s_1") ∧
      memphisRequest.run unreachable plainDigests t = none ∧
      ¬ Along (serve unreachable plainDigests) (fun s _ t => NoClaimLeft s.records t.records)
        ⟨(), fun _ => none⟩ [memphisRequest] := by
  refine ⟨_, rfl, rfl, rfl, fun h => ?_⟩
  have hkey := (h _ rfl).1 "job:create:chat_s_1" "chat_s_1" rfl
  cases hkey

end Meridian.Jobs
