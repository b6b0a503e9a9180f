import Meridian.Jobs.Repository

/-!
# Concurrent calls of idempotent stores

Any number of calls of `create_job` and `complete_job` of `IdempotentJobStore`, through any number
of stores over one repository. A block of a call is one call of the repository or one function of
the idempotency store, together with the local computation up to the next of these; a call whose
`claim_record` waits has no next block until the record is completed. Python compares the results of
`complete_job` with an equality of its own.

## Main definitions

* `Meridian.Jobs.callStep`: one block of one call.
* `Meridian.Jobs.CallMove`: the same step as a relation with one constructor for each thing that a
  block can do.
* `Meridian.Jobs.Serial`: the claims keep apart what calls with one key execute.

## Main results

* `Meridian.Jobs.callStep_eq_some_iff`: `callStep` and `CallMove` agree.
* `Meridian.Jobs.CallMove.serial`: as long as no replayed job has vanished, every step keeps the
  claims, so the repository is called to create or complete once for each key.
* `Meridian.Jobs.exec_run`: the blocks of a call one after the other are the call.
-/

namespace Meridian.Jobs

open Foundations Gateway

variable {R C D κ ι : Type*}

/-! ### Blocks -/

/-- The next block of a call, with the local variables that are still needed. -/
inductive CallPc (D : Type*)
  | start
  | claim (fingerprint : String)
  | replay (fingerprint : String) (cached : CachedResult D)
  | execute (fingerprint : String)
  | record (fingerprint : String) (job : Job D)
  | done (ending : Ending D)

/-- A call and the mapping of its store. -/
structure StoreCall (κ C D : Type*) where
  mapping : κ
  request : Request C D

/-- The table, the records of each mapping, the place of every call, and the jobs that the
repository has returned to the calls that it has created or completed them for, the last one
first. -/
structure SharedJobs (ι κ D : Type*) where
  jobs : DurableTable D
  records : κ → Store (CachedResult D)
  pc : ι → CallPc D
  executed : List (ι × Job D)

namespace Request

/-- The fingerprint of a call, unless it raises. -/
def fingerprint (digests : Digests C D) : Request C D → Except String String
  | createJob spec requestContext => digests.jobRequest spec requestContext
  | completeJob _ result _ requestFingerprint =>
    completionFingerprint digests result requestFingerprint

/-- `idempotency_key`. -/
def key (fingerprint : String) : Request C D → String
  | createJob _ _ => "job:create:" ++ fingerprint
  | completeJob jobId _ _ _ => "job:complete:" ++ jobId

/-- The answer to a call whose first look finds its job completed. -/
def alreadyCompleted (equal : D → D → Bool) (existing : Job D) (result : D) :
    IdempotentJobResult D :=
  if existing.result.any (equal · result) then ⟨.replayed, some existing, none⟩
  else ⟨.conflict, some existing, some "Job already completed with different result"⟩

/-- The block before `claim_record`: the fingerprint, and the first look of `complete_job`. -/
def startBlock (equal : D → D → Bool) (repo : Repository R D) (digests : Digests C D)
    (request : Request C D) (r : R) : CallPc D × R :=
  match request.fingerprint digests with
  | .error message => (.done (.error message), r)
  | .ok fingerprint =>
    match request with
    | createJob _ _ => (.claim fingerprint, r)
    | completeJob jobId result _ _ =>
      match repo.get r jobId with
      | (.raised message, r) => (.done (.error message), r)
      | (.job existing, r) =>
        if existing.status = "succeeded" then
          (.done (.ok (alreadyCompleted equal existing result)), r)
        else (.claim fingerprint, r)
      | (.none, r) => (.claim fingerprint, r)

/-- `error` of a conflict. -/
def conflictMessage : Request C D → String
  | createJob _ _ => "Duplicate job request with different parameters"
  | completeJob _ _ _ _ => "Concurrent completion attempt"

/-- The job that a replayed record stands for. -/
def replayed (repo : Repository R D) (cached : CachedResult D) (r : R) :
    Request C D → RepositoryReply D × R
  | createJob _ _ => cachedJob repo cached r
  | completeJob jobId _ _ _ => repo.get r jobId

/-- What follows a replayed record. -/
def afterReplay (fingerprint : String) : RepositoryReply D → CallPc D
  | .raised message => .done (.error message)
  | .job job => .done (.ok ⟨.replayed, some job, none⟩)
  | .none => .execute fingerprint

/-- The creation or completion. -/
def execute (repo : Repository R D) (r : R) : Request C D → RepositoryReply D × R
  | createJob spec _ => repo.create r spec
  | completeJob jobId result progressMessage _ => repo.complete r jobId result progressMessage

/-- What the repository answers is not a job. -/
def failure (request : Request C D) : RepositoryReply D → String
  | .raised message => message
  | _ =>
    match request with
    | createJob _ _ => "'NoneType' object is not subscriptable"
    | completeJob jobId _ _ _ => "Job " ++ jobId ++ " not found"

/-- The result that `complete_record` stores. -/
def cached (job : Job D) : Request C D → CachedResult D
  | createJob _ _ => ⟨some job.jobId, some job, none⟩
  | completeJob jobId _ _ _ => ⟨some jobId, none, some "succeeded"⟩

end Request

/-- Where the record of a call is. -/
def StoreCall.address (fingerprint : String) (call : StoreCall κ C D) : κ × String :=
  (call.mapping, call.request.key fingerprint)

/-! ### States -/

namespace SharedJobs

/-- The call `i` goes on to `p`. -/
def goto [DecidableEq ι] (s : SharedJobs ι κ D) (i : ι) (p : CallPc D) : SharedJobs ι κ D :=
  { s with pc := Function.update s.pc i p }

/-- The record under a key of a mapping becomes `record`. -/
def setRecord [DecidableEq κ] (s : SharedJobs ι κ D) (k : κ) (key : String)
    (record : Lease.Record String (CachedResult D)) : SharedJobs ι κ D :=
  { s with records := Function.update s.records k (Function.update (s.records k) key record) }

/-- The table becomes `jobs`. -/
def setJobs (s : SharedJobs ι κ D) (jobs : DurableTable D) : SharedJobs ι κ D :=
  { s with jobs := jobs }

/-- The repository has created or completed `job` for the call `i`. -/
def addExecuted (s : SharedJobs ι κ D) (i : ι) (job : Job D) : SharedJobs ι κ D :=
  { s with executed := (i, job) :: s.executed }

/-- The record of the call `i`. -/
def recordOf (calls : ι → StoreCall κ C D) (s : SharedJobs ι κ D) (i : ι) (fingerprint : String) :
    Option (Lease.Record String (CachedResult D)) :=
  s.records (calls i).mapping ((calls i).request.key fingerprint)

variable {s : SharedJobs ι κ D} {calls : ι → StoreCall κ C D} {i j : ι} {p : CallPc D} {k : κ}
  {key f g : String} {record : Lease.Record String (CachedResult D)} {jobs : DurableTable D}
  {job : Job D}

section Goto

variable [DecidableEq ι]

@[simp] theorem goto_pc : (s.goto i p).pc = Function.update s.pc i p := rfl

@[simp] theorem goto_jobs : (s.goto i p).jobs = s.jobs := rfl

@[simp] theorem goto_executed : (s.goto i p).executed = s.executed := rfl

@[simp] theorem goto_recordOf : (s.goto i p).recordOf calls j f = s.recordOf calls j f := rfl

end Goto

section SetRecord

variable [DecidableEq κ]

@[simp] theorem setRecord_pc : (s.setRecord k key record).pc = s.pc := rfl

@[simp] theorem setRecord_jobs : (s.setRecord k key record).jobs = s.jobs := rfl

@[simp] theorem setRecord_executed : (s.setRecord k key record).executed = s.executed := rfl

theorem setRecord_recordOf_of_eq (h : (calls j).address g = (calls i).address f) :
    (s.setRecord (calls i).mapping ((calls i).request.key f) record).recordOf calls j g =
      some record := by
  obtain ⟨hk, hkey⟩ := Prod.mk.inj h
  rw [recordOf, hk, hkey]
  simp [setRecord]

theorem setRecord_recordOf_of_ne (h : (calls j).address g ≠ (calls i).address f) :
    (s.setRecord (calls i).mapping ((calls i).request.key f) record).recordOf calls j g =
      s.recordOf calls j g := by
  by_cases hk : (calls j).mapping = (calls i).mapping
  · have hkey : (calls j).request.key g ≠ (calls i).request.key f := fun hkey =>
      h (Prod.ext hk hkey)
    simp only [recordOf, setRecord, hk, Function.update_self, Function.update_of_ne hkey]
  · simp only [recordOf, setRecord, Function.update_of_ne hk]

end SetRecord

@[simp] theorem setJobs_pc : (s.setJobs jobs).pc = s.pc := rfl

@[simp] theorem setJobs_jobs : (s.setJobs jobs).jobs = jobs := rfl

@[simp] theorem setJobs_executed : (s.setJobs jobs).executed = s.executed := rfl

@[simp] theorem setJobs_recordOf :
    (s.setJobs jobs).recordOf calls j f = s.recordOf calls j f := rfl

@[simp] theorem addExecuted_pc : (s.addExecuted i job).pc = s.pc := rfl

@[simp] theorem addExecuted_jobs : (s.addExecuted i job).jobs = s.jobs := rfl

@[simp] theorem addExecuted_executed :
    (s.addExecuted i job).executed = (i, job) :: s.executed := rfl

@[simp] theorem addExecuted_recordOf :
    (s.addExecuted i job).recordOf calls j f = s.recordOf calls j f := rfl

theorem recordOf_congr (h : (calls j).address g = (calls i).address f) :
    s.recordOf calls j g = s.recordOf calls i f := by
  obtain ⟨hk, hkey⟩ := Prod.mk.inj h
  rw [recordOf, recordOf, hk, hkey]

end SharedJobs

/-! ### Steps -/

section Step

variable [DecidableEq ι] [DecidableEq κ] (equal : D → D → Bool) (column : PayloadColumn D)
  (digests : Digests C D) (calls : ι → StoreCall κ C D)

/-- One block of the call `i`. -/
def callStep (s : SharedJobs ι κ D) : ι × Moment → Option (SharedJobs ι κ D)
  | (i, moment) =>
    let repo := JobRepository.repository column moment
    let k := (calls i).mapping
    let request := (calls i).request
    match s.pc i with
    | .start =>
      let (p, jobs) := request.startBlock equal repo digests s.jobs
      some ((s.setJobs jobs).goto i p)
    | .claim fingerprint =>
      match claimRecord (s.records k) (request.key fingerprint) fingerprint with
      | none => none
      | some (.execute, records) =>
        some ({ s with records := Function.update s.records k records }.goto i
          (.execute fingerprint))
      | some (.conflict _, _) =>
        some (s.goto i (.done (.ok ⟨.conflict, none, some request.conflictMessage⟩)))
      | some (.replay cached, _) => some (s.goto i (.replay fingerprint cached))
    | .replay fingerprint cached =>
      let (reply, jobs) := request.replayed repo cached s.jobs
      some ((s.setJobs jobs).goto i (Request.afterReplay fingerprint reply))
    | .execute fingerprint =>
      match request.execute repo s.jobs with
      | (.job job, jobs) =>
        some (((s.setJobs jobs).addExecuted i job).goto i (.record fingerprint job))
      | (reply, jobs) =>
        some ((s.setJobs jobs).goto i (.done (.ok (errorResult (request.failure reply)))))
    | .record fingerprint job =>
      match completeRecord (s.records k) (request.key fingerprint) fingerprint
          (request.cached job) with
      | none => some (s.goto i (.done (.ok (errorResult mismatchMessage))))
      | some records =>
        some ({ s with records := Function.update s.records k records }.goto i
          (.done (.ok ⟨.created, some job, none⟩)))
    | .done _ => none

/-- Everything that a block of the call `i` can do. -/
inductive CallMove (s : SharedJobs ι κ D) (i : ι) (moment : Moment) : SharedJobs ι κ D → Prop
  | start (hpc : s.pc i = .start) (p : CallPc D) (jobs : DurableTable D)
      (hstart : (calls i).request.startBlock equal (JobRepository.repository column moment) digests
        s.jobs = (p, jobs)) :
      CallMove s i moment ((s.setJobs jobs).goto i p)
  | claim (fingerprint : String) (hpc : s.pc i = .claim fingerprint)
      (hfree : s.recordOf calls i fingerprint = none) :
      CallMove s i moment ((s.setRecord (calls i).mapping ((calls i).request.key fingerprint)
        (.inProgress fingerprint)).goto i (.execute fingerprint))
  | conflict (fingerprint f : String) (v : CachedResult D) (hpc : s.pc i = .claim fingerprint)
      (hrecord : s.recordOf calls i fingerprint = some (.completed f v)) (hne : f ≠ fingerprint) :
      CallMove s i moment
        (s.goto i (.done (.ok ⟨.conflict, none, some (calls i).request.conflictMessage⟩)))
  | replay (fingerprint : String) (v : CachedResult D) (hpc : s.pc i = .claim fingerprint)
      (hrecord : s.recordOf calls i fingerprint = some (.completed fingerprint v)) :
      CallMove s i moment (s.goto i (.replay fingerprint v))
  | replayed (fingerprint : String) (v : CachedResult D) (hpc : s.pc i = .replay fingerprint v)
      (reply : RepositoryReply D) (jobs : DurableTable D)
      (hreply : (calls i).request.replayed (JobRepository.repository column moment) v s.jobs =
        (reply, jobs)) :
      CallMove s i moment ((s.setJobs jobs).goto i (Request.afterReplay fingerprint reply))
  | execute (fingerprint : String) (hpc : s.pc i = .execute fingerprint) (job : Job D)
      (jobs : DurableTable D)
      (hreply : (calls i).request.execute (JobRepository.repository column moment) s.jobs =
        (.job job, jobs)) :
      CallMove s i moment (((s.setJobs jobs).addExecuted i job).goto i (.record fingerprint job))
  | fail (fingerprint : String) (hpc : s.pc i = .execute fingerprint) (reply : RepositoryReply D)
      (jobs : DurableTable D)
      (hreply : (calls i).request.execute (JobRepository.repository column moment) s.jobs =
        (reply, jobs)) (hnot : ∀ job, reply ≠ .job job) :
      CallMove s i moment
        ((s.setJobs jobs).goto i (.done (.ok (errorResult ((calls i).request.failure reply)))))
  | record (fingerprint : String) (job : Job D) (hpc : s.pc i = .record fingerprint job)
      (hopen : s.recordOf calls i fingerprint = none ∨
        s.recordOf calls i fingerprint = some (.inProgress fingerprint)) :
      CallMove s i moment ((s.setRecord (calls i).mapping ((calls i).request.key fingerprint)
        (.completed fingerprint ((calls i).request.cached job))).goto i
          (.done (.ok ⟨.created, some job, none⟩)))
  | mismatch (fingerprint : String) (job : Job D) (hpc : s.pc i = .record fingerprint job)
      (hclosed : (∃ f, s.recordOf calls i fingerprint = some (.inProgress f) ∧ f ≠ fingerprint) ∨
        ∃ f v, s.recordOf calls i fingerprint = some (.completed f v)) :
      CallMove s i moment (s.goto i (.done (.ok (errorResult mismatchMessage))))

end Step

variable [DecidableEq ι] [DecidableEq κ] {equal : D → D → Bool} {column : PayloadColumn D}
  {digests : Digests C D} {calls : ι → StoreCall κ C D} {s t : SharedJobs ι κ D} {i j : ι}
  {moment : Moment} {fingerprint : String}

/-- Every block is one of the moves. -/
theorem CallMove.of_callStep (h : callStep equal column digests calls s (i, moment) = some t) :
    CallMove equal column digests calls s i moment t := by
  cases hpc : s.pc i with
  | start =>
    simp only [callStep, hpc, Option.some.injEq] at h
    subst h
    exact .start hpc _ _ rfl
  | claim fingerprint =>
    simp only [callStep, hpc] at h
    split at h
    · cases h
    · next records hclaim =>
      obtain ⟨hfree, rfl⟩ := claimRecord_eq_execute_iff.mp hclaim
      obtain rfl := Option.some.inj h
      exact .claim fingerprint hpc hfree
    · next v records hclaim =>
      obtain ⟨⟨f, hrecord, hne⟩, -⟩ := claimRecord_eq_conflict_iff.mp hclaim
      obtain rfl := Option.some.inj h
      exact .conflict fingerprint f v hpc hrecord hne
    · next v records hclaim =>
      obtain ⟨hrecord, -⟩ := claimRecord_eq_replay_iff.mp hclaim
      obtain rfl := Option.some.inj h
      exact .replay fingerprint v hpc hrecord
  | replay fingerprint v =>
    simp only [callStep, hpc, Option.some.injEq] at h
    subst h
    exact .replayed fingerprint v hpc _ _ rfl
  | execute fingerprint =>
    simp only [callStep, hpc] at h
    split at h
    · next job jobs hreply =>
      obtain rfl := Option.some.inj h
      exact .execute fingerprint hpc job jobs hreply
    · next reply jobs hnot hreply =>
      obtain rfl := Option.some.inj h
      exact .fail fingerprint hpc reply jobs hreply hnot
  | record fingerprint job =>
    simp only [callStep, hpc] at h
    split at h
    · next hnone =>
      have hclosed := completeRecord_eq_none_iff.mp hnone
      obtain rfl := Option.some.inj h
      exact .mismatch fingerprint job hpc hclosed
    · next records hrecords =>
      obtain rfl := Option.some.inj h
      obtain ⟨hopen, rfl⟩ := completeRecord_eq_some_iff.mp hrecords
      exact .record fingerprint job hpc hopen
  | done ending =>
    simp only [callStep, hpc, reduceCtorEq] at h

/-- Every move is one that a block can make. -/
theorem CallMove.callStep_eq (h : CallMove equal column digests calls s i moment t) :
    callStep equal column digests calls s (i, moment) = some t := by
  cases h with
  | start hpc p jobs hstart => simp only [callStep, hpc, hstart]
  | claim f hpc hfree =>
    rw [SharedJobs.recordOf] at hfree
    simp only [callStep, hpc, claimRecord, hfree]
    rfl
  | conflict f g v hpc hrecord hne =>
    rw [SharedJobs.recordOf] at hrecord
    simp only [callStep, hpc, claimRecord, hrecord, if_neg hne]
  | replay f v hpc hrecord =>
    rw [SharedJobs.recordOf] at hrecord
    simp only [callStep, hpc, claimRecord, hrecord, if_true]
  | replayed f v hpc reply jobs hreply => simp only [callStep, hpc, hreply]
  | execute f hpc job jobs hreply => simp only [callStep, hpc, hreply]
  | fail f hpc reply jobs hreply hnot =>
    cases reply with
    | job job => exact absurd rfl (hnot job)
    | _ => simp only [callStep, hpc, hreply]
  | record f job hpc hopen =>
    rw [SharedJobs.recordOf] at hopen
    rcases hopen with hopen | hopen
    · simp only [callStep, hpc, completeRecord, hopen]
      rfl
    · simp only [callStep, hpc, completeRecord, hopen, if_true]
      rfl
  | mismatch f job hpc hclosed =>
    rw [SharedJobs.recordOf] at hclosed
    obtain ⟨g, hg, hne⟩ | ⟨g, v, hg⟩ := hclosed
    · simp only [callStep, hpc, completeRecord, hg, if_neg hne]
    · simp only [callStep, hpc, completeRecord, hg]

/-- `callStep` and `CallMove` agree. -/
theorem callStep_eq_some_iff : callStep equal column digests calls s (i, moment) = some t ↔
    CallMove equal column digests calls s i moment t :=
  ⟨.of_callStep, CallMove.callStep_eq⟩

/-! ### Claims -/

/-- The call has claimed its record, or goes on as if it had, and not completed it yet. -/
def CallPc.Holds (fingerprint : String) : CallPc D → Prop
  | execute f => f = fingerprint
  | record f _ => f = fingerprint
  | _ => False

/-- The fingerprint that the call has computed. -/
def CallPc.fingerprint? : CallPc D → Option String
  | claim f | replay f _ | execute f | record f _ => some f
  | _ => none

/-- The job that the repository has created or completed for the call `i` belongs to the record that
the call holds or has completed. -/
def Placed (digests : Digests C D) (calls : ι → StoreCall κ C D) (s : SharedJobs ι κ D) (i : ι)
    (job : Job D) : Prop :=
  ∃ f, (calls i).request.fingerprint digests = .ok f ∧
    (s.pc i = .record f job ∨ s.pc i = .done (.ok ⟨.created, some job, none⟩) ∧
      s.recordOf calls i f = some (.completed f ((calls i).request.cached job)))

/-- What holds of one call: its fingerprint is its own, a record that it holds is in progress, and
what it records or returns as created has been created or completed for it. -/
structure CallSerial (digests : Digests C D) (calls : ι → StoreCall κ C D) (s : SharedJobs ι κ D)
    (i : ι) : Prop where
  fingerprint : ∀ f, (s.pc i).fingerprint? = some f →
    (calls i).request.fingerprint digests = .ok f
  owned : ∀ f, (s.pc i).Holds f → s.recordOf calls i f = some (.inProgress f)
  recorded : ∀ f job, s.pc i = .record f job → (i, job) ∈ s.executed
  created : ∀ result, s.pc i = .done (.ok result) → result.outcome = .created →
    ∃ job, result = ⟨.created, some job, none⟩ ∧ (i, job) ∈ s.executed

/-- The claims keep the calls apart: a record has one holder, and the repository has created or
completed at most one job for each record. -/
structure Serial (digests : Digests C D) (calls : ι → StoreCall κ C D) (s : SharedJobs ι κ D) :
    Prop where
  call : ∀ i, CallSerial digests calls s i
  unique : ∀ i j f g, (s.pc i).Holds f → (s.pc j).Holds g →
    (calls i).address f = (calls j).address g → i = j
  placed : ∀ i job, (i, job) ∈ s.executed → Placed digests calls s i job
  once : s.executed.Pairwise fun e e' => ∀ f g,
    (calls e.1).request.fingerprint digests = .ok f →
    (calls e'.1).request.fingerprint digests = .ok g →
      (calls e.1).address f ≠ (calls e'.1).address g

/-- What a block does to the claims: it leaves them and does not hold a record afterwards, or it
claims a record, or the repository executes the call, or the call completes its record. -/
inductive CallEffect (digests : Digests C D) (calls : ι → StoreCall κ C D) (s : SharedJobs ι κ D)
    (i : ι) : SharedJobs ι κ D → Prop
  | keep (p : CallPc D) (jobs : DurableTable D) (hpc : ∀ f job, s.pc i ≠ .record f job)
      (hdone : ∀ ending, s.pc i ≠ .done ending) (hp : ∀ f, ¬ p.Holds f)
      (hcreated : ∀ result, p = .done (.ok result) → result.outcome ≠ .created)
      (hfingerprint : ∀ f, p.fingerprint? = some f →
        (calls i).request.fingerprint digests = .ok f) :
      CallEffect digests calls s i ((s.setJobs jobs).goto i p)
  | claim (f : String) (hpc : s.pc i = .claim f) (hfree : s.recordOf calls i f = none) :
      CallEffect digests calls s i ((s.setRecord (calls i).mapping ((calls i).request.key f)
        (.inProgress f)).goto i (.execute f))
  | execute (f : String) (job : Job D) (jobs : DurableTable D) (hpc : s.pc i = .execute f) :
      CallEffect digests calls s i (((s.setJobs jobs).addExecuted i job).goto i (.record f job))
  | complete (f : String) (job : Job D) (hpc : s.pc i = .record f job) :
      CallEffect digests calls s i ((s.setRecord (calls i).mapping ((calls i).request.key f)
        (.completed f ((calls i).request.cached job))).goto i
          (.done (.ok ⟨.created, some job, none⟩)))

/-! ### Blocks keep the claims -/

/-- A first block ends the call, or goes on to its claim with its fingerprint. -/
theorem Request.startBlock_cases {request : Request C D} {repo : Repository R D} {r r' : R}
    {p : CallPc D} (h : request.startBlock equal repo digests r = (p, r')) :
    (∃ f, request.fingerprint digests = .ok f ∧ p = .claim f) ∨
      ∃ ending, p = .done ending ∧
        ∀ result, ending = .ok result → result.outcome ≠ .created := by
  unfold Request.startBlock at h
  split at h
  · cases h
    exact .inr ⟨_, rfl, by simp⟩
  · next f hf =>
    split at h
    · cases h
      exact .inl ⟨f, hf, rfl⟩
    · split at h
      · cases h
        exact .inr ⟨_, rfl, by simp⟩
      · next existing _ _ =>
        split_ifs at h
        · cases h
          refine .inr ⟨_, rfl, ?_⟩
          rintro result ⟨rfl⟩
          unfold Request.alreadyCompleted
          split_ifs <;> simp
        · cases h
          exact .inl ⟨f, hf, rfl⟩
      · cases h
        exact .inl ⟨f, hf, rfl⟩

/-- No replayed record stands for a job that has vanished. -/
def NothingVanished (column : PayloadColumn D) (calls : ι → StoreCall κ C D)
    (s : SharedJobs ι κ D) : ι × Moment → Prop
  | (i, moment) => ∀ f v, s.pc i = .replay f v →
    ((calls i).request.replayed (JobRepository.repository column moment) v s.jobs).1 ≠ .none

omit [DecidableEq ι] [DecidableEq κ] in
/-- A call that records a job finds the claim that it has made. -/
theorem Serial.not_closed (hs : Serial digests calls s) {f : String} {job : Job D}
    (hpc : s.pc i = .record f job) :
    ¬ ((∃ g, s.recordOf calls i f = some (.inProgress g) ∧ g ≠ f) ∨
      ∃ g v, s.recordOf calls i f = some (.completed g v)) := by
  have howned := (hs.call i).owned f (by rw [hpc]; rfl)
  rintro (⟨g, hg, hne⟩ | ⟨g, v, hg⟩)
  · cases howned.symm.trans hg
    exact hne rfl
  · cases howned.symm.trans hg

/-- What a block does to the claims. -/
theorem CallMove.effect (h : CallMove equal column digests calls s i moment t)
    (hs : Serial digests calls s) (hno : NothingVanished column calls s (i, moment)) :
    CallEffect digests calls s i t := by
  have hfp {f : String} (hpc : (s.pc i).fingerprint? = some f) := (hs.call i).fingerprint f hpc
  cases h with
  | start hpc p jobs hstart =>
    refine .keep p jobs (by simp [hpc]) (by simp [hpc]) ?_ ?_ ?_
    all_goals
      obtain ⟨f, hf, rfl⟩ | ⟨ending, rfl, hcreated⟩ := Request.startBlock_cases hstart
    · simp [CallPc.Holds]
    · simp [CallPc.Holds]
    · simp
    · rintro result ⟨rfl⟩
      exact hcreated result rfl
    · rintro g ⟨rfl⟩
      exact hf
    · simp [CallPc.fingerprint?]
  | claim f hpc hfree => exact .claim f hpc hfree
  | conflict f g v hpc =>
    refine .keep _ s.jobs (by simp [hpc]) (by simp [hpc]) (by simp [CallPc.Holds]) ?_
      (by simp [CallPc.fingerprint?])
    rintro result ⟨rfl⟩
    simp
  | replay f v hpc =>
    refine .keep _ s.jobs (by simp [hpc]) (by simp [hpc]) (by simp [CallPc.Holds]) (by simp) ?_
    rintro g ⟨rfl⟩
    exact hfp (by rw [hpc]; rfl)
  | replayed f v hpc reply jobs hreply =>
    have hne : reply ≠ .none := by
      have hne := hno f v hpc
      rwa [hreply] at hne
    refine .keep _ jobs (by simp [hpc]) (by simp [hpc]) ?_ ?_ ?_
    all_goals
      cases reply with
      | none => exact absurd rfl hne
      | _ => simp [Request.afterReplay, CallPc.Holds, CallPc.fingerprint?]
  | execute f hpc job jobs => exact .execute f job jobs hpc
  | fail f hpc reply jobs =>
    refine .keep _ jobs (by simp [hpc]) (by simp [hpc]) (by simp [CallPc.Holds]) ?_
      (by simp [CallPc.fingerprint?])
    rintro result ⟨rfl⟩
    simp [errorResult]
  | record f job hpc => exact .complete f job hpc
  | mismatch f job hpc hclosed => exact absurd hclosed (hs.not_closed hpc)

namespace Serial

variable {p : CallPc D} {jobs : DurableTable D} {f : String} {job : Job D}

omit [DecidableEq κ] in
/-- Where a block of the call `i` leaves alone the records that other calls hold or have completed,
it is enough to look at the call `i`. -/
theorem of_frame (hs : Serial digests calls s) (hpc : ∀ j, j ≠ i → t.pc j = s.pc j)
    (hrecord : ∀ j g, j ≠ i → (s.pc j).Holds g ∨ (∃ v, s.recordOf calls j g =
      some (.completed g v)) → t.recordOf calls j g = s.recordOf calls j g)
    (hsub : s.executed ⊆ t.executed) (hcall : CallSerial digests calls t i)
    (hunique : ∀ j f g, j ≠ i → (t.pc i).Holds f → (s.pc j).Holds g →
      (calls i).address f ≠ (calls j).address g)
    (hplaced : ∀ job, (i, job) ∈ t.executed → Placed digests calls t i job)
    (hexecuted : ∀ j job, (j, job) ∈ t.executed → j ≠ i → (j, job) ∈ s.executed)
    (honce : t.executed.Pairwise fun e e' => ∀ f g,
      (calls e.1).request.fingerprint digests = .ok f →
      (calls e'.1).request.fingerprint digests = .ok g →
        (calls e.1).address f ≠ (calls e'.1).address g) : Serial digests calls t where
  call j := by
    by_cases hj : j = i
    · exact hj ▸ hcall
    · obtain ⟨hfingerprint, howned, hrecorded, hcreated⟩ := hs.call j
      have hpc := hpc j hj
      refine ⟨fun g hg => ?_, fun g hg => ?_, fun g job hg => ?_, fun result hdone houtcome => ?_⟩
      · exact hfingerprint g (hpc ▸ hg)
      · rw [hpc] at hg
        rw [hrecord j g hj (.inl hg), howned g hg]
      · exact hsub (hrecorded g job (hpc ▸ hg))
      · obtain ⟨job, hresult, hjob⟩ := hcreated result (hpc ▸ hdone) houtcome
        exact ⟨job, hresult, hsub hjob⟩
  unique j j' g g' hg hg' haddress := by
    by_cases hj : j = i
    · by_cases hj' : j' = i
      · rw [hj, hj']
      · subst hj
        rw [hpc j' hj'] at hg'
        exact absurd haddress (hunique j' g g' hj' hg hg')
    · rw [hpc j hj] at hg
      by_cases hj' : j' = i
      · subst hj'
        exact absurd haddress.symm (hunique j g' g hj hg' hg)
      · rw [hpc j' hj'] at hg'
        exact hs.unique j j' g g' hg hg' haddress
  placed j job hjob := by
    by_cases hj : j = i
    · subst hj
      exact hplaced job hjob
    · obtain ⟨g, hg, hplace⟩ := hs.placed j job (hexecuted j job hjob hj)
      refine ⟨g, hg, ?_⟩
      rw [hpc j hj]
      refine hplace.imp_right fun ⟨hdone, hcompleted⟩ => ⟨hdone, ?_⟩
      rw [hrecord j g hj (.inr ⟨_, hcompleted⟩), hcompleted]
  once := honce

omit [DecidableEq ι] [DecidableEq κ] in
/-- The call `i` has not executed anything while it has neither a job to record nor ended. -/
theorem not_executed (hs : Serial digests calls s) (hpc : ∀ f job, s.pc i ≠ .record f job)
    (hdone : ∀ ending, s.pc i ≠ .done ending) (job : Job D) : (i, job) ∉ s.executed := by
  intro hjob
  obtain ⟨f, -, hplace | ⟨hplace, -⟩⟩ := hs.placed i job hjob
  · exact hpc f job hplace
  · exact hdone _ hplace

omit [DecidableEq ι] [DecidableEq κ] in
/-- A record that is in progress or not there belongs to nothing that has been executed, unless its
call holds it. -/
theorem address_ne (hs : Serial digests calls s) (hjob : (j, job) ∈ s.executed)
    (hopen : ∀ g v, s.recordOf calls i f ≠ some (.completed g v))
    (hholds : ∀ g, (s.pc j).Holds g → (calls i).address f ≠ (calls j).address g) {g : String}
    (hg : (calls j).request.fingerprint digests = .ok g) :
    (calls i).address f ≠ (calls j).address g := by
  obtain ⟨g', hg', hplace | ⟨-, hcompleted⟩⟩ := hs.placed j job hjob
  · obtain rfl := Except.ok.inj (hg.symm.trans hg')
    exact hholds g (by rw [hplace]; rfl)
  · obtain rfl := Except.ok.inj (hg.symm.trans hg')
    intro haddress
    rw [← SharedJobs.recordOf_congr haddress] at hcompleted
    exact hopen _ _ hcompleted

omit [DecidableEq κ] in
/-- A call goes on without a claim. -/
theorem of_keep (hs : Serial digests calls s) {p : CallPc D} (hpc : ∀ f job, s.pc i ≠ .record f job)
    (hdone : ∀ ending, s.pc i ≠ .done ending) (hp : ∀ f, ¬ p.Holds f)
    (hcreated : ∀ result, p = .done (.ok result) → result.outcome ≠ .created)
    (hfingerprint : ∀ f, p.fingerprint? = some f →
      (calls i).request.fingerprint digests = .ok f) :
    Serial digests calls ((s.setJobs jobs).goto i p) := by
  have hno := hs.not_executed hpc hdone
  have hself : ((s.setJobs jobs).goto i p).pc i = p := Function.update_self _ _ _
  refine hs.of_frame (fun j hj => Function.update_of_ne hj _ _) (fun _ _ _ _ => rfl)
    (List.Subset.refl _) ⟨?_, ?_, ?_, ?_⟩ ?_ (fun job hjob => absurd hjob (hno job))
    (fun _ _ hjob _ => hjob) hs.once
  · rw [hself]
    exact hfingerprint
  · rw [hself]
    exact fun f hf => absurd hf (hp f)
  · rw [hself]
    rintro f job rfl
    exact absurd rfl (hp f)
  · rw [hself]
    exact fun result hresult houtcome => absurd houtcome (hcreated result hresult)
  · rw [hself]
    exact fun j f g _ hf => absurd hf (hp f)

/-- A call claims a record that is free. -/
theorem of_claim (hs : Serial digests calls s) (hpc : s.pc i = .claim f)
    (hfree : s.recordOf calls i f = none) :
    Serial digests calls ((s.setRecord (calls i).mapping ((calls i).request.key f)
      (.inProgress f)).goto i (.execute f)) := by
  have hfp := (hs.call i).fingerprint f (by rw [hpc]; rfl)
  have hno := hs.not_executed (i := i) (by simp [hpc]) (by simp [hpc])
  have hne {j : ι} {g : String} {record : Lease.Record String (CachedResult D)}
      (hrecord : s.recordOf calls j g = some record) :
      (calls j).address g ≠ (calls i).address f := by
    intro haddress
    rw [SharedJobs.recordOf_congr haddress, hfree] at hrecord
    cases hrecord
  refine hs.of_frame (fun j hj => Function.update_of_ne hj _ _) ?_ (List.Subset.refl _)
    ⟨?_, ?_, ?_, ?_⟩ ?_ (fun job hjob => absurd hjob (hno job)) (fun _ _ hjob _ => hjob) hs.once
  · rintro j g - (hg | ⟨v, hv⟩)
    · exact SharedJobs.setRecord_recordOf_of_ne (hne ((hs.call j).owned g hg))
    · exact SharedJobs.setRecord_recordOf_of_ne (hne hv)
  · simp only [SharedJobs.goto_pc, Function.update_self]
    rintro g ⟨rfl⟩
    exact hfp
  · simp only [SharedJobs.goto_pc, Function.update_self]
    rintro g rfl
    exact SharedJobs.setRecord_recordOf_of_eq rfl
  · simp
  · simp
  · simp only [SharedJobs.goto_pc, Function.update_self]
    rintro j g g' - rfl hg'
    exact (hne ((hs.call j).owned g' hg')).symm

omit [DecidableEq κ] in
/-- The repository executes a call that holds its record. -/
theorem of_execute (hs : Serial digests calls s) (hpc : s.pc i = .execute f) :
    Serial digests calls (((s.setJobs jobs).addExecuted i job).goto i (.record f job)) := by
  have hfp := (hs.call i).fingerprint f (by rw [hpc]; rfl)
  have howned := (hs.call i).owned f (by rw [hpc]; rfl)
  have hno := hs.not_executed (i := i) (by simp [hpc]) (by simp [hpc])
  have hholds {j : ι} {g : String} (hj : j ≠ i) (hg : (s.pc j).Holds g) :
      (calls i).address f ≠ (calls j).address g := fun haddress =>
    hj (hs.unique j i g f hg (by rw [hpc]; rfl) haddress.symm)
  have hself : (((s.setJobs jobs).addExecuted i job).goto i (.record f job)).pc i =
      .record f job := Function.update_self _ _ _
  refine hs.of_frame (fun j hj => Function.update_of_ne hj _ _) (fun _ _ _ _ => rfl)
    (List.subset_cons_self _ _) ⟨?_, ?_, ?_, ?_⟩ ?_ ?_ ?_ (List.pairwise_cons.mpr ⟨?_, hs.once⟩)
  · rw [hself]
    rintro g ⟨rfl⟩
    exact hfp
  · rw [hself]
    rintro g rfl
    exact howned
  · rw [hself]
    rintro g job' ⟨rfl, rfl⟩
    exact List.mem_cons_self
  · simp [hself]
  · rw [hself]
    rintro j g g' hj rfl hg'
    exact hholds hj hg'
  · intro job' hjob'
    rcases List.mem_cons.mp hjob' with heq | hjob'
    · obtain rfl := (Prod.mk.inj heq).2
      exact ⟨f, hfp, .inl hself⟩
    · exact absurd hjob' (hno job')
  · intro j job' hjob' hj
    rcases List.mem_cons.mp hjob' with heq | hjob'
    · exact absurd (Prod.mk.inj heq).1 hj
    · exact hjob'
  · rintro ⟨j, job'⟩ hjob' g g' hg hg'
    obtain rfl := Except.ok.inj (hfp.symm.trans hg)
    have hj : j ≠ i := by
      rintro rfl
      exact hno job' hjob'
    exact hs.address_ne hjob' (by simp [howned]) (fun _ => hholds hj) hg'

/-- A call completes the record that it holds. -/
theorem of_complete (hs : Serial digests calls s) (hpc : s.pc i = .record f job) :
    Serial digests calls ((s.setRecord (calls i).mapping ((calls i).request.key f)
      (.completed f ((calls i).request.cached job))).goto i
        (.done (.ok ⟨.created, some job, none⟩))) := by
  have hfp := (hs.call i).fingerprint f (by rw [hpc]; rfl)
  have howned := (hs.call i).owned f (by rw [hpc]; rfl)
  have hjob := (hs.call i).recorded f job hpc
  refine hs.of_frame (fun j hj => Function.update_of_ne hj _ _) ?_ (List.Subset.refl _)
    ⟨?_, ?_, ?_, ?_⟩ ?_ ?_ (fun _ _ hjob _ => hjob) hs.once
  · rintro j g hj (hg | ⟨v, hv⟩)
    · exact SharedJobs.setRecord_recordOf_of_ne fun haddress =>
        hj (hs.unique j i g f hg (by rw [hpc]; rfl) haddress)
    · refine SharedJobs.setRecord_recordOf_of_ne fun haddress => ?_
      rw [SharedJobs.recordOf_congr haddress, howned] at hv
      cases hv
  · simp [CallPc.fingerprint?]
  · simp [CallPc.Holds]
  · simp
  · simp only [SharedJobs.goto_pc, Function.update_self]
    rintro result ⟨rfl⟩ -
    exact ⟨job, rfl, hjob⟩
  · simp [CallPc.Holds]
  · intro job' hjob'
    obtain ⟨g, hg, hplace⟩ := hs.placed i job' hjob'
    obtain rfl := Except.ok.inj (hfp.symm.trans hg)
    obtain hplace | ⟨hplace, -⟩ := hplace
    · obtain rfl := (CallPc.record.inj (hpc.symm.trans hplace)).2
      exact ⟨f, hfp, .inr ⟨Function.update_self _ _ _, SharedJobs.setRecord_recordOf_of_eq rfl⟩⟩
    · rw [hpc] at hplace
      cases hplace

/-- Every block keeps the claims. -/
theorem of_effect (hs : Serial digests calls s) (h : CallEffect digests calls s i t) :
    Serial digests calls t := by
  cases h with
  | keep p jobs hpc hdone hp hcreated hfingerprint =>
    exact hs.of_keep hpc hdone hp hcreated hfingerprint
  | claim f hpc hfree => exact hs.of_claim hpc hfree
  | execute f job jobs hpc => exact hs.of_execute hpc
  | complete f job hpc => exact hs.of_complete hpc

/-- A record that is completed stays as it is. -/
theorem completed_stays (hs : Serial digests calls s) (h : CallEffect digests calls s i t)
    {g : String} {v : CachedResult D}
    (hv : s.recordOf calls j fingerprint = some (.completed g v)) :
    t.recordOf calls j fingerprint = some (.completed g v) := by
  cases h with
  | keep | execute => exact hv
  | claim f hpc hfree =>
    refine (SharedJobs.setRecord_recordOf_of_ne fun haddress => ?_).trans hv
    rw [SharedJobs.recordOf_congr haddress, hfree] at hv
    cases hv
  | complete f job hpc =>
    refine (SharedJobs.setRecord_recordOf_of_ne fun haddress => ?_).trans hv
    rw [SharedJobs.recordOf_congr haddress, (hs.call i).owned f (by rw [hpc]; rfl)] at hv
    cases hv

end Serial

/-- What has been created or completed stays so. -/
theorem CallEffect.executed_subset (h : CallEffect digests calls s i t) :
    s.executed ⊆ t.executed := by
  cases h with
  | execute => exact List.subset_cons_self _ _
  | _ => exact List.Subset.refl _

/-- A record that is completed after a block was so before, or the block completes it. -/
theorem CallEffect.completed_cases (h : CallEffect digests calls s i t) {g : String}
    {v : CachedResult D} (hv : t.recordOf calls j fingerprint = some (.completed g v)) :
    s.recordOf calls j fingerprint = some (.completed g v) ∨
      ∃ f job, s.pc i = .record f job ∧ (calls j).address fingerprint = (calls i).address f ∧
        g = f ∧ v = (calls i).request.cached job := by
  cases h with
  | keep | execute => exact .inl hv
  | claim f hpc hfree =>
    by_cases haddress : (calls j).address fingerprint = (calls i).address f
    · have hself : (s.setRecord (calls i).mapping ((calls i).request.key f)
          (.inProgress f)).recordOf calls j fingerprint = some (.inProgress f) :=
        SharedJobs.setRecord_recordOf_of_eq haddress
      cases hself.symm.trans hv
    · exact .inl ((SharedJobs.setRecord_recordOf_of_ne haddress).symm.trans hv)
  | complete f job hpc =>
    by_cases haddress : (calls j).address fingerprint = (calls i).address f
    · have hself : (s.setRecord (calls i).mapping ((calls i).request.key f)
          (.completed f ((calls i).request.cached job))).recordOf calls j fingerprint =
            some (.completed f ((calls i).request.cached job)) :=
        SharedJobs.setRecord_recordOf_of_eq haddress
      cases hself.symm.trans hv
      exact .inr ⟨_, job, hpc, haddress, rfl, rfl⟩
    · exact .inl ((SharedJobs.setRecord_recordOf_of_ne haddress).symm.trans hv)

/-- Every block keeps the claims, as long as no replayed job has vanished. -/
theorem CallMove.serial (h : CallMove equal column digests calls s i moment t)
    (hs : Serial digests calls s) (hno : NothingVanished column calls s (i, moment)) :
    Serial digests calls t :=
  hs.of_effect (h.effect hs hno)

omit [DecidableEq ι] [DecidableEq κ] in
/-- Before the first block of any call nothing is claimed. -/
theorem Serial.of_start (hpc : ∀ i, s.pc i = .start) (hexecuted : s.executed = []) :
    Serial digests calls s where
  call i := by constructor <;> simp [hpc i, CallPc.fingerprint?, CallPc.Holds]
  unique i j f g hi := by simp [hpc i, CallPc.Holds] at hi
  placed i job hjob := by simp [hexecuted] at hjob
  once := by simp [hexecuted]

/-- Every block leaves the places of the other calls. -/
theorem CallMove.pc_of_ne (h : CallMove equal column digests calls s i moment t) (hj : j ≠ i) :
    t.pc j = s.pc j := by
  cases h <;> exact Function.update_of_ne hj _ _

/-! ### The blocks of a call in a row -/

section InARow

/-- A comparison that takes no two results for one. -/
def plainEqual [DecidableEq D] (a b : D) : Bool := a = b

/-- The `try` block of a call. -/
def Request.tryBlock (repo : Repository R D) (fingerprint : String) (s : JobStore R D) :
    Request C D → IdempotentJobResult D × JobStore R D
  | createJob spec _ => tryCreate repo spec ("job:create:" ++ fingerprint) fingerprint s
  | completeJob jobId result progressMessage _ =>
    tryComplete repo jobId result progressMessage ("job:complete:" ++ jobId) fingerprint s

/-- A call from its claim on. -/
def Request.claimed (repo : Repository R D) (fingerprint : String) (request : Request C D)
    (s : JobStore R D) : Option (Ending D × JobStore R D) :=
  match claimRecord s.records (request.key fingerprint) fingerprint with
  | none => none
  | some (.execute, records) =>
    some (Prod.map .ok id (request.tryBlock repo fingerprint { s with records := records }))
  | some (.conflict _, _) => some (.ok ⟨.conflict, none, some request.conflictMessage⟩, s)
  | some (.replay cached, _) =>
    match request.replayed repo cached s.repo with
    | (.raised message, r) => some (.error message, { s with repo := r })
    | (.job job, r) => some (.ok ⟨.replayed, some job, none⟩, { s with repo := r })
    | (.none, r) => some (Prod.map .ok id (request.tryBlock repo fingerprint { s with repo := r }))

theorem Request.tryBlock_eq (repo : Repository R D) (fingerprint : String) (s : JobStore R D)
    (request : Request C D) :
    request.tryBlock repo fingerprint s =
      match request.execute repo s.repo with
      | (.job job, r) =>
        match completeRecord s.records (request.key fingerprint) fingerprint
            (request.cached job) with
        | none => (errorResult mismatchMessage, { s with repo := r })
        | some records => (⟨.created, some job, none⟩, ⟨r, records⟩)
      | (reply, r) => (errorResult (request.failure reply), { s with repo := r }) := by
  cases request with
  | createJob spec requestContext =>
    simp only [tryBlock, tryCreate, execute]
    obtain ⟨reply, r⟩ := repo.create s.repo spec
    cases reply <;> rfl
  | completeJob jobId result progressMessage requestFingerprint =>
    simp only [tryBlock, tryComplete, execute]
    obtain ⟨reply, r⟩ := repo.complete s.repo jobId result progressMessage
    cases reply <;> rfl

/-- A call is its first block and what follows its claim. -/
theorem Request.run_eq [DecidableEq D] (repo : Repository R D) (digests : Digests C D)
    (s : JobStore R D) (request : Request C D) :
    request.run repo digests s =
      match request.startBlock plainEqual repo digests s.repo with
      | (.claim fingerprint, r) => request.claimed repo fingerprint { s with repo := r }
      | (.done ending, r) => some (ending, { s with repo := r })
      | _ => none := by
  cases request with
  | createJob spec requestContext =>
    simp only [run, Jobs.createJob, startBlock, fingerprint]
    cases digests.jobRequest spec requestContext with
    | error message => rfl
    | ok f => rfl
  | completeJob jobId result progressMessage requestFingerprint =>
    simp only [run, Jobs.completeJob, startBlock, fingerprint]
    cases completionFingerprint digests result requestFingerprint with
    | error message => rfl
    | ok f =>
      obtain ⟨reply, r⟩ := repo.get s.repo jobId
      cases reply with
      | raised message => rfl
      | none => rfl
      | job existing =>
        have hany : existing.result.any (plainEqual · result) = true ↔
            existing.result = some result := by
          cases existing.result <;> simp [plainEqual]
        by_cases hstatus : existing.status = "succeeded"
        · simp only [if_pos hstatus, alreadyCompleted, hany]
          split_ifs <;> rfl
        · simp only [if_neg hstatus]
          rfl

variable [DecidableEq D] {u : JobStore (DurableTable D) D} {ending : Ending D}

/-- Some blocks of the call `i` at one moment end it, in this state. -/
def Finishes (column : PayloadColumn D) (digests : Digests C D) (calls : ι → StoreCall κ C D)
    (s : SharedJobs ι κ D) (i : ι) (moment : Moment) (ending : Ending D)
    (u : JobStore (DurableTable D) D) : Prop :=
  ∃ n t, exec (callStep plainEqual column digests calls) s
      (List.replicate n (i, moment)) = some t ∧
    t.pc i = .done ending ∧ t.jobs = u.repo ∧
      t.records = Function.update s.records (calls i).mapping u.records

theorem finishes_of_done (hpc : s.pc i = .done ending)
    (hu : u = ⟨s.jobs, s.records (calls i).mapping⟩) :
    Finishes column digests calls s i moment ending u := by
  subst hu
  exact ⟨0, s, rfl, hpc, rfl, (Function.update_eq_self _ _).symm⟩

/-- A block that leaves the records of other mappings, and then the others. -/
theorem CallMove.finishes (h : CallMove plainEqual column digests calls s i moment t)
    {records : Store (CachedResult D)}
    (hrecords : t.records = Function.update s.records (calls i).mapping records)
    (ht : Finishes column digests calls t i moment ending u) :
    Finishes column digests calls s i moment ending u := by
  obtain ⟨n, t', hexec, hpc, hjobs, hupdate⟩ := ht
  refine ⟨n + 1, t', ?_, hpc, hjobs, ?_⟩
  · rw [List.replicate_succ, exec_cons_eq_some]
    exact ⟨t, h.callStep_eq, hexec⟩
  · rw [hupdate, hrecords, Function.update_idem]

/-- The blocks of a `try` block. -/
theorem finishes_tryBlock {f : String} (hpc : s.pc i = .execute f)
    (hu : u = ⟨s.jobs, s.records (calls i).mapping⟩) :
    Finishes column digests calls s i moment
      (.ok ((calls i).request.tryBlock (JobRepository.repository column moment) f u).1)
      ((calls i).request.tryBlock (JobRepository.repository column moment) f u).2 := by
  subst hu
  rw [Request.tryBlock_eq]
  dsimp only
  split
  · next job jobs hreply =>
    have hexecute : CallMove plainEqual column digests calls s i moment _ :=
      .execute f hpc job jobs hreply
    refine hexecute.finishes (Function.update_eq_self _ _).symm ?_
    have hpc' : (((s.setJobs jobs).addExecuted i job).goto i (.record f job)).pc i =
        .record f job := Function.update_self _ _ _
    split
    · next hnone =>
      have hclosed := completeRecord_eq_none_iff.mp hnone
      have hmismatch : CallMove plainEqual column digests calls _ i moment _ :=
        .mismatch f job hpc' hclosed
      exact hmismatch.finishes (Function.update_eq_self _ _).symm
        (finishes_of_done (Function.update_self _ _ _) rfl)
    · next records hrecords =>
      obtain ⟨hrecord, rfl⟩ := completeRecord_eq_some_iff.mp hrecords
      have hmove : CallMove plainEqual column digests calls _ i moment _ :=
        .record f job hpc' hrecord
      refine hmove.finishes rfl (finishes_of_done (Function.update_self _ _ _) ?_)
      simp [SharedJobs.setRecord, SharedJobs.goto, SharedJobs.setJobs, SharedJobs.addExecuted]
  · next reply jobs hnot hreply =>
    have hfail : CallMove plainEqual column digests calls s i moment _ :=
      .fail f hpc reply jobs hreply hnot
    exact hfail.finishes (Function.update_eq_self _ _).symm
      (finishes_of_done (Function.update_self _ _ _) rfl)

/-- The blocks of a call from its claim on. -/
theorem finishes_claimed {f : String} (hpc : s.pc i = .claim f)
    (h : (calls i).request.claimed (JobRepository.repository column moment) f
      ⟨s.jobs, s.records (calls i).mapping⟩ = some (ending, u)) :
    Finishes column digests calls s i moment ending u := by
  unfold Request.claimed at h
  dsimp only at h
  split at h
  · cases h
  · next records hclaim =>
    obtain ⟨hfree, rfl⟩ := claimRecord_eq_execute_iff.mp hclaim
    cases h
    have hmove : CallMove plainEqual column digests calls s i moment _ :=
      .claim f hpc hfree
    refine hmove.finishes rfl (finishes_tryBlock (Function.update_self _ _ _) ?_)
    simp [SharedJobs.setRecord, SharedJobs.goto]
  · next v records hclaim =>
    obtain ⟨⟨g, hrecord, hne⟩, -⟩ := claimRecord_eq_conflict_iff.mp hclaim
    cases h
    have hmove : CallMove plainEqual column digests calls s i moment _ :=
      .conflict f g v hpc hrecord hne
    exact hmove.finishes (Function.update_eq_self _ _).symm
      (finishes_of_done (Function.update_self _ _ _) rfl)
  · next v records hclaim =>
    obtain ⟨hrecord, -⟩ := claimRecord_eq_replay_iff.mp hclaim
    have hmove : CallMove plainEqual column digests calls s i moment _ :=
      .replay f v hpc hrecord
    refine hmove.finishes (Function.update_eq_self _ _).symm ?_
    have hreplayed (reply : RepositoryReply D) (jobs : DurableTable D)
        (hreply : (calls i).request.replayed (JobRepository.repository column moment) v s.jobs =
          (reply, jobs)) :
        CallMove plainEqual column digests calls (s.goto i (.replay f v)) i moment _ :=
      .replayed f v (Function.update_self _ _ _) reply jobs hreply
    split at h
    · next message jobs hreply =>
      cases h
      exact (hreplayed _ jobs hreply).finishes (Function.update_eq_self _ _).symm
        (finishes_of_done (Function.update_self _ _ _) rfl)
    · next job jobs hreply =>
      cases h
      exact (hreplayed _ jobs hreply).finishes (Function.update_eq_self _ _).symm
        (finishes_of_done (Function.update_self _ _ _) rfl)
    · next jobs hreply =>
      cases h
      exact (hreplayed _ jobs hreply).finishes (Function.update_eq_self _ _).symm
        (finishes_tryBlock (Function.update_self _ _ _) rfl)

/-- **A call is its blocks.** Where no other call comes between them, the blocks of a call leave the
ending, the table and the records of the call in one piece. -/
theorem exec_run (hpc : s.pc i = .start)
    (h : (calls i).request.run (JobRepository.repository column moment) digests
      ⟨s.jobs, s.records (calls i).mapping⟩ = some (ending, u)) :
    Finishes column digests calls s i moment ending u := by
  rw [Request.run_eq] at h
  dsimp only at h
  split at h
  · next f jobs hstart =>
    have hmove : CallMove plainEqual column digests calls s i moment _ :=
      .start hpc _ jobs hstart
    exact hmove.finishes (Function.update_eq_self _ _).symm
      (finishes_claimed (Function.update_self _ _ _) h)
  · next ending jobs hstart =>
    cases h
    have hmove : CallMove plainEqual column digests calls s i moment _ :=
      .start hpc _ jobs hstart
    exact hmove.finishes (Function.update_eq_self _ _).symm
      (finishes_of_done (Function.update_self _ _ _) rfl)
  · cases h

end InARow

end Meridian.Jobs
