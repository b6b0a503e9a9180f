import Meridian.Jobs.ConcurrentStore
import Mathlib.Data.Fintype.EquivFin

/-!
# One job for each request

Any number of `IdempotentJobStore`s over one repository, constructed with one mapping for their
records, and any interleaving of calls of `create_job` on them. A store takes the mapping that it is
given only if it is not empty, since `idempotency_store or {}` replaces an empty one.

## Main definitions

* `Meridian.Jobs.attached`: the mapping that a store keeps its records in.
* `Meridian.Jobs.OneJob`: at most one job is created for each fingerprint, and every call with it
  returns this job.
* `Meridian.Jobs.Attachable`: the condition on the mapping and the calls.

## Main results

* `Meridian.Jobs.one_job_iff`: every run has one job for each request exactly if the condition
  holds.
* `Meridian.Jobs.empty_mapping_not_shared`: two stores that are given an empty mapping create two
  jobs for one request.
-/

namespace Meridian.Jobs

open Foundations Gateway

variable {C D σ ι : Type*}

/-! ### Stores over one mapping -/

/-- The entries of a mapping of records, in any order. -/
abbrev GivenRecords (D : Type*) := List (String × Lease.Record String (CachedResult D))

/-- `idempotency_store or {}`: the mapping of a store is the given one, or one of its own. -/
def attached (given : GivenRecords D) (store : σ) : Option σ :=
  if given.isEmpty then some store else none

/-- The records when the stores have been constructed. -/
def attachedRecords (given : GivenRecords D) : Option σ → Store (CachedResult D)
  | none => fun key => given.lookup key
  | some _ => fun _ => none

/-- A call of `create_job` on a store. -/
structure CreateCall (σ C : Type*) where
  store : σ
  spec : JobSpec
  requestContext : Option C

/-- The call through the store. -/
def CreateCall.toStoreCall (given : GivenRecords D) (call : CreateCall σ C) :
    StoreCall (Option σ) C D :=
  { mapping := attached given call.store
    request := .createJob call.spec call.requestContext }

/-- The fingerprint of the call. -/
def CreateCall.fingerprint (digests : Digests C D) (call : CreateCall σ C) : Except String String :=
  digests.jobRequest call.spec call.requestContext

/-- The stores before the first call. -/
def constructed (given : GivenRecords D) (jobs : DurableTable D) : SharedJobs ι (Option σ) D :=
  { jobs := jobs, records := attachedRecords given, pc := fun _ => .start, executed := [] }

/-! ### The property and the condition -/

/-- The call has returned the job `jobId`, as created or as replayed. -/
def Returns (jobId : String) (ending : Ending D) : Prop :=
  ∃ result job, ending = .ok result ∧ (result.outcome = .created ∨ result.outcome = .replayed) ∧
    result.job = some job ∧ job.jobId = jobId

section

variable (digests : Digests C D) (creates : ι → CreateCall σ C)

/-- For each fingerprint the repository has created at most one job, and every call with it that
has ended has returned one job, which is the created one. -/
structure OneJob (s : SharedJobs ι (Option σ) D) : Prop where
  once : s.executed.Pairwise fun e e' => ∀ f, (creates e.1).fingerprint digests = .ok f →
    (creates e'.1).fingerprint digests ≠ .ok f
  same : ∀ f, ∃ jobId,
    (∀ i job, (i, job) ∈ s.executed → (creates i).fingerprint digests = .ok f →
      job.jobId = jobId) ∧
    ∀ i ending, s.pc i = .done ending → (creates i).fingerprint digests = .ok f →
      Returns jobId ending

/-- The stores share their mapping, as far as two of them get the same request; and a record that is
completed for a request is of this request and names a job. -/
structure Attachable (given : GivenRecords D) (jobs : DurableTable D) : Prop where
  shared : given ≠ [] ∨ ∀ i j f, (creates i).fingerprint digests = .ok f →
    (creates j).fingerprint digests = .ok f → (creates i).store = (creates j).store
  found : ∀ i f g v, (creates i).fingerprint digests = .ok f →
    given.lookup ("job:create:" ++ f) = some (.completed g v) →
      g = f ∧ ∃ jobId row, v.jobId = some jobId ∧ jobId ≠ "" ∧ jobs.lookup jobId = some row

/-- The repository does not raise, and the id that is drawn is not empty. -/
def Answers (s : SharedJobs ι (Option σ) D) : ι × Moment → Prop
  | (i, moment) => ∀ f, s.pc i = .execute f → moment.newJobId ≠ "" ∧
      ∀ message, (JobRepository.create moment s.jobs (creates i).spec).1 ≠ .raised message

end

variable [DecidableEq σ] [DecidableEq ι] {equal : D → D → Bool} {column : PayloadColumn D}
  {digests : Digests C D} {creates : ι → CreateCall σ C} {given : GivenRecords D}
  {s t : SharedJobs ι (Option σ) D} {i j : ι} {moment : Moment} {jobs jobs' : DurableTable D}
  {spec : JobSpec}

/-! ### The repository -/

/-- A creation inserts a row under the id that was drawn, and reads it. -/
theorem create_eq (moment : Moment) (jobs : DurableTable D) (spec : JobSpec) :
    ∃ row : DurableRow D, row.jobId = moment.newJobId ∧
      JobRepository.create moment jobs spec =
        if moment.referenced = false then (.raised "violates foreign key constraint", jobs)
        else
          match jobs.insert? row with
          | some jobs' => (.job row.toJob, jobs')
          | none => (.raised "violates unique constraint", jobs) := by
  obtain ⟨row, hid, hcreate⟩ : ∃ row : DurableRow D, row.jobId = moment.newJobId ∧
      JobRepository.create moment jobs spec =
        if moment.referenced = false then (.raised "violates foreign key constraint", jobs)
        else
          match jobs.insert? row with
          | some jobs' => JobRepository.get jobs' moment.newJobId
          | none => (.raised "violates unique constraint", jobs) := ⟨_, rfl, rfl⟩
  refine ⟨row, hid, ?_⟩
  rw [hcreate]
  cases hinsert : jobs.insert? row with
  | none => rfl
  | some jobs' =>
    have hfound : jobs'.lookup moment.newJobId = some row := by
      rw [KeyedTable.lookup_insert? hinsert, if_pos hid.symm]
    simp only [JobRepository.get, hfound]

/-- A creation that does not raise adds a job under the id that was drawn. -/
theorem create_spec (h : ∀ message, (JobRepository.create moment jobs spec).1 ≠ .raised message) :
    ∃ row jobs', JobRepository.create moment jobs spec = (.job row.toJob, jobs') ∧
      row.jobId = moment.newJobId ∧ jobs'.lookup moment.newJobId = some row ∧
      ∀ jobId row', jobs.lookup jobId = some row' → jobs'.lookup jobId = some row' := by
  obtain ⟨row, hid, hcreate⟩ := create_eq moment jobs spec
  rw [hcreate] at h ⊢
  split_ifs at h ⊢ with hreferenced
  · exact absurd rfl (h _)
  · cases hinsert : jobs.insert? row with
    | none =>
      rw [hinsert] at h
      exact absurd rfl (h _)
    | some jobs' =>
      have hlookup (jobId : String) : jobs'.lookup jobId =
          if jobId = moment.newJobId then some row else jobs.lookup jobId := by
        rw [KeyedTable.lookup_insert? hinsert, hid]
      have hnew := (KeyedTable.insert?_eq_some hinsert).1
      refine ⟨row, jobs', rfl, hid, by rw [hlookup, if_pos rfl], fun jobId row' hrow' => ?_⟩
      rw [hlookup, if_neg, hrow']
      rintro rfl
      rw [← hid, hnew] at hrow'
      cases hrow'

/-- A creation under an id that no job has does not raise. -/
theorem create_of_new (hreferenced : moment.referenced = true)
    (hnew : jobs.lookup moment.newJobId = none) (spec : JobSpec) :
    ∃ job jobs', JobRepository.create moment jobs spec = (.job job, jobs') := by
  obtain ⟨row, hid, hcreate⟩ := create_eq moment jobs spec
  rw [hcreate, hreferenced, if_neg (by decide)]
  cases hinsert : jobs.insert? row with
  | none =>
    obtain ⟨row', hrow'⟩ := KeyedTable.insert?_eq_none.mp hinsert
    rw [hid, hnew] at hrow'
    cases hrow'
  | some jobs' => exact ⟨row.toJob, jobs', rfl⟩

/-- The replay of a record that names a job of the table finds it. -/
theorem cachedJob_of_lookup (column : PayloadColumn D) (moment : Moment)
    {cached : CachedResult D} {jobId : String} {row : DurableRow D}
    (hid : cached.jobId = some jobId) (hne : jobId ≠ "") (hrow : jobs.lookup jobId = some row) :
    cachedJob (JobRepository.repository column moment) cached jobs = (.job row.toJob, jobs) := by
  simp only [cachedJob, hid, if_neg hne, JobRepository.repository, JobRepository.get, hrow]

/-! ### What holds in every state -/

/-- The calls through the stores. -/
def storeCalls (given : GivenRecords D) (creates : ι → CreateCall σ C) (i : ι) :
    StoreCall (Option σ) C D :=
  (creates i).toStoreCall given

/-- A completed record of the call is of its request and names a job of the table. -/
def Found (digests : Digests C D) (given : GivenRecords D) (creates : ι → CreateCall σ C)
    (s : SharedJobs ι (Option σ) D) (i : ι) : Prop :=
  ∀ f g v, (creates i).fingerprint digests = .ok f →
    s.recordOf (storeCalls given creates) i f = some (.completed g v) →
      g = f ∧ ∃ jobId row, v.jobId = some jobId ∧ jobId ≠ "" ∧ s.jobs.lookup jobId = some row

/-- What holds of one call: a record that it replays is completed, a job that it records is in the
table, and when it has ended it has returned the job of its completed record. -/
structure CallCreation (digests : Digests C D) (given : GivenRecords D)
    (creates : ι → CreateCall σ C) (s : SharedJobs ι (Option σ) D) (i : ι) : Prop where
  replay : ∀ f v, s.pc i = .replay f v →
    s.recordOf (storeCalls given creates) i f = some (.completed f v)
  recorded : ∀ f job, s.pc i = .record f job →
    job.jobId ≠ "" ∧ ∃ row, s.jobs.lookup job.jobId = some row
  done : ∀ f ending, s.pc i = .done ending → (creates i).fingerprint digests = .ok f →
    ∃ v jobId, s.recordOf (storeCalls given creates) i f = some (.completed f v) ∧
      v.jobId = some jobId ∧ Returns jobId ending

/-- The claims keep the calls apart, and their records lead to jobs. -/
structure Creation (digests : Digests C D) (given : GivenRecords D) (creates : ι → CreateCall σ C)
    (s : SharedJobs ι (Option σ) D) : Prop where
  serial : Serial digests (storeCalls given creates) s
  found : ∀ i, Found digests given creates s i
  call : ∀ i, CallCreation digests given creates s i

/-- A state whose completed records and rows are kept by another. -/
structure Grows (given : GivenRecords D) (creates : ι → CreateCall σ C)
    (s t : SharedJobs ι (Option σ) D) : Prop where
  records : ∀ j f g v, s.recordOf (storeCalls given creates) j f = some (.completed g v) →
    t.recordOf (storeCalls given creates) j f = some (.completed g v)
  rows : ∀ jobId row, s.jobs.lookup jobId = some row → t.jobs.lookup jobId = some row

omit [DecidableEq σ] [DecidableEq ι] in
theorem CallCreation.frame (h : CallCreation digests given creates s j)
    (hgrows : Grows given creates s t) (hpc : t.pc j = s.pc j) :
    CallCreation digests given creates t j where
  replay f v hg := hgrows.records j f f v (h.replay f v (hpc ▸ hg))
  recorded f job hg := by
    obtain ⟨hne, row, hrow⟩ := h.recorded f job (hpc ▸ hg)
    exact ⟨hne, row, hgrows.rows _ row hrow⟩
  done f ending hg hf := by
    obtain ⟨v, jobId, hv, hid, hreturns⟩ := h.done f ending (hpc ▸ hg) hf
    exact ⟨v, jobId, hgrows.records j f f v hv, hid, hreturns⟩

omit [DecidableEq σ] [DecidableEq ι] in
/-- No replayed job has vanished. -/
theorem Creation.nothingVanished (h : Creation digests given creates s) :
    NothingVanished column (storeCalls given creates) s (i, moment) := by
  intro f v hpc
  have hv := (h.call i).replay f v hpc
  have hfp := (h.serial.call i).fingerprint f (by rw [hpc]; rfl)
  obtain ⟨-, jobId, row, hid, hne, hrow⟩ := h.found i f f v hfp hv
  have hreply := cachedJob_of_lookup column moment hid hne hrow
  simp only [storeCalls, CreateCall.toStoreCall, Request.replayed, hreply, ne_eq, reduceCtorEq,
    not_false_eq_true]

/-- A block keeps the rows of the table. -/
theorem rows_of_move
    (h : CallMove equal column digests (storeCalls given creates) s i moment t)
    (hanswers : Answers creates s (i, moment)) {jobId : String} {row : DurableRow D}
    (hrow : s.jobs.lookup jobId = some row) : t.jobs.lookup jobId = some row := by
  cases h with
  | start hpc p jobs hstart =>
    have hjobs : jobs = s.jobs := by
      simp only [storeCalls, CreateCall.toStoreCall, Request.startBlock] at hstart
      split at hstart <;> cases hstart <;> rfl
    rwa [hjobs]
  | replayed f v hpc reply jobs hreply =>
    have hjobs : jobs = s.jobs := by
      simp only [storeCalls, CreateCall.toStoreCall, Request.replayed, cachedJob,
        JobRepository.repository, JobRepository.get] at hreply
      repeat' split at hreply
      all_goals cases hreply; rfl
    rwa [hjobs]
  | execute f hpc job jobs hreply =>
    obtain ⟨row', jobs', hcreate, -, -, hrows⟩ := create_spec (hanswers f hpc).2
    obtain rfl : jobs' = jobs := congrArg Prod.snd (hcreate.symm.trans hreply)
    exact hrows jobId row hrow
  | fail f hpc reply jobs hreply hnot =>
    obtain ⟨row', jobs', hcreate, -⟩ := create_spec (hanswers f hpc).2
    exact absurd (congrArg Prod.fst (hreply.symm.trans hcreate)) (hnot _)
  | _ => exact hrow

/-- The block of a call leaves the call with what it needs. -/
theorem Creation.call_step (h : Creation digests given creates s)
    (hanswers : Answers creates s (i, moment))
    (hmove : CallMove equal column digests (storeCalls given creates) s i moment t) :
    CallCreation digests given creates t i := by
  have hfingerprint {f g : String} (hpc : (s.pc i).fingerprint? = some f)
      (hg : (creates i).fingerprint digests = .ok g) : f = g :=
    Except.ok.inj (((h.serial.call i).fingerprint f hpc).symm.trans hg)
  cases hmove with
  | start hpc p jobs hstart =>
    simp only [storeCalls, CreateCall.toStoreCall, Request.startBlock] at hstart
    split at hstart
    · next message hdigest =>
      cases hstart
      refine ⟨by simp, by simp, fun f ending hdone hf => ?_⟩
      cases hf.symm.trans hdigest
    · cases hstart
      constructor <;> simp
  | claim f hpc hfree => constructor <;> simp
  | conflict f g v hpc hrecord hne =>
    have hfp := (h.serial.call i).fingerprint f (by rw [hpc]; rfl)
    exact absurd (h.found i f g v hfp hrecord).1 hne
  | replay f v hpc hrecord =>
    refine ⟨?_, by simp, by simp⟩
    simp only [SharedJobs.goto_pc, Function.update_self]
    rintro g w ⟨rfl, rfl⟩
    exact hrecord
  | replayed f v hpc reply jobs hreply =>
    have hv := (h.call i).replay f v hpc
    have hfp := (h.serial.call i).fingerprint f (by rw [hpc]; rfl)
    obtain ⟨-, jobId, row, hid, hne, hrow⟩ := h.found i f f v hfp hv
    obtain ⟨rfl, rfl⟩ := Prod.mk.inj
      (hreply.symm.trans (cachedJob_of_lookup column moment hid hne hrow))
    refine ⟨by simp [Request.afterReplay], by simp [Request.afterReplay], ?_⟩
    simp only [SharedJobs.goto_pc, Function.update_self, Request.afterReplay]
    rintro g ending ⟨rfl⟩ hg
    obtain rfl := hfingerprint (by rw [hpc]; rfl) hg
    have hkey : row.jobId = jobId := KeyedTable.key_of_lookup hrow
    exact ⟨v, jobId, hv, hid, _, _, rfl, .inr rfl, rfl, hkey⟩
  | execute f hpc job jobs hreply =>
    obtain ⟨hnew, hraises⟩ := hanswers f hpc
    obtain ⟨row, jobs', hcreate, hid, hrow, -⟩ := create_spec hraises
    obtain ⟨hjob, rfl⟩ := Prod.mk.inj (hreply.symm.trans hcreate)
    obtain rfl := RepositoryReply.job.inj hjob
    refine ⟨by simp, ?_, by simp⟩
    simp only [SharedJobs.goto_pc, Function.update_self]
    rintro g job' ⟨rfl, rfl⟩
    have hid' : row.toJob.jobId = moment.newJobId := hid
    exact ⟨hid' ▸ hnew, row, hid' ▸ hrow⟩
  | fail f hpc reply jobs hreply hnot =>
    obtain ⟨row, jobs', hcreate, -⟩ := create_spec (hanswers f hpc).2
    exact absurd (congrArg Prod.fst (hreply.symm.trans hcreate)) (hnot _)
  | record f job hpc hopen =>
    refine ⟨by simp, by simp, ?_⟩
    simp only [SharedJobs.goto_pc, Function.update_self]
    rintro g ending ⟨rfl⟩ hg
    obtain rfl := hfingerprint (by rw [hpc]; rfl) hg
    exact ⟨_, job.jobId, SharedJobs.setRecord_recordOf_of_eq rfl, rfl, _, job, rfl, .inl rfl, rfl,
      rfl⟩
  | mismatch f job hpc hclosed => exact absurd hclosed (h.serial.not_closed hpc)

/-- Every block keeps the claims, the records and the jobs together. -/
theorem Creation.step (h : Creation digests given creates s)
    (hanswers : Answers creates s (i, moment))
    (hmove : CallMove equal column digests (storeCalls given creates) s i moment t) :
    Creation digests given creates t := by
  have heffect := hmove.effect h.serial h.nothingVanished
  have hgrows : Grows given creates s t :=
    ⟨fun j f g v => h.serial.completed_stays heffect, fun jobId row => rows_of_move hmove hanswers⟩
  refine ⟨hmove.serial h.serial h.nothingVanished, fun j f g v hf hv => ?_, fun j => ?_⟩
  · obtain hv | ⟨f', job, hpc, haddress, rfl, rfl⟩ := heffect.completed_cases hv
    · obtain ⟨hg, jobId, row, hid, hne, hrow⟩ := h.found j f g v hf hv
      exact ⟨hg, jobId, row, hid, hne, hgrows.rows jobId row hrow⟩
    · obtain ⟨hne, row, hrow⟩ := (h.call i).recorded g job hpc
      have hkey : "job:create:" ++ f = "job:create:" ++ g := (Prod.mk.inj haddress).2
      exact ⟨((String.append_right_inj _).mp hkey).symm, job.jobId, row, rfl, hne,
        hgrows.rows _ row hrow⟩
  · by_cases hj : j = i
    · exact hj ▸ h.call_step hanswers hmove
    · exact (h.call j).frame hgrows (hmove.pc_of_ne hj)

omit [DecidableEq σ] [DecidableEq ι] in
/-- Before the first block the records lead to jobs. -/
theorem Attachable.creation (h : Attachable digests creates given jobs) :
    Creation digests given creates (constructed given jobs) where
  serial := .of_start (fun _ => rfl) rfl
  found i f g v hf hv := by
    have hv' : attachedRecords given (attached given (creates i).store) ("job:create:" ++ f) =
        some (.completed g v) := hv
    unfold attached at hv'
    split_ifs at hv'
    · cases hv'
    · exact h.found i f g v hf hv'
  call i := by constructor <;> simp [constructed]

omit [DecidableEq σ] [DecidableEq ι] in
/-- Calls with one fingerprint claim one record. -/
theorem Attachable.address_eq (h : Attachable digests creates given jobs) {f : String}
    (hi : (creates i).fingerprint digests = .ok f) (hj : (creates j).fingerprint digests = .ok f) :
    (storeCalls given creates i).address f = (storeCalls given creates j).address f := by
  have hmapping : attached given (creates i).store = attached given (creates j).store := by
    obtain hgiven | hstore := h.shared
    · simp [attached, hgiven]
    · rw [hstore i j f hi hj]
  exact Prod.ext hmapping rfl

omit [DecidableEq σ] [DecidableEq ι] in
/-- Where the record of a request is completed, every call with its fingerprint has the job of the
record. -/
theorem Creation.same_of_completed (h : Creation digests given creates s) {f : String}
    {v : CachedResult D} {jobId : String} (hid : v.jobId = some jobId)
    (hrecord : ∀ j, (creates j).fingerprint digests = .ok f →
      s.recordOf (storeCalls given creates) j f = some (.completed f v)) :
    (∀ j job, (j, job) ∈ s.executed → (creates j).fingerprint digests = .ok f →
        job.jobId = jobId) ∧
      ∀ j ending, s.pc j = .done ending → (creates j).fingerprint digests = .ok f →
        Returns jobId ending := by
  refine ⟨fun j job hjob hj => ?_, fun j ending hdone hj => ?_⟩
  · obtain ⟨g, hg, hplace⟩ := h.serial.placed j job hjob
    obtain rfl := Except.ok.inj (hj.symm.trans hg)
    obtain hplace | ⟨-, hcached⟩ := hplace
    · have howned := (h.serial.call j).owned f (by rw [hplace]; rfl)
      cases howned.symm.trans (hrecord j hj)
    · obtain ⟨-, rfl⟩ := Lease.Record.completed.inj
        (Option.some.inj (hcached.symm.trans (hrecord j hj)))
      exact Option.some.inj hid
  · obtain ⟨w, jobId', hw, hid', hreturns⟩ := (h.call j).done f ending hdone hj
    obtain ⟨-, rfl⟩ := Lease.Record.completed.inj
      (Option.some.inj (hw.symm.trans (hrecord j hj)))
    obtain rfl := Option.some.inj (hid'.symm.trans hid)
    exact hreturns

omit [DecidableEq σ] [DecidableEq ι] in
/-- Where no record of a request is completed, nobody has ended, and a job that has been created is
yet to be recorded. -/
theorem Creation.record_of_not_completed (h : Creation digests given creates s) {f : String}
    (hno : ∀ i v, (creates i).fingerprint digests = .ok f →
      s.recordOf (storeCalls given creates) i f ≠ some (.completed f v)) :
    (∀ i ending, s.pc i = .done ending → (creates i).fingerprint digests ≠ .ok f) ∧
      ∀ i job, (i, job) ∈ s.executed → (creates i).fingerprint digests = .ok f →
        s.pc i = .record f job := by
  have hdone (i : ι) (ending : Ending D) (hpc : s.pc i = .done ending) :
      (creates i).fingerprint digests ≠ .ok f := by
    intro hi
    obtain ⟨v, -, hv, -⟩ := (h.call i).done f ending hpc hi
    exact hno i v hi hv
  refine ⟨hdone, fun i job hjob hi => ?_⟩
  obtain ⟨g, hg, hplace⟩ := h.serial.placed i job hjob
  obtain rfl := Except.ok.inj (hi.symm.trans hg)
  exact hplace.resolve_right fun hplace => hdone i _ hplace.1 hi

omit [DecidableEq σ] [DecidableEq ι] in
/-- Where the records lead to jobs and calls with one fingerprint claim one record, each request has
one job. -/
theorem Creation.oneJob (h : Creation digests given creates s)
    (haddress : ∀ i j f, (creates i).fingerprint digests = .ok f →
      (creates j).fingerprint digests = .ok f →
        (storeCalls given creates i).address f = (storeCalls given creates j).address f) :
    OneJob digests creates s where
  once := h.serial.once.imp fun hne f hf hf' => hne f f hf hf' (haddress _ _ f hf hf')
  same f := by
    by_cases hcompleted : ∃ i v, (creates i).fingerprint digests = .ok f ∧
        s.recordOf (storeCalls given creates) i f = some (.completed f v)
    · obtain ⟨i, v, hi, hv⟩ := hcompleted
      obtain ⟨-, jobId, -, hid, -⟩ := h.found i f f v hi hv
      refine ⟨jobId, h.same_of_completed hid fun j hj => ?_⟩
      rw [SharedJobs.recordOf_congr (haddress j i f hj hi), hv]
    · obtain ⟨hdone, hholds⟩ := h.record_of_not_completed
        fun i v hi hv => hcompleted ⟨i, v, hi, hv⟩
      by_cases hexecuted : ∃ i job, (i, job) ∈ s.executed ∧
          (creates i).fingerprint digests = .ok f
      · obtain ⟨i, job, hjob, hi⟩ := hexecuted
        refine ⟨job.jobId, fun j job' hjob' hj => ?_,
          fun j ending hpc hj => absurd hj (hdone j ending hpc)⟩
        have hi' := hholds i job hjob hi
        have hj' := hholds j job' hjob' hj
        obtain rfl := h.serial.unique i j f f (by rw [hi']; rfl) (by rw [hj']; rfl)
          (haddress i j f hi hj)
        rw [(CallPc.record.inj (hi'.symm.trans hj')).2]
      · exact ⟨"", fun j job hjob hj => absurd ⟨j, job, hjob, hj⟩ hexecuted,
          fun j ending hpc hj => absurd hj (hdone j ending hpc)⟩

/-! ### Runs -/

/-- In every run in which the repository answers, each request has one job. -/
theorem oneJob_of_exec (h : Attachable digests creates given jobs) {labels : List (ι × Moment)}
    (hanswers : Along (callStep equal column digests (storeCalls given creates))
      (fun s l _ => Answers creates s l) (constructed given jobs) labels)
    (hexec : exec (callStep equal column digests (storeCalls given creates))
      (constructed given jobs) labels = some t) : OneJob digests creates t := by
  refine Creation.oneJob (along_invariant (Creation digests given creates) ?_ h.creation hanswers
    hexec) fun _ _ _ => h.address_eq
  rintro s ⟨i, moment⟩ t hs hanswer hstep
  exact hs.step hanswer (.of_callStep hstep)

/-! ### Runs without the condition -/

/-- The replay of a record that names no job of the table finds none. -/
theorem cachedJob_of_missing (column : PayloadColumn D) (moment : Moment)
    {cached : CachedResult D} (h : ¬ ∃ jobId row, cached.jobId = some jobId ∧ jobId ≠ "" ∧
      jobs.lookup jobId = some row) :
    cachedJob (JobRepository.repository column moment) cached jobs = (.none, jobs) := by
  cases hid : cached.jobId with
  | none => simp only [cachedJob, hid]
  | some jobId =>
    by_cases hne : jobId = ""
    · simp only [cachedJob, hid, if_pos hne]
    · cases hrow : jobs.lookup jobId with
      | none =>
        simp only [cachedJob, hid, if_neg hne, JobRepository.repository, JobRepository.get, hrow]
      | some row => exact absurd ⟨jobId, row, hid, hne, hrow⟩ h

/-- There is always an id that no job has. -/
theorem exists_moment (jobs : DurableTable D) : ∃ moment : Moment,
    moment.referenced = true ∧ moment.newJobId ≠ "" ∧ jobs.lookup moment.newJobId = none := by
  obtain ⟨jobId, hnew⟩ := Infinite.exists_notMem_finset ("" :: jobs.keys).toFinset
  simp only [List.mem_toFinset, List.mem_cons, not_or] at hnew
  refine ⟨{ now := "", newJobId := jobId, newPollToken := "", referenced := true }, rfl, hnew.1, ?_⟩
  exact KeyedTable.lookup_eq_none_iff.mpr hnew.2

/-- A run in which the repository answers. -/
def AnsweredRun (equal : D → D → Bool) (column : PayloadColumn D) (digests : Digests C D)
    (given : GivenRecords D) (creates : ι → CreateCall σ C) (s t : SharedJobs ι (Option σ) D) :
    Prop :=
  ∃ labels, Along (callStep equal column digests (storeCalls given creates))
    (fun s l _ => Answers creates s l) s labels ∧
      exec (callStep equal column digests (storeCalls given creates)) s labels = some t

theorem AnsweredRun.refl (s : SharedJobs ι (Option σ) D) :
    AnsweredRun equal column digests given creates s s :=
  ⟨[], trivial, rfl⟩

theorem AnsweredRun.head {u : SharedJobs ι (Option σ) D}
    (hmove : CallMove equal column digests (storeCalls given creates) s i moment t)
    (hanswers : Answers creates s (i, moment))
    (h : AnsweredRun equal column digests given creates t u) :
    AnsweredRun equal column digests given creates s u := by
  obtain ⟨labels, halong, hexec⟩ := h
  exact ⟨(i, moment) :: labels, .cons hmove.callStep_eq hanswers halong,
    exec_cons_eq_some.mpr ⟨t, hmove.callStep_eq, hexec⟩⟩

theorem AnsweredRun.trans {u : SharedJobs ι (Option σ) D}
    (h : AnsweredRun equal column digests given creates s t)
    (h' : AnsweredRun equal column digests given creates t u) :
    AnsweredRun equal column digests given creates s u := by
  obtain ⟨labels, halong, hexec⟩ := h
  obtain ⟨labels', halong', hexec'⟩ := h'
  refine ⟨labels ++ labels', along_append.mpr ⟨halong, fun v hv => ?_⟩,
    exec_append_eq_some.mpr ⟨t, hexec, hexec'⟩⟩
  obtain rfl := Option.some.inj (hexec.symm.trans hv)
  exact halong'

/-- The first block of a creation goes on to its claim. -/
theorem move_start (moment : Moment) (hpc : s.pc i = .start) {f : String}
    (hf : (creates i).fingerprint digests = .ok f) :
    CallMove equal column digests (storeCalls given creates) s i moment (s.goto i (.claim f)) := by
  refine .start hpc (.claim f) s.jobs ?_
  have hf' : digests.jobRequest (creates i).spec (creates i).requestContext = .ok f := hf
  simp only [storeCalls, CreateCall.toStoreCall, Request.startBlock, Request.fingerprint, hf']

/-- A run of the call `i` in which the repository creates `job` for it. -/
structure CreatesJob (equal : D → D → Bool) (column : PayloadColumn D) (digests : Digests C D)
    (given : GivenRecords D) (creates : ι → CreateCall σ C) (s t : SharedJobs ι (Option σ) D)
    (i : ι) (f : String) (job : Job D) : Prop where
  run : AnsweredRun equal column digests given creates s t
  executed : t.executed = (i, job) :: s.executed
  pc : ∀ j, j ≠ i → t.pc j = s.pc j
  records : ∀ j g,
    (storeCalls given creates j).address g ≠ (storeCalls given creates i).address f →
      t.recordOf (storeCalls given creates) j g = s.recordOf (storeCalls given creates) j g

/-- A call executes its creation and records it, under a record that it has claimed. -/
theorem createsJob_of_execute {f : String} (hpc : s.pc i = .execute f)
    (howned : s.recordOf (storeCalls given creates) i f = some (.inProgress f)) :
    ∃ t job, CreatesJob equal column digests given creates s t i f job := by
  obtain ⟨moment, hreferenced, hid, hnew⟩ := exists_moment s.jobs
  obtain ⟨job, jobs', hcreate⟩ := create_of_new hreferenced hnew (creates i).spec
  have hexecute : CallMove equal column digests (storeCalls given creates) s i moment
      (((s.setJobs jobs').addExecuted i job).goto i (.record f job)) :=
    .execute f hpc job jobs' hcreate
  have hpc' : (((s.setJobs jobs').addExecuted i job).goto i (.record f job)).pc i =
      .record f job := Function.update_self _ _ _
  have hrecord : CallMove equal column digests (storeCalls given creates) _ i moment _ :=
    .record f job hpc' (.inr howned)
  refine ⟨_, job, .head hexecute (fun _ _ => ⟨hid, by simp [hcreate]⟩)
    (.head hrecord (fun _ h => by simp [hpc'] at h) (.refl _)), rfl, fun j hj => ?_,
    fun j g haddress => SharedJobs.setRecord_recordOf_of_ne haddress⟩
  simp [Function.update_of_ne hj]

/-- A call whose record is free creates a job. -/
theorem createsJob_of_free (hpc : s.pc i = .start) {f : String}
    (hf : (creates i).fingerprint digests = .ok f)
    (hfree : s.recordOf (storeCalls given creates) i f = none) :
    ∃ t job, CreatesJob equal column digests given creates s t i f job := by
  obtain ⟨moment, -⟩ := exists_moment s.jobs
  have hpc₁ : (s.goto i (.claim f)).pc i = .claim f := Function.update_self _ _ _
  have hclaim : CallMove equal column digests (storeCalls given creates) _ i moment _ :=
    .claim f hpc₁ hfree
  have hpc₂ : (((s.goto i (.claim f)).setRecord (storeCalls given creates i).mapping
      ((storeCalls given creates i).request.key f) (.inProgress f)).goto i (.execute f)).pc i =
        .execute f := Function.update_self _ _ _
  obtain ⟨t, job, hrun, hexecuted, hpcs, hrecords⟩ :
      ∃ t job, CreatesJob equal column digests given creates _ t i f job :=
    createsJob_of_execute hpc₂ (SharedJobs.setRecord_recordOf_of_eq rfl)
  refine ⟨t, job, .head (move_start moment hpc hf) (fun _ h => by simp [hpc] at h)
    (.head hclaim (fun _ h => by simp [hpc₁] at h) hrun), hexecuted, fun j hj => ?_,
    fun j g haddress => (hrecords j g haddress).trans
      (SharedJobs.setRecord_recordOf_of_ne haddress)⟩
  simp [hpcs j hj, Function.update_of_ne hj]

omit [DecidableEq σ] [DecidableEq ι] in
/-- A run in which a call ends without its job. -/
theorem not_oneJob_of_done {ending : Ending D} (hpc : t.pc i = .done ending) {f : String}
    (hf : (creates i).fingerprint digests = .ok f) (hno : ∀ jobId, ¬ Returns jobId ending) :
    ¬ OneJob digests creates t := by
  intro h
  obtain ⟨jobId, -, hreturns⟩ := h.same f
  exact hno jobId (hreturns i ending hpc hf)

/-- A call that replays a record and finds no job creates one, and cannot record it. -/
theorem answeredRun_of_missing {f : String} {v : CachedResult D} (hpc : s.pc i = .claim f)
    (hrecord : s.recordOf (storeCalls given creates) i f = some (.completed f v))
    (hmissing : ¬ ∃ jobId row, v.jobId = some jobId ∧ jobId ≠ "" ∧
      s.jobs.lookup jobId = some row) :
    ∃ t, AnsweredRun equal column digests given creates s t ∧
      t.pc i = .done (.ok (errorResult mismatchMessage)) := by
  obtain ⟨moment, hreferenced, hid, hnew⟩ := exists_moment s.jobs
  obtain ⟨job, jobs', hcreate⟩ := create_of_new hreferenced hnew (creates i).spec
  have hreplay : CallMove equal column digests (storeCalls given creates) s i moment _ :=
    .replay f v hpc hrecord
  have hpc₁ : (s.goto i (.replay f v)).pc i = .replay f v := Function.update_self _ _ _
  have hvanished : CallMove equal column digests (storeCalls given creates) _ i moment _ :=
    .replayed f v hpc₁ .none s.jobs (cachedJob_of_missing column moment hmissing)
  have hpc₂ : (((s.goto i (.replay f v)).setJobs s.jobs).goto i
      (Request.afterReplay f .none)).pc i = .execute f := Function.update_self _ _ _
  have hexecute : CallMove equal column digests (storeCalls given creates) _ i moment _ :=
    .execute f hpc₂ job jobs' hcreate
  have hpc₃ : (((((s.goto i (.replay f v)).setJobs s.jobs).goto i
      (Request.afterReplay f .none)).setJobs jobs').addExecuted i job |>.goto i
        (.record f job)).pc i = .record f job := Function.update_self _ _ _
  have hmismatch : CallMove equal column digests (storeCalls given creates) _ i moment _ :=
    .mismatch f job hpc₃ (.inr ⟨f, v, hrecord⟩)
  have hrun : AnsweredRun equal column digests given creates s _ :=
    .head hreplay (fun _ h => by simp [hpc] at h)
      (.head hvanished (fun _ h => by simp [hpc₁] at h)
        (.head hexecute (fun _ _ => ⟨hid, by simp [hcreate]⟩)
          (.head hmismatch (fun _ h => by simp [hpc₃] at h) (.refl _))))
  exact ⟨_, hrun, Function.update_self _ _ _⟩

omit [DecidableEq σ] [DecidableEq ι] in
/-- A record that is there when the stores are constructed is in the mapping of each of them. -/
theorem constructed_recordOf (jobs : DurableTable D) {f : String}
    {record : Lease.Record String (CachedResult D)}
    (h : given.lookup ("job:create:" ++ f) = some record) :
    (constructed given jobs).recordOf (storeCalls given creates : ι → StoreCall _ C D) i f =
      some record := by
  have hgiven : given.isEmpty = false := by
    cases given with
    | nil => cases h
    | cons => rfl
  have hmapping : (storeCalls given creates i : StoreCall _ C D).mapping = none := by
    simp [storeCalls, CreateCall.toStoreCall, attached, hgiven]
  rw [SharedJobs.recordOf, hmapping]
  exact h

/-- A completed record that does not lead to a job of the request spoils a run. -/
theorem found_of_oneJob
    (h : ∀ t, AnsweredRun equal column digests given creates (constructed given jobs) t →
      OneJob digests creates t) {f g : String} {v : CachedResult D}
    (hf : (creates i).fingerprint digests = .ok f)
    (hv : given.lookup ("job:create:" ++ f) = some (.completed g v)) :
    g = f ∧ ∃ jobId row, v.jobId = some jobId ∧ jobId ≠ "" ∧ jobs.lookup jobId = some row := by
  obtain ⟨moment, -⟩ := exists_moment jobs
  let s : SharedJobs ι (Option σ) D := constructed given jobs
  have hpc : (s.goto i (.claim f)).pc i = .claim f := Function.update_self _ _ _
  have hstart : AnsweredRun equal column digests given creates s (s.goto i (.claim f)) :=
    .head (move_start moment rfl hf) (fun _ h => by cases h) (.refl _)
  have hrecord : (s.goto i (.claim f)).recordOf (storeCalls given creates) i f =
      some (.completed g v) := constructed_recordOf jobs hv
  by_cases hg : g = f
  · subst hg
    refine ⟨rfl, by_contra fun hmissing => ?_⟩
    obtain ⟨t, ht, hdone⟩ : ∃ t, AnsweredRun equal column digests given creates
        (s.goto i (.claim g)) t ∧ t.pc i = .done (.ok (errorResult mismatchMessage)) :=
      answeredRun_of_missing hpc hrecord hmissing
    refine not_oneJob_of_done hdone hf ?_ (h t (hstart.trans ht))
    rintro jobId ⟨result, job', ⟨rfl⟩, houtcome, -⟩
    simp [errorResult] at houtcome
  · have hconflict : CallMove equal column digests (storeCalls given creates) _ i moment _ :=
      .conflict f g v hpc hrecord hg
    refine absurd (h _ (hstart.trans (.head hconflict (fun _ h => by simp [hpc] at h) (.refl _))))
      (not_oneJob_of_done (Function.update_self _ _ _) hf ?_)
    rintro jobId ⟨result, job', ⟨rfl⟩, houtcome, -⟩
    simp at houtcome

/-- Two calls with one fingerprint whose stores do not share their mapping spoil a run. -/
theorem shared_of_oneJob
    (h : ∀ t, AnsweredRun equal column digests given creates (constructed given jobs) t →
      OneJob digests creates t) :
    given ≠ [] ∨ ∀ i j f, (creates i).fingerprint digests = .ok f →
      (creates j).fingerprint digests = .ok f → (creates i).store = (creates j).store := by
  by_contra hno
  push Not at hno
  obtain ⟨rfl, i, j, f, hi, hj, hne⟩ := hno
  have hij : j ≠ i := by
    rintro rfl
    exact hne rfl
  have haddress : (storeCalls ([] : GivenRecords D) creates j).address f ≠
      (storeCalls ([] : GivenRecords D) creates i).address f := by
    intro haddress
    exact hne (Option.some.inj (Prod.mk.inj haddress).1).symm
  obtain ⟨t, job, ht⟩ : ∃ t job, CreatesJob equal column digests [] creates _ t i f job :=
    createsJob_of_free (s := constructed [] jobs) rfl hi rfl
  obtain ⟨u, job', hu⟩ : ∃ u job', CreatesJob equal column digests [] creates t u j f job' :=
    createsJob_of_free (ht.pc j hij) hj (ht.records j f haddress)
  have honce := (h u (ht.run.trans hu.run)).once
  rw [hu.executed, ht.executed] at honce
  exact (List.pairwise_cons.mp honce).1 (i, job) List.mem_cons_self f hj hi

/-- **When stores over one mapping create one job for each request.** In every run of any calls in
which the repository does not raise, at most one job is created for each fingerprint and every call
with it returns this job, exactly if the mapping is not empty or calls with one fingerprint go
through one store, and the completed records of the mapping lead to jobs of their requests. -/
theorem one_job_iff :
    (∀ labels t,
      Along (callStep equal column digests (storeCalls given creates))
        (fun s l _ => Answers creates s l) (constructed given jobs) labels →
      exec (callStep equal column digests (storeCalls given creates)) (constructed given jobs)
        labels = some t → OneJob digests creates t) ↔
      Attachable digests creates given jobs := by
  constructor
  · intro h
    have hrun (t : SharedJobs ι (Option σ) D) :
        AnsweredRun equal column digests given creates (constructed given jobs) t →
          OneJob digests creates t := fun ⟨labels, halong, hexec⟩ => h labels t halong hexec
    exact ⟨shared_of_oneJob hrun, fun i f g v => found_of_oneJob hrun⟩
  · exact fun h labels t => oneJob_of_exec h

/-! ### An empty mapping -/

/-- The same request on two stores. -/
def twoStores (store : Bool) : CreateCall Bool String :=
  { store := store
    spec :=
      { sessionId := "chat_s_1"
        officeId := "memphis"
        brokerId := "broker-123"
        jobKind := "analytics_refresh"
        progressMessage := "Job queued"
        retryAllowed := false }
    requestContext := none }

/-- A moment at which this id is drawn. -/
def drawnMoment (jobId : String) : Moment :=
  { now := "2026-03-16T09:00:00Z", newJobId := jobId, newPollToken := "token", referenced := true }

/-- The blocks of one call and then those of the other. -/
def inTurn : List (Bool × Moment) :=
  List.replicate 4 (true, drawnMoment "job_1") ++ List.replicate 4 (false, drawnMoment "job_2")

/-- **An empty mapping is not shared.** Two stores that are given an empty mapping keep their
records in mappings of their own; the same request on both, one after the other, creates two
jobs. -/
theorem empty_mapping_not_shared :
    ∃ t, Along (callStep (· == ·) plainColumn plainDigests (storeCalls [] twoStores))
        (fun s l _ => Answers twoStores s l) (constructed [] .empty) inTurn ∧
      exec (callStep (· == ·) plainColumn plainDigests (storeCalls [] twoStores))
        (constructed [] .empty) inTurn = some t ∧
      t.executed.map (fun e => (e.1, e.2.jobId)) = [(false, "job_2"), (true, "job_1")] ∧
      ¬ OneJob plainDigests twoStores t := by
  have hcreates (s : SharedJobs Bool (Option Bool) String) (l : Bool × Moment)
      (hid : l.2.newJobId ≠ "") (hnew : ∀ message,
        (JobRepository.create l.2 s.jobs (twoStores l.1).spec).1 ≠ .raised message) :
      Answers twoStores s l := fun _ _ => ⟨hid, hnew⟩
  have hwaits (s : SharedJobs Bool (Option Bool) String) (l : Bool × Moment)
      (hpc : ∀ f, s.pc l.1 ≠ .execute f) : Answers twoStores s l :=
    fun f h => absurd h (hpc f)
  refine ⟨_, ?_, rfl, rfl, fun h => ?_⟩
  · refine .cons rfl (hwaits _ _ fun _ h => by cases h) ?_
    refine .cons rfl (hwaits _ _ fun _ h => by cases h) ?_
    refine .cons rfl (hcreates _ _ (by decide) fun _ h => by cases h) ?_
    refine .cons rfl (hwaits _ _ fun _ h => by cases h) ?_
    refine .cons rfl (hwaits _ _ fun _ h => by cases h) ?_
    refine .cons rfl (hwaits _ _ fun _ h => by cases h) ?_
    refine .cons rfl (hcreates _ _ (by decide) fun _ h => by cases h) ?_
    exact .cons rfl (hwaits _ _ fun _ h => by cases h) trivial
  · exact (List.pairwise_cons.mp h.once).1 (true, _) List.mem_cons_self "chat_s_1" rfl rfl

end Meridian.Jobs
