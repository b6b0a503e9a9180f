import Meridian.Foundations.Json
import Meridian.Jobs.ConcurrentStore

/-!
# A job is completed once

Any number of calls of `complete_job` through one `IdempotentJobStore`, on one job that has not
succeeded and without a fingerprint of their own, in any interleaving. Two guards keep a second
completion away. The first look at the job compares the stored result with that of the call, as
Python compares them; the claim compares digests of the two.

## Main definitions

* `Meridian.Jobs.WriteOnce`: one call completes the job, and every call that has ended has returned
  what this completion says about it.
* `Meridian.Jobs.GuardsAgree`: the condition on the results and on the record of the completion.

## Main results

* `Meridian.Jobs.write_once_iff`: in every run the job is completed once and keeps its result,
  exactly if the condition holds.
* `Meridian.Jobs.guards_disagree`: `{"rows": 1}` and `{"rows": True}` are one result for the first
  guard and two for the second.
-/

namespace Meridian.Jobs

open Foundations Gateway

variable {C D ι : Type*}

/-! ### Calls on one job -/

/-- The arguments of a call besides the job. -/
structure CompleteCall (D : Type*) where
  result : D
  progressMessage : String

/-- The calls through the store. -/
def completeCalls (jobId : String) (completes : ι → CompleteCall D) (i : ι) :
    StoreCall Unit C D :=
  { mapping := ()
    request := .completeJob jobId (completes i).result (completes i).progressMessage none }

/-- The key of the record that the calls share. -/
def completionKey (jobId : String) : String := "job:complete:" ++ jobId

/-- The store before the first call. -/
def beforeCompletion (jobs : DurableTable D) (records : Store (CachedResult D)) :
    SharedJobs ι Unit D :=
  { jobs := jobs, records := fun _ => records, pc := fun _ => .start, executed := [] }

/-! ### The property and the condition -/

/-- The outcome of a call, by whether its result is the one that the job has been completed with. -/
def OutcomeFor (same : Prop) (outcome : Outcome) : Prop :=
  (same → outcome = .created ∨ outcome = .replayed) ∧ (¬ same → outcome = .conflict)

/-- A job that has succeeded keeps its status and its result. -/
def ResultKept (jobId : String) (jobs jobs' : DurableTable D) : Prop :=
  ∀ row, jobs.lookup jobId = some row → row.jobStatus = .succeeded →
    ∃ row', jobs'.lookup jobId = some row' ∧ row'.decided = row.decided

section

variable [DecidableEq ι] (equal : D → D → Bool) (column : PayloadColumn D) (digests : Digests C D)
  (jobId : String) (completes : ι → CompleteCall D)

/-- The repository has completed the job at most once, and did so if any call has ended. The call
that it was done for has returned the job as created, or does so with its next block; the row holds
its result; and every call that has ended has returned what its own result calls for. -/
structure WriteOnce (s : SharedJobs ι Unit D) : Prop where
  once : s.executed.length ≤ 1
  answered : ∀ i ending, s.pc i = .done ending → ∃ j job result, s.executed = [(j, job)] ∧
    ending = .ok result ∧ OutcomeFor ((completes i).result = (completes j).result) result.outcome
  executor : ∀ j job, (j, job) ∈ s.executed →
    s.pc j = .done (.ok ⟨.created, some job, none⟩) ∨
      ∀ moment, ∃ t,
        callStep equal column digests (completeCalls jobId completes) s (j, moment) = some t ∧
          t.pc j = .done (.ok ⟨.created, some job, none⟩)
  stored : ∀ j job, (j, job) ∈ s.executed → ∃ row stored, s.jobs.lookup jobId = some row ∧
    row.jobStatus = .succeeded ∧ column.store (completes j).result = .ok stored ∧
      row.resultPayload = some stored

/-- No call raises, and the digests tell the results of the calls apart. -/
structure Digestible : Prop where
  digest : ∀ i, ∃ f, digests.result (completes i).result = .ok f
  injective : ∀ i j, digests.result (completes i).result = digests.result (completes j).result →
    (completes i).result = (completes j).result
  store : ∀ i, ∃ stored, column.store (completes i).result = .ok stored

/-- No completion is on record; and if none is claimed either, Python takes the stored result of one
call for the result of another exactly if the two are the same. -/
structure GuardsAgree (records : Store (CachedResult D)) : Prop where
  unrecorded : ∀ (_ : ι) f v, records (completionKey jobId) ≠ some (.completed f v)
  compared : records (completionKey jobId) = none → ∀ i j stored, i ≠ j →
    column.store (completes j).result = .ok stored →
      (equal stored (completes i).result = true ↔ (completes i).result = (completes j).result)

end

variable [DecidableEq ι] {equal : D → D → Bool} {column : PayloadColumn D} {digests : Digests C D}
  {jobId : String} {completes : ι → CompleteCall D} {records : Store (CachedResult D)}
  {s t : SharedJobs ι Unit D} {i j : ι} {moment : Moment} {jobs : DurableTable D}
  {row₀ row : DurableRow D}

/-! ### The repository -/

/-- The first look at a job that exists. -/
theorem startBlock_completeJob (hrow : jobs.lookup jobId = some row) {result : D} {f : String}
    (hf : digests.result result = .ok f) (progressMessage : String) :
    (Request.completeJob jobId result progressMessage none).startBlock equal
        (JobRepository.repository column moment) digests jobs =
      (if row.jobStatus = .succeeded then
          .done (.ok (Request.alreadyCompleted equal row.toJob result))
        else .claim f, jobs) := by
  have hstatus : row.toJob.status = "succeeded" ↔ row.jobStatus = .succeeded :=
    DurableStatus.text_eq_succeeded
  simp only [Request.startBlock, Request.fingerprint, completionFingerprint, hf,
    JobRepository.repository, JobRepository.get, hrow, hstatus]
  split_ifs <;> rfl

/-- A completion of a job that exists writes the result and reads the row. -/
theorem complete_spec (hrow : jobs.lookup jobId = some row) {result stored : D}
    (hstored : column.store result = .ok stored) (moment : Moment) (progressMessage : String) :
    ∃ row' jobs', JobRepository.complete column moment jobs jobId result progressMessage =
        (.job row'.toJob, jobs') ∧ jobs'.lookup jobId = some row' ∧
      row'.jobStatus = .succeeded ∧ row'.resultPayload = some stored := by
  have hlookup : (jobs.modify jobId
      (JobRepository.completed moment stored (column.responseId result) progressMessage)
      (JobRepository.completed_jobId moment stored _ _)).lookup jobId =
        some (JobRepository.completed moment stored (column.responseId result) progressMessage
          row) := by
    rw [KeyedTable.lookup_modify, if_pos rfl, hrow]
    rfl
  refine ⟨_, _, ?_, hlookup, rfl, rfl⟩
  simp only [JobRepository.complete, hstored, JobRepository.get, hlookup]

/-! ### What holds in every state -/

/-- What the table and the record say about the completion: the job is as it was before it, holds
the result of the completing call after it, and a completed record has the digest of this result. -/
structure Written (column : PayloadColumn D) (digests : Digests C D) (jobId : String)
    (completes : ι → CompleteCall D) (row₀ : DurableRow D) (s : SharedJobs ι Unit D) : Prop where
  before : s.executed = [] → s.jobs.lookup jobId = some row₀
  after : ∀ j job, (j, job) ∈ s.executed → ∃ row stored, s.jobs.lookup jobId = some row ∧
    row.jobStatus = .succeeded ∧ column.store (completes j).result = .ok stored ∧
      row.resultPayload = some stored
  completed : ∀ f v, s.records () (completionKey jobId) = some (.completed f v) →
    ∃ j job, (j, job) ∈ s.executed ∧ digests.result (completes j).result = .ok f

/-- What holds of one call: a record that it replays is completed, and when it has ended, the job is
completed and it has returned what its result calls for. -/
structure CallCompletion (jobId : String) (completes : ι → CompleteCall D)
    (s : SharedJobs ι Unit D) (i : ι) : Prop where
  replay : ∀ f v, s.pc i = .replay f v →
    s.records () (completionKey jobId) = some (.completed f v)
  done : ∀ ending, s.pc i = .done ending → ∃ j job result, (j, job) ∈ s.executed ∧
    ending = .ok result ∧ OutcomeFor ((completes i).result = (completes j).result) result.outcome

/-- The claims keep the calls apart, and lead to one completion. -/
structure Completion (column : PayloadColumn D) (digests : Digests C D) (jobId : String)
    (completes : ι → CompleteCall D) (row₀ : DurableRow D) (s : SharedJobs ι Unit D) : Prop where
  serial : Serial digests (completeCalls jobId completes) s
  written : Written column digests jobId completes row₀ s
  call : ∀ i, CallCompletion jobId completes s i

omit [DecidableEq ι] in
/-- The job exists. -/
theorem Written.exists_row (h : Written column digests jobId completes row₀ s) :
    ∃ row, s.jobs.lookup jobId = some row := by
  cases hexecuted : s.executed with
  | nil => exact ⟨row₀, h.before hexecuted⟩
  | cons e =>
    obtain ⟨row, stored, hrow, -⟩ := h.after e.1 e.2 (by rw [hexecuted]; exact List.mem_cons_self)
    exact ⟨row, hrow⟩

/-- The place of a call says nothing about the table and the record. -/
theorem Written.goto (h : Written column digests jobId completes row₀ s) (i : ι) (p : CallPc D) :
    Written column digests jobId completes row₀ (s.goto i p) :=
  ⟨h.before, h.after, h.completed⟩

omit [DecidableEq ι] in
/-- All calls have one record, so the repository has completed the job at most once. -/
theorem Serial.length_le_one (h : Serial digests (completeCalls jobId completes) s)
    (hdigest : ∀ i, ∃ f, digests.result (completes i).result = .ok f) :
    s.executed.length ≤ 1 := by
  match hexecuted : s.executed with
  | [] => simp
  | [_] => simp
  | (i, _) :: (j, _) :: _ =>
    have honce := h.once
    rw [hexecuted] at honce
    obtain ⟨f, hf⟩ := hdigest i
    obtain ⟨g, hg⟩ := hdigest j
    exact absurd rfl ((List.pairwise_cons.mp honce).1 _ List.mem_cons_self f g hf hg)

omit [DecidableEq ι] in
/-- The completing call. -/
theorem Completion.executed_eq (h : Completion column digests jobId completes row₀ s)
    (hdigest : ∀ i, ∃ f, digests.result (completes i).result = .ok f) {job : Job D}
    (hjob : (j, job) ∈ s.executed) : s.executed = [(j, job)] := by
  have hlength := h.serial.length_le_one hdigest
  match hexecuted : s.executed with
  | [] =>
    rw [hexecuted] at hjob
    cases hjob
  | [e] =>
    rw [hexecuted, List.mem_singleton] at hjob
    rw [hjob]
  | _ :: _ :: _ => simp [hexecuted] at hlength

omit [DecidableEq ι] in
/-- No replayed job has vanished. -/
theorem Written.nothingVanished (h : Written column digests jobId completes row₀ s) :
    NothingVanished column (completeCalls jobId completes : ι → StoreCall Unit C D) s
      (i, moment) := by
  intro f v hpc
  obtain ⟨row, hrow⟩ := h.exists_row
  simp only [completeCalls, Request.replayed, JobRepository.repository, JobRepository.get, hrow,
    ne_eq, reduceCtorEq, not_false_eq_true]

omit [DecidableEq ι] in
/-- A call that has neither ended nor a job to record is not the completing one. -/
theorem Completion.ne_of_executed (h : Completion column digests jobId completes row₀ s)
    (hpc : ∀ f job, s.pc i ≠ .record f job) (hdone : ∀ ending, s.pc i ≠ .done ending) {job : Job D}
    (hjob : (j, job) ∈ s.executed) : i ≠ j := by
  rintro rfl
  exact h.serial.not_executed hpc hdone job hjob

omit [DecidableEq ι] in
/-- A call that has claimed the record meets a job that is not completed. -/
theorem Completion.executed_eq_nil (h : Completion column digests jobId completes row₀ s)
    {f : String} (hpc : s.pc i = .execute f) : s.executed = [] := by
  refine List.eq_nil_iff_forall_not_mem.mpr fun ⟨j, job⟩ hjob => ?_
  have howned := (h.serial.call i).owned f (by rw [hpc]; rfl)
  have hij := h.ne_of_executed (i := i) (by simp [hpc]) (by simp [hpc]) hjob
  obtain ⟨g, hg, -⟩ := h.serial.placed j job hjob
  refine h.serial.address_ne (i := i) (f := f) hjob (by simp [howned]) (fun g hg haddress => ?_) hg
    rfl
  exact hij (h.serial.unique i j f g (by rw [hpc]; rfl) hg haddress)

omit [DecidableEq ι] in
/-- The first block of a call goes on to its claim before the completion, and after it returns what
its result calls for. -/
theorem Completion.start_step (h : Completion column digests jobId completes row₀ s)
    (hopen : row₀.jobStatus ≠ .succeeded)
    (hagree : ∀ i j stored, i ≠ j → column.store (completes j).result = .ok stored →
      (equal stored (completes i).result = true ↔ (completes i).result = (completes j).result))
    (hpc : s.pc i = .start) {f : String} (hf : digests.result (completes i).result = .ok f)
    {p : CallPc D} (hstart : (completeCalls jobId completes i).request.startBlock equal
      (JobRepository.repository column moment) digests s.jobs = (p, jobs)) :
    jobs = s.jobs ∧ (p = .claim f ∨ ∃ j job result, (j, job) ∈ s.executed ∧
      p = .done (.ok result) ∧
        OutcomeFor ((completes i).result = (completes j).result) result.outcome) := by
  cases hexecuted : s.executed with
  | nil =>
    have hblock := hstart.symm.trans (startBlock_completeJob (h.written.before hexecuted) hf _)
    rw [if_neg hopen] at hblock
    obtain ⟨rfl, rfl⟩ := Prod.mk.inj hblock
    exact ⟨rfl, .inl rfl⟩
  | cons e =>
    obtain ⟨j, job⟩ := e
    have hjob : (j, job) ∈ s.executed := by rw [hexecuted]; exact List.mem_cons_self
    obtain ⟨row, stored, hrow, hstatus, hstored, hpayload⟩ := h.written.after j job hjob
    have hij := h.ne_of_executed (i := i) (by simp [hpc]) (by simp [hpc]) hjob
    have hblock := hstart.symm.trans (startBlock_completeJob hrow hf _)
    rw [if_pos hstatus] at hblock
    obtain ⟨rfl, rfl⟩ := Prod.mk.inj hblock
    refine ⟨rfl, .inr ⟨j, job, _, List.mem_cons_self, rfl, ?_⟩⟩
    -- The first guard compares with the stored result, which is that of `j`.
    have hguard := hagree i j stored hij hstored
    unfold Request.alreadyCompleted
    rw [DurableRow.toJob, hpayload, Option.any_some]
    split_ifs with hequal
    · exact ⟨fun _ => .inr rfl, fun hne => absurd (hguard.mp hequal) hne⟩
    · exact ⟨fun hsame => absurd (hguard.mpr hsame) hequal, fun _ => rfl⟩

/-- A call ends with what its result calls for. -/
theorem Completion.goto_done (h : Completion column digests jobId completes row₀ s) {job : Job D}
    (hjob : (j, job) ∈ s.executed) {result : IdempotentJobResult D}
    (houtcome : OutcomeFor ((completes i).result = (completes j).result) result.outcome) :
    Written column digests jobId completes row₀ (s.goto i (.done (.ok result))) ∧
      CallCompletion jobId completes (s.goto i (.done (.ok result))) i := by
  refine ⟨h.written.goto i _, ⟨by simp, ?_⟩⟩
  simp only [SharedJobs.goto_pc, Function.update_self]
  rintro ending ⟨rfl⟩
  exact ⟨j, job, result, hjob, rfl, houtcome⟩

/-- The completion writes the result of its call. -/
theorem Completion.execute_step (h : Completion column digests jobId completes row₀ s)
    {f : String} (hpc : s.pc i = .execute f) {stored : D}
    (hstored : column.store (completes i).result = .ok stored)
    (hrow : jobs.lookup jobId = some row) (hstatus : row.jobStatus = .succeeded)
    (hpayload : row.resultPayload = some stored) (job : Job D) :
    Written column digests jobId completes row₀
        (((s.setJobs jobs).addExecuted i job).goto i (.record f job)) ∧
      CallCompletion jobId completes
        (((s.setJobs jobs).addExecuted i job).goto i (.record f job)) i := by
  have howned := (h.serial.call i).owned f (by rw [hpc]; rfl)
  refine ⟨⟨by simp, ?_, fun g v hv => ?_⟩, by constructor <;> simp⟩
  · simp only [SharedJobs.goto_executed, SharedJobs.addExecuted_executed,
      SharedJobs.setJobs_executed, h.executed_eq_nil hpc, List.mem_singleton]
    rintro j job' ⟨rfl, rfl⟩
    exact ⟨row, stored, hrow, hstatus, hstored, hpayload⟩
  · cases howned.symm.trans hv

/-- The completing call records its digest and ends. -/
theorem Completion.record_step (h : Completion column digests jobId completes row₀ s)
    {f : String} {job : Job D} (hpc : s.pc i = .record f job) (v : CachedResult D) :
    Written column digests jobId completes row₀
        ((s.setRecord () (completionKey jobId) (.completed f v)).goto i
          (.done (.ok ⟨.created, some job, none⟩))) ∧
      CallCompletion jobId completes
        ((s.setRecord () (completionKey jobId) (.completed f v)).goto i
          (.done (.ok ⟨.created, some job, none⟩))) i := by
  have hjob := (h.serial.call i).recorded f job hpc
  have hfp : digests.result (completes i).result = .ok f :=
    (h.serial.call i).fingerprint f (by rw [hpc]; rfl)
  refine ⟨⟨h.written.before, h.written.after, fun g w hw => ?_⟩, ⟨by simp, ?_⟩⟩
  · have hkey : some (Lease.Record.completed f v) = some (.completed g w) := by
      rw [← hw]
      simp [SharedJobs.setRecord, SharedJobs.goto]
    cases hkey
    exact ⟨i, job, hjob, hfp⟩
  · simp only [SharedJobs.goto_pc, Function.update_self]
    rintro ending ⟨rfl⟩
    exact ⟨i, job, _, hjob, rfl, fun _ => .inl rfl, fun hne => absurd rfl hne⟩

/-- A block leaves its call, the table and the record as they have to be. -/
theorem Completion.local_step (h : Completion column digests jobId completes row₀ s)
    (hopen : row₀.jobStatus ≠ .succeeded) (hdigestible : Digestible column digests completes)
    (hagree : ∀ i j stored, i ≠ j → column.store (completes j).result = .ok stored →
      (equal stored (completes i).result = true ↔ (completes i).result = (completes j).result))
    (hmove : CallMove equal column digests (completeCalls jobId completes) s i moment t) :
    Written column digests jobId completes row₀ t ∧ CallCompletion jobId completes t i := by
  have hfp {f : String} (hpc : (s.pc i).fingerprint? = some f) :
      digests.result (completes i).result = .ok f := (h.serial.call i).fingerprint f hpc
  cases hmove with
  | start hpc p jobs hstart =>
    obtain ⟨f, hf⟩ := hdigestible.digest i
    obtain ⟨rfl, rfl | ⟨j, job, result, hjob, rfl, houtcome⟩⟩ :=
      h.start_step hopen hagree hpc hf hstart
    · exact ⟨h.written.goto i _, by constructor <;> simp⟩
    · exact h.goto_done hjob houtcome
  | claim f hpc hfree =>
    refine ⟨⟨h.written.before, h.written.after, fun g v hv => ?_⟩, by constructor <;> simp⟩
    simp [SharedJobs.setRecord, SharedJobs.goto, completeCalls, Request.key, completionKey] at hv
  | conflict f g v hpc hrecord hne =>
    obtain ⟨j, job, hjob, hg⟩ := h.written.completed g v hrecord
    refine h.goto_done hjob ⟨fun hsame => ?_, fun _ => rfl⟩
    rw [← hsame] at hg
    exact absurd (Except.ok.inj (hg.symm.trans (hfp (by rw [hpc]; rfl)))) hne
  | replay f v hpc hrecord =>
    refine ⟨h.written.goto i _, ⟨?_, by simp⟩⟩
    simp only [SharedJobs.goto_pc, Function.update_self]
    rintro g w ⟨rfl, rfl⟩
    exact hrecord
  | replayed f v hpc reply jobs hreply =>
    obtain ⟨row, hrow⟩ := h.written.exists_row
    have hfound : (.job row.toJob, s.jobs) = (reply, jobs) := by
      rw [← hreply]
      simp only [completeCalls, Request.replayed, JobRepository.repository, JobRepository.get, hrow]
    obtain ⟨rfl, rfl⟩ := Prod.mk.inj hfound
    obtain ⟨j, job, hjob, hg⟩ := h.written.completed f v ((h.call i).replay f v hpc)
    have hsame := hdigestible.injective i j ((hfp (by rw [hpc]; rfl)).trans hg.symm)
    exact h.goto_done hjob ⟨fun _ => .inr rfl, fun hne => absurd hsame hne⟩
  | execute f hpc job jobs hreply =>
    obtain ⟨stored, hstored⟩ := hdigestible.store i
    obtain ⟨row, jobs', hcomplete, hrow, hstatus, hpayload⟩ :=
      complete_spec (h.written.before (h.executed_eq_nil hpc)) hstored moment
        (completes i).progressMessage
    obtain ⟨-, rfl⟩ := Prod.mk.inj (hreply.symm.trans hcomplete)
    exact h.execute_step hpc hstored hrow hstatus hpayload job
  | fail f hpc reply jobs hreply hnot =>
    obtain ⟨stored, hstored⟩ := hdigestible.store i
    obtain ⟨row, jobs', hcomplete, -⟩ :=
      complete_spec (h.written.before (h.executed_eq_nil hpc)) hstored moment
        (completes i).progressMessage
    exact absurd (congrArg Prod.fst (hreply.symm.trans hcomplete)) (hnot _)
  | record f job hpc => exact h.record_step hpc _
  | mismatch f job hpc hclosed => exact absurd hclosed (h.serial.not_closed hpc)

/-- Every block of any call keeps the invariant. -/
theorem Completion.step (h : Completion column digests jobId completes row₀ s)
    (hopen : row₀.jobStatus ≠ .succeeded) (hdigestible : Digestible column digests completes)
    (hagree : ∀ i j stored, i ≠ j → column.store (completes j).result = .ok stored →
      (equal stored (completes i).result = true ↔ (completes i).result = (completes j).result))
    (hmove : CallMove equal column digests (completeCalls jobId completes) s i moment t) :
    Completion column digests jobId completes row₀ t := by
  have heffect := hmove.effect h.serial h.written.nothingVanished
  obtain ⟨hwritten, hcall⟩ := h.local_step hopen hdigestible hagree hmove
  refine ⟨h.serial.of_effect heffect, hwritten, fun j => ?_⟩
  by_cases hj : j = i
  · exact hj ▸ hcall
  · have hpc := hmove.pc_of_ne hj
    refine ⟨fun f v hg => ?_, fun ending hg => ?_⟩
    · have hv : s.recordOf (completeCalls jobId completes : ι → StoreCall Unit C D) j f =
          some (.completed f v) := (h.call j).replay f v (hpc ▸ hg)
      exact h.serial.completed_stays heffect hv
    · obtain ⟨j', job, result, hjob, hresult⟩ := (h.call j).done ending (hpc ▸ hg)
      exact ⟨j', job, result, heffect.executed_subset hjob, hresult⟩

/-- What holds in every state says that the job is completed once. -/
theorem Completion.writeOnce (h : Completion column digests jobId completes row₀ s)
    (hdigest : ∀ i, ∃ f, digests.result (completes i).result = .ok f) :
    WriteOnce equal column digests jobId completes s where
  once := h.serial.length_le_one hdigest
  answered i ending hpc := by
    obtain ⟨j, job, result, hjob, hresult⟩ := (h.call i).done ending hpc
    exact ⟨j, job, result, h.executed_eq hdigest hjob, hresult⟩
  executor j job hjob := by
    obtain ⟨f, -, hpc | ⟨hpc, -⟩⟩ := h.serial.placed j job hjob
    · refine .inr fun moment => ?_
      have howned := (h.serial.call j).owned f (by rw [hpc]; rfl)
      have hrecord : CallMove equal column digests (completeCalls jobId completes) s j moment _ :=
        .record f job hpc (.inr howned)
      exact ⟨_, hrecord.callStep_eq, Function.update_self _ _ _⟩
    · exact .inl hpc
  stored := h.written.after

omit [DecidableEq ι] in
/-- The result of a completed job stays. -/
theorem Completion.resultKept (h : Completion column digests jobId completes row₀ s)
    (ht : Completion column digests jobId completes row₀ t) (hsub : s.executed ⊆ t.executed)
    (hopen : row₀.jobStatus ≠ .succeeded) : ResultKept jobId s.jobs t.jobs := by
  intro row hrow hsucceeded
  have hne : s.executed ≠ [] := by
    intro hnil
    obtain rfl := Option.some.inj (hrow.symm.trans (h.written.before hnil))
    exact hopen hsucceeded
  obtain ⟨⟨j, job⟩, hjob⟩ := List.exists_mem_of_ne_nil _ hne
  obtain ⟨row₁, stored, hrow₁, hstatus₁, hstored, hpayload₁⟩ := h.written.after j job hjob
  obtain rfl := Option.some.inj (hrow.symm.trans hrow₁)
  obtain ⟨row₂, stored', hrow₂, hstatus₂, hstored', hpayload₂⟩ := ht.written.after j job (hsub hjob)
  obtain rfl := Except.ok.inj (hstored.symm.trans hstored')
  refine ⟨row₂, hrow₂, ?_⟩
  rw [DurableRow.decided, DurableRow.decided, hstatus₁, hstatus₂, hpayload₁, hpayload₂]

/-! ### A claim that nobody settles -/

/-- Every call waits for a claim that was there before, or will. -/
structure Waiting (jobId : String) (row₀ : DurableRow D) (s : SharedJobs ι Unit D) : Prop where
  row : s.jobs.lookup jobId = some row₀
  executed : s.executed = []
  pc : ∀ i, s.pc i = .start ∨ ∃ f, s.pc i = .claim f
  claimed : ∀ _ : ι, ∃ f, s.records () (completionKey jobId) = some (.inProgress f)

theorem Waiting.step (h : Waiting jobId row₀ s) (hopen : row₀.jobStatus ≠ .succeeded)
    (hdigest : ∀ i, ∃ f, digests.result (completes i).result = .ok f)
    (hmove : CallMove equal column digests (completeCalls jobId completes) s i moment t) :
    Waiting jobId row₀ t := by
  obtain ⟨g, hg⟩ := h.claimed i
  cases hmove with
  | start hpc p jobs hstart =>
    obtain ⟨f, hf⟩ := hdigest i
    have hblock := hstart.symm.trans (startBlock_completeJob h.row hf _)
    rw [if_neg hopen] at hblock
    obtain ⟨rfl, rfl⟩ := Prod.mk.inj hblock
    refine ⟨h.row, h.executed, fun j => ?_, h.claimed⟩
    by_cases hj : j = i
    · subst hj
      exact .inr ⟨f, Function.update_self _ _ _⟩
    · rw [SharedJobs.goto_pc, Function.update_of_ne hj]
      exact h.pc j
  | claim f hpc hfree => cases hg.symm.trans hfree
  | conflict f f' v hpc hrecord => cases hg.symm.trans hrecord
  | replay f v hpc hrecord => cases hg.symm.trans hrecord
  | replayed f v hpc | execute f hpc | fail f hpc | record f job hpc | mismatch f job hpc =>
    obtain hstart | ⟨f', hclaim⟩ := h.pc i
    · cases hpc.symm.trans hstart
    · cases hpc.symm.trans hclaim

omit [DecidableEq ι] in
theorem Waiting.pc_ne_done (h : Waiting jobId row₀ s) (i : ι) (ending : Ending D) :
    s.pc i ≠ .done ending := by
  intro hdone
  obtain hstart | ⟨f, hclaim⟩ := h.pc i
  · cases hdone.symm.trans hstart
  · cases hdone.symm.trans hclaim

omit [DecidableEq ι] in
theorem Waiting.not_mem_executed (h : Waiting jobId row₀ s) (e : ι × Job D) : e ∉ s.executed := by
  rw [h.executed]
  exact List.not_mem_nil

/-- Where every call waits, none has ended. -/
theorem Waiting.writeOnce (h : Waiting jobId row₀ s) :
    WriteOnce equal column digests jobId completes s where
  once := by simp [h.executed]
  answered i ending hpc := absurd hpc (h.pc_ne_done i ending)
  executor j job hjob := absurd hjob (h.not_mem_executed _)
  stored j job hjob := absurd hjob (h.not_mem_executed _)

/-! ### Runs -/

/-- Between any two moments of a run the job is completed once and keeps its result. -/
def CompletedOnce (equal : D → D → Bool) (column : PayloadColumn D) (digests : Digests C D)
    (jobId : String) (completes : ι → CompleteCall D) (jobs : DurableTable D)
    (records : Store (CachedResult D)) : Prop :=
  ∀ pre mid s t,
    exec (callStep equal column digests (completeCalls jobId completes))
      (beforeCompletion jobs records) pre = some s →
    exec (callStep equal column digests (completeCalls jobId completes)) s mid = some t →
      WriteOnce equal column digests jobId completes t ∧ ResultKept jobId s.jobs t.jobs

omit [DecidableEq ι] in
/-- Before the first call. -/
theorem completion_start (hrow : jobs.lookup jobId = some row₀)
    (hfree : records (completionKey jobId) = none) :
    Completion column digests jobId completes row₀ (beforeCompletion jobs records) where
  serial := .of_start (fun _ => rfl) rfl
  written := by
    refine ⟨fun _ => hrow, fun j job hjob => absurd hjob List.not_mem_nil, fun f v hv => ?_⟩
    cases hfree.symm.trans hv
  call i := by constructor <;> simp [beforeCompletion]

/-- Where the guards agree, every run completes the job once. -/
theorem GuardsAgree.completedOnce (h : GuardsAgree equal column jobId completes records)
    (hrow : jobs.lookup jobId = some row₀) (hopen : row₀.jobStatus ≠ .succeeded)
    (hdigestible : Digestible column digests completes) :
    CompletedOnce equal column digests jobId completes jobs records := by
  intro pre mid s t hs ht
  cases hrecord : records (completionKey jobId) with
  | none =>
    have hagree := h.compared hrecord
    have hinv : Completion column digests jobId completes row₀ s :=
      exec_invariant _ (fun _ _ _ hu hv => hu.step hopen hdigestible hagree (.of_callStep hv))
        (completion_start hrow hrecord) hs
    obtain ⟨hinv', hsub⟩ : Completion column digests jobId completes row₀ t ∧
        s.executed ⊆ t.executed := by
      refine exec_invariant (fun u => Completion column digests jobId completes row₀ u ∧
        s.executed ⊆ u.executed) ?_ ⟨hinv, List.Subset.refl _⟩ ht
      rintro u a v ⟨hu, hsub⟩ hv
      have hmove := CallMove.of_callStep hv
      have heffect := hmove.effect hu.serial hu.written.nothingVanished
      exact ⟨hu.step hopen hdigestible hagree hmove,
        List.Subset.trans hsub heffect.executed_subset⟩
    exact ⟨hinv'.writeOnce hdigestible.digest, hinv.resultKept hinv' hsub hopen⟩
  | some record =>
    have hclaimed (i : ι) : ∃ f, records (completionKey jobId) = some (.inProgress f) := by
      cases record with
      | inProgress f => exact ⟨f, hrecord⟩
      | completed f v => exact absurd hrecord (h.unrecorded i f v)
    have hstart : Waiting jobId row₀ (beforeCompletion jobs records : SharedJobs ι Unit D) :=
      ⟨hrow, rfl, fun _ => .inl rfl, hclaimed⟩
    have hstep (u : SharedJobs ι Unit D) (a : ι × Moment) (v : SharedJobs ι Unit D)
        (hu : Waiting jobId row₀ u)
        (hv : callStep equal column digests (completeCalls jobId completes) u a = some v) :
        Waiting jobId row₀ v := hu.step hopen hdigestible.digest (.of_callStep hv)
    have hinv := exec_invariant _ hstep hstart hs
    have hinv' := exec_invariant _ hstep hinv ht
    refine ⟨hinv'.writeOnce, fun row hrow' hsucceeded => ?_⟩
    obtain rfl := Option.some.inj (hinv.row.symm.trans hrow')
    exact absurd hsucceeded hopen

/-! ### Runs that need the condition -/

/-- The first block of a call on a job that has not succeeded. -/
theorem move_completion_start (hpc : s.pc i = .start) (hrow : s.jobs.lookup jobId = some row)
    (hopen : row.jobStatus ≠ .succeeded) {f : String}
    (hf : digests.result (completes i).result = .ok f) (moment : Moment) :
    CallMove equal column digests (completeCalls jobId completes) s i moment
      (s.goto i (.claim f)) := by
  refine .start hpc _ _ ((startBlock_completeJob hrow hf _).trans ?_)
  rw [if_neg hopen]

/-- With a completed record, a call ends and nothing is completed. -/
theorem unrecorded_of_writeOnce (hrow : jobs.lookup jobId = some row₀)
    (hopen : row₀.jobStatus ≠ .succeeded) (hdigestible : Digestible column digests completes)
    (h : ∀ t, Reachable (callStep equal column digests (completeCalls jobId completes))
      (beforeCompletion jobs records) t → WriteOnce equal column digests jobId completes t)
    (i : ι) (f : String) (v : CachedResult D) :
    records (completionKey jobId) ≠ some (.completed f v) := by
  intro hv
  obtain ⟨g, hg⟩ := hdigestible.digest i
  let s : SharedJobs ι Unit D := (beforeCompletion jobs records).goto i (.claim g)
  have hs : Reachable (callStep equal column digests (completeCalls jobId completes))
      (beforeCompletion jobs records) s :=
    (Reachable.refl _).tail (move_completion_start rfl hrow hopen hg laterMoment).callStep_eq
  have hpc : s.pc i = .claim g := Function.update_self _ _ _
  have hnever {t : SharedJobs ι Unit D} {ending : Ending D} (ht : t.executed = [])
      (hdone : t.pc i = .done ending) : ¬ WriteOnce equal column digests jobId completes t := by
    intro hwrite
    obtain ⟨j, job, result, hexecuted, -⟩ := hwrite.answered i ending hdone
    cases ht.symm.trans hexecuted
  by_cases hfg : f = g
  · subst hfg
    have hreplay : CallMove equal column digests (completeCalls jobId completes) s i laterMoment
        _ := .replay f v hpc hv
    have hreply : (completeCalls jobId completes i : StoreCall Unit C D).request.replayed
        (JobRepository.repository column laterMoment) v jobs = (.job row₀.toJob, jobs) := by
      simp only [completeCalls, Request.replayed, JobRepository.repository, JobRepository.get, hrow]
    have hreplayed : CallMove equal column digests (completeCalls jobId completes)
        (s.goto i (.replay f v)) i laterMoment _ :=
      .replayed f v (Function.update_self _ _ _) _ _ hreply
    exact hnever rfl (Function.update_self _ _ _)
      (h _ ((hs.tail hreplay.callStep_eq).tail hreplayed.callStep_eq))
  · have hconflict : CallMove equal column digests (completeCalls jobId completes) s i laterMoment
        _ := .conflict g f v hpc hv hfg
    exact hnever rfl (Function.update_self _ _ _) (h _ (hs.tail hconflict.callStep_eq))

/-- One call completes the job, and another looks at it before the first has ended. -/
theorem compared_of_writeOnce (hrow : jobs.lookup jobId = some row₀)
    (hopen : row₀.jobStatus ≠ .succeeded) (hdigestible : Digestible column digests completes)
    (h : ∀ t, Reachable (callStep equal column digests (completeCalls jobId completes))
      (beforeCompletion jobs records) t → WriteOnce equal column digests jobId completes t)
    (hfree : records (completionKey jobId) = none) (hij : i ≠ j) {stored : D}
    (hstored : column.store (completes j).result = .ok stored) :
    equal stored (completes i).result = true ↔ (completes i).result = (completes j).result := by
  obtain ⟨f, hf⟩ := hdigestible.digest i
  obtain ⟨g, hg⟩ := hdigestible.digest j
  obtain ⟨row, jobs', hcomplete, hrow', hstatus, hpayload⟩ :=
    complete_spec hrow hstored laterMoment (completes j).progressMessage
  let s₁ : SharedJobs ι Unit D := (beforeCompletion jobs records).goto j (.claim g)
  have hclaim : CallMove equal column digests (completeCalls jobId completes) s₁ j laterMoment _ :=
    .claim g (Function.update_self _ _ _) hfree
  let s₂ : SharedJobs ι Unit D := (s₁.setRecord () (completionKey jobId) (.inProgress g)).goto j
    (.execute g)
  have hexecute : CallMove equal column digests (completeCalls jobId completes) s₂ j laterMoment
      (((s₂.setJobs jobs').addExecuted j row.toJob).goto j (.record g row.toJob)) :=
    .execute g (Function.update_self _ _ _) row.toJob jobs' hcomplete
  let s₃ : SharedJobs ι Unit D :=
    ((s₂.setJobs jobs').addExecuted j row.toJob).goto j (.record g row.toJob)
  have hpc : s₃.pc i = .start := by
    simp [s₃, s₂, s₁, Function.update_of_ne hij, beforeCompletion]
  let result : IdempotentJobResult D :=
    Request.alreadyCompleted equal row.toJob (completes i).result
  have hlook : CallMove equal column digests (completeCalls jobId completes) s₃ i laterMoment
      ((s₃.setJobs jobs').goto i (.done (.ok result))) := by
    refine .start hpc _ _ ((startBlock_completeJob hrow' hf _).trans ?_)
    rw [if_pos hstatus]
  have hwrite := h _ (((((Reachable.refl _).tail
    (move_completion_start rfl hrow hopen hg laterMoment).callStep_eq).tail
      hclaim.callStep_eq).tail hexecute.callStep_eq).tail hlook.callStep_eq)
  obtain ⟨j', job, result', hexecuted, hending, hsame, hdiffers⟩ :=
    hwrite.answered i (.ok result) (Function.update_self _ _ _)
  obtain ⟨rfl, -⟩ := Prod.mk.inj (List.cons.inj hexecuted).1
  obtain rfl := Except.ok.inj hending
  have houtcome : result.outcome =
      if equal stored (completes i).result = true then .replayed else .conflict := by
    simp only [result, Request.alreadyCompleted, DurableRow.toJob, hpayload, Option.any_some]
    split_ifs <;> rfl
  rw [houtcome] at hsame hdiffers
  constructor
  · intro hequal
    by_contra hne
    rw [if_pos hequal] at hdiffers
    cases hdiffers hne
  · intro heq
    by_contra hequal
    rw [if_neg hequal] at hsame
    obtain hsame | hsame := hsame heq <;> cases hsame

/-- **When a job is completed once.** For a job that has not succeeded and any number of calls of
`complete_job` that do not raise and whose results the digests tell apart, in every run the job is
completed once, every call that ends says so and the result stays, exactly if no completion of the
job is on record and, unless one is claimed, Python compares the results as the digests do. -/
theorem write_once_iff (hrow : jobs.lookup jobId = some row₀) (hopen : row₀.jobStatus ≠ .succeeded)
    (hdigestible : Digestible column digests completes) :
    CompletedOnce equal column digests jobId completes jobs records ↔
      GuardsAgree equal column jobId completes records := by
  refine ⟨fun h => ?_, fun h => h.completedOnce hrow hopen hdigestible⟩
  have hreach (t : SharedJobs ι Unit D)
      (ht : Reachable (callStep equal column digests (completeCalls jobId completes))
        (beforeCompletion jobs records) t) : WriteOnce equal column digests jobId completes t := by
    obtain ⟨labels, hlabels⟩ := ht
    exact (h labels [] t t hlabels rfl).1
  exact ⟨unrecorded_of_writeOnce hrow hopen hdigestible hreach,
    fun hfree _ _ _ hij hstored =>
      compared_of_writeOnce hrow hopen hdigestible hreach hfree hij hstored⟩

/-! ### Results that only Python takes for one -/

/-- The number that a value counts as in a comparison. -/
def numberOf : Scalar → Option ℚ
  | .bool b => some (if b then 1 else 0)
  | .num q => some q
  | _ => none

/-- `==` on the results `{"rows": value}`. -/
def rowsEqual (v w : Scalar) : Bool :=
  match numberOf v, numberOf w with
  | some p, some q => p = q
  | _, _ => v = w

/-- The texts of the values, as digests. -/
def rowsDigests : Digests String Scalar where
  jobRequest spec _ := .ok spec.sessionId
  result
    | .null => .ok "null"
    | .bool b => .ok (if b then "true" else "false")
    | .num q => .ok (toString q)
    | .str s => .ok s

/-- A column that stores every value as it is. -/
def rowsColumn : PayloadColumn Scalar :=
  { store := .ok, truthy := fun _ => true, responseId := fun _ => "", summary := fun _ => "" }

/-- A table with one job, which is running. -/
def runningTable : DurableTable Scalar :=
  { rows :=
      [{ jobId := "job_1"
         sessionId := "chat_s_1"
         officeId := "memphis"
         brokerId := "broker-123"
         jobKind := "analytics_refresh"
         jobStatus := .running
         progressMessage := "Job running"
         retryAllowed := false
         pendingResponseId := none
         completedResponseId := none
         preparedResultPayload := none
         resultPayload := none
         jobPollToken := some "token"
         completionRefreshesRemaining := some 2
         artifactKey := none
         artifactMimeType := none
         artifactSizeBytes := none
         createdAt := "2026-03-16T09:00:00Z"
         updatedAt := "2026-03-16T09:00:00Z"
         completedAt := none }]
    nodup := List.nodup_singleton _ }

/-- Two calls, with these results. -/
def completesWith (v w : Scalar) (first : Bool) : CompleteCall Scalar :=
  { result := if first then v else w, progressMessage := "Done." }

/-- Two calls with different numbers. -/
theorem write_once_iff_numbers :
    CompletedOnce rowsEqual rowsColumn rowsDigests "job_1" (completesWith (.num 1) (.num 2))
      runningTable (fun _ => none) := by
  refine (write_once_iff rfl (by decide) ⟨fun i => ?_, ?_, fun i => ⟨_, rfl⟩⟩).mpr ⟨by simp, ?_⟩
  · cases i <;> exact ⟨_, rfl⟩
  · decide
  · rintro - i j stored hij ⟨rfl⟩
    revert i j
    decide

/-- The blocks of the calls that these flags name. -/
def blocksOf (calls : List Bool) : List (Bool × Moment) := calls.map (·, laterMoment)

/-- **The guards disagree.** A call completes the job with `{"rows": 1}`. Another brings
`{"rows": True}`: it returns `replayed` if it looks at the job afterwards, and `conflict` if it has
looked before. -/
theorem guards_disagree :
    (∃ t result, exec (callStep rowsEqual rowsColumn rowsDigests
        (completeCalls "job_1" (completesWith (.num 1) (.bool true))))
          (beforeCompletion runningTable fun _ => none)
          (blocksOf [true, true, true, true, false]) = some t ∧
        t.pc false = .done (.ok result) ∧ result.outcome = .replayed) ∧
      (∃ t result, exec (callStep rowsEqual rowsColumn rowsDigests
        (completeCalls "job_1" (completesWith (.num 1) (.bool true))))
          (beforeCompletion runningTable fun _ => none)
          (blocksOf [false, true, true, true, true, false]) = some t ∧
        t.pc false = .done (.ok result) ∧ result.outcome = .conflict) ∧
      ¬ CompletedOnce rowsEqual rowsColumn rowsDigests "job_1"
        (completesWith (.num 1) (.bool true)) runningTable (fun _ => none) := by
  refine ⟨⟨_, _, rfl, rfl, rfl⟩, ⟨_, _, rfl, rfl, rfl⟩, fun h => ?_⟩
  obtain ⟨hwrite, -⟩ := h (blocksOf [true, true, true, true, false]) [] _ _ rfl rfl
  obtain ⟨j, job, result, hexecuted, hending, -, hdiffers⟩ := hwrite.answered false _ rfl
  obtain ⟨rfl, -⟩ := Prod.mk.inj (List.cons.inj hexecuted).1
  obtain rfl := Except.ok.inj hending
  cases hdiffers (by decide)

end Meridian.Jobs
