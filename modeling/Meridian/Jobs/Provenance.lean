import Meridian.Jobs.Lifecycle

/-!
# Where the columns of a job come from

What a call of `InMemoryJobStore` can do to one job, said once, and what follows for the columns
that a later reader relies on: a payload was given with a call or was there, and so was the metadata
of an autonomy run.

## Main definitions

* `Meridian.Jobs.JobChange`: what a call does to a job that is there.
* `Meridian.Jobs.JobRow.payloads`, `Meridian.Jobs.JobCall.payloads`: the payloads of a row and of a
  call.

## Main results

* `Meridian.Jobs.callJob_cases`: a job after a call is new, or was changed by it or left alone.
* `Meridian.Jobs.lookup_callJob_of_ne`: a call leaves every other job alone.
* `Meridian.Jobs.callJob_payloads`, `Meridian.Jobs.exec_payloads`: no other payloads turn up.
* `Meridian.Jobs.exec_outcome`: a job that has ended keeps its outcome.
* `Meridian.Jobs.isSome_run_refreshJob`: when a refresh does not raise.
-/

namespace Meridian.Jobs

open Foundations

variable {D M : Type*} {config : Config D} {reader : PayloadReader D} {row row' : JobRow D}
  {now : String} {jobs jobs' : JobTable D M} {job job' : GenerationJob D M} {jobId : String}

/-- What a call at a given time does to a job that it is about. -/
inductive JobChange (config : Config D) (now : String) (job : GenerationJob D M) :
    JobCall D M → GenerationJob D M → Prop
  | prepare (result : D) : JobChange config now job (.prepareResult job.jobId result)
      { job with preparedResultPayload := some result, updatedAt := now }
  | bind (pendingResponseId : String) :
      JobChange config now job (.bindPendingResponse job.jobId pendingResponseId)
        { job with pendingResponseId := some pendingResponseId, updatedAt := now }
  | operate (op : Op D) (row : JobRow D) (hrun : op.run config now job.toJobRow = some row) :
      JobChange config now job (.operate job.jobId op) { job with toJobRow := row }
  | update (metadata : M) (triggerCompletion : Bool) :
      JobChange config now job (.updateAutonomyMetadata job.jobId metadata triggerCompletion)
        { job with
          autonomyMetadata := some metadata
          updatedAt := now
          completionRefreshesRemaining :=
            if triggerCompletion then some 0 else job.completionRefreshesRemaining }

/-- A job after a call is new, or was there and has been changed by the call or left alone. -/
theorem callJob_cases {call : JobCall D M}
    (hjob : (callJob config jobs now call).1.lookup jobId = some job) :
    (∃ token new, call = .createJob jobId token new ∧ job = new.row jobId token now) ∨
      ∃ job₀, jobs.lookup jobId = some job₀ ∧
        (job = job₀ ∨ JobChange config now job₀ call job) := by
  cases call with
  | createJob id token new =>
    simp only [callJob] at hjob
    split at hjob
    · next hinsert =>
      rw [KeyedTable.lookup_insert? hinsert] at hjob
      split_ifs at hjob with hid
      · obtain rfl := Option.some.inj hjob
        exact .inl ⟨token, new, by rw [hid]; rfl, by rw [hid]; rfl⟩
      · exact .inr ⟨job, hjob, .inl rfl⟩
    · exact .inr ⟨job, hjob, .inl rfl⟩
  | prepareResult id result =>
    rw [callJob, KeyedTable.lookup_modify] at hjob
    split_ifs at hjob with hid
    · obtain ⟨job₀, hlookup, rfl⟩ := Option.map_eq_some_iff.mp hjob
      obtain rfl : job₀.jobId = id := (KeyedTable.key_of_lookup hlookup).trans hid
      exact .inr ⟨job₀, hlookup, .inr (.prepare result)⟩
    · exact .inr ⟨job, hjob, .inl rfl⟩
  | bindPendingResponse id pendingResponseId =>
    rw [callJob, KeyedTable.lookup_modify] at hjob
    split_ifs at hjob with hid
    · obtain ⟨job₀, hlookup, rfl⟩ := Option.map_eq_some_iff.mp hjob
      obtain rfl : job₀.jobId = id := (KeyedTable.key_of_lookup hlookup).trans hid
      exact .inr ⟨job₀, hlookup, .inr (.bind pendingResponseId)⟩
    · exact .inr ⟨job, hjob, .inl rfl⟩
  | operate id op =>
    simp only [callJob] at hjob
    split at hjob
    · exact .inr ⟨job, hjob, .inl rfl⟩
    · next job₁ hjob₁ =>
      split at hjob
      · exact .inr ⟨job, hjob, .inl rfl⟩
      · next row hrun =>
        rw [KeyedTable.lookup_modify] at hjob
        split_ifs at hjob with hid
        · obtain ⟨job₀, hlookup, rfl⟩ := Option.map_eq_some_iff.mp hjob
          obtain rfl := Option.some.inj ((hid ▸ hlookup).symm.trans hjob₁)
          obtain rfl : job₀.jobId = id := KeyedTable.key_of_lookup hjob₁
          exact .inr ⟨job₀, hlookup, .inr (.operate op row hrun)⟩
        · exact .inr ⟨job, hjob, .inl rfl⟩
  | updateAutonomyMetadata id metadata triggerCompletion =>
    rw [callJob, KeyedTable.lookup_modify] at hjob
    by_cases hid : jobId = id
    · rw [if_pos hid] at hjob
      obtain ⟨job₀, hlookup, rfl⟩ := Option.map_eq_some_iff.mp hjob
      obtain rfl : job₀.jobId = id := (KeyedTable.key_of_lookup hlookup).trans hid
      exact .inr ⟨job₀, hlookup, .inr (.update metadata triggerCompletion)⟩
    · rw [if_neg hid] at hjob
      exact .inr ⟨job, hjob, .inl rfl⟩
  | listJobs sessionId status offset limit => exact .inr ⟨job, hjob, .inl rfl⟩

/-- The job that a call is about, if it is about one. -/
def JobCall.jobId? : JobCall D M → Option String
  | createJob jobId _ _ => some jobId
  | prepareResult jobId _ => some jobId
  | bindPendingResponse jobId _ => some jobId
  | operate jobId _ => some jobId
  | updateAutonomyMetadata jobId _ _ => some jobId
  | listJobs .. => none

/-- A call leaves every other job alone. -/
theorem lookup_callJob_of_ne {call : JobCall D M} (h : call.jobId? ≠ some jobId) :
    (callJob config jobs now call).1.lookup jobId = jobs.lookup jobId := by
  have hne {id : String} (hid : (some id : Option String) ≠ some jobId) : jobId ≠ id :=
    fun heq => hid (congrArg some heq.symm)
  cases call with
  | createJob id token new =>
    simp only [callJob]
    split
    · next hinsert => exact (KeyedTable.lookup_insert? hinsert).trans (if_neg (hne h))
    · rfl
  | prepareResult id result => rw [callJob, KeyedTable.lookup_modify, if_neg (hne h)]
  | bindPendingResponse id pendingResponseId =>
    rw [callJob, KeyedTable.lookup_modify, if_neg (hne h)]
  | operate id op =>
    simp only [callJob]
    split
    · rfl
    · split
      · rfl
      · rw [KeyedTable.lookup_modify, if_neg (hne h)]
  | updateAutonomyMetadata id metadata triggerCompletion =>
    rw [callJob, KeyedTable.lookup_modify, if_neg (hne h)]
  | listJobs sessionId status offset limit => rfl

/-- A creation leaves a job that is there alone. -/
theorem lookup_callJob_createJob {id token : String} {new : NewJob}
    (hjob : jobs.lookup jobId = some job) :
    (callJob config jobs now (.createJob id token new)).1.lookup jobId = some job := by
  simp only [callJob]
  split
  · next hinsert =>
    have hne : jobId ≠ id := by
      rintro rfl
      exact Option.some_ne_none job (hjob.symm.trans (KeyedTable.insert?_eq_some hinsert).1)
    exact (KeyedTable.lookup_insert? hinsert).trans ((if_neg hne).trans hjob)
  · exact hjob

/-! ### Payloads -/

/-- The payloads of a row, prepared or final. -/
def JobRow.payloads (row : JobRow D) : List D :=
  row.preparedResultPayload.toList ++ row.resultPayload.toList

/-- The payload that an operation is given. -/
def Op.payloads : Op D → List D
  | completeJob result _ => [result]
  | _ => []

/-- The payload that a call is given. -/
def JobCall.payloads : JobCall D M → List D
  | prepareResult _ result => [result]
  | operate _ op => op.payloads
  | _ => []

/-- A refresh only moves a payload. -/
theorem refreshBlock_payloads {job : JobRow D}
    (hrefresh : (refreshBlock config job now (some row)).1 = some row') :
    row'.payloads ⊆ row.payloads := by
  simp only [refreshBlock] at hrefresh
  split at hrefresh
  · obtain rfl := Option.some.inj hrefresh
    exact List.Subset.refl _
  · next prepared hprepared =>
    split_ifs at hrefresh
    · split at hrefresh
      · obtain rfl := Option.some.inj hrefresh
        exact List.Subset.refl _
      · obtain rfl := Option.some.inj hrefresh
        simp [JobRow.payloads, JobRow.completed, hprepared]
    · obtain rfl := Option.some.inj hrefresh
      exact List.Subset.refl _
    · obtain rfl := Option.some.inj hrefresh
      exact List.Subset.refl _

/-- An operation leaves payloads that were there or that it is given. -/
theorem Op.run_payloads {op : Op D} (hrun : op.run config now row = some row') :
    row'.payloads ⊆ row.payloads ++ op.payloads := by
  unfold Op.run at hrun
  split at hrun
  · cases hrun
  · next job hread =>
    obtain rfl := Option.some.inj hrun
    cases op with
    | completeJob result progressMessage =>
      simp only [Op.write]
      split
      · intro result' hresult'
        simp only [JobRow.payloads, JobRow.completed, Op.payloads, List.mem_append,
          Option.toList_some, List.mem_singleton] at hresult' ⊢
        tauto
      · exact List.subset_append_left _ _
    | _ => exact List.subset_append_left _ _
  · next job hread =>
    split at hrun
    · cases hrun
    · next row'' pc hne hblock =>
      have hrefresh : (refreshBlock config job now (some row)).1 = some row' := by
        rw [hblock]
        exact hrun
      exact List.Subset.trans (refreshBlock_payloads hrefresh) (List.subset_append_left _ _)
  · obtain rfl := Option.some.inj hrun
    exact List.subset_append_left _ _

theorem JobChange.payloads {call : JobCall D M} (h : JobChange config now job call job') :
    job'.payloads ⊆ job.payloads ++ call.payloads := by
  cases h with
  | prepare result =>
    intro result' hresult'
    simp only [JobRow.payloads, JobCall.payloads, List.mem_append, Option.toList_some,
      List.mem_singleton] at hresult' ⊢
    tauto
  | bind pendingResponseId => exact List.subset_append_left _ _
  | operate op row hrun => exact Op.run_payloads hrun
  | update metadata triggerCompletion => exact List.subset_append_left _ _

/-- **No other payloads turn up.** A payload of a job after a call was one of the job before, or was
given with the call. -/
theorem callJob_payloads {call : JobCall D M}
    (hjob : (callJob config jobs now call).1.lookup jobId = some job) {payload : D}
    (hpayload : payload ∈ job.payloads) :
    payload ∈ call.payloads ∨
      ∃ job₀, jobs.lookup jobId = some job₀ ∧ payload ∈ job₀.payloads := by
  rcases callJob_cases hjob with ⟨token, new, -, rfl⟩ | ⟨job₀, hlookup, rfl | hchange⟩
  · cases hpayload
  · exact .inr ⟨job, hlookup, hpayload⟩
  · rcases List.mem_append.mp (hchange.payloads hpayload) with hold | hnew
    · exact .inr ⟨job₀, hlookup, hold⟩
    · exact .inl hnew

/-- **No payload changes its job.** What a job has after some calls was given to this job by one of
them, or was there. -/
theorem exec_payloads {labels : List (String × JobCall D M)}
    (hexec : exec (jobStep config) jobs labels = some jobs') (hjob : jobs'.lookup jobId = some job)
    {payload : D} (hpayload : payload ∈ job.payloads) :
    (∃ l ∈ labels, l.2.jobId? = some jobId ∧ payload ∈ l.2.payloads) ∨
      ∃ job₀, jobs.lookup jobId = some job₀ ∧ payload ∈ job₀.payloads := by
  induction labels generalizing jobs with
  | nil =>
    obtain rfl := Option.some.inj hexec
    exact .inr ⟨job, hjob, hpayload⟩
  | cons l labels ih =>
    obtain ⟨jobs₁, hstep, hexec⟩ := exec_cons_eq_some.mp hexec
    obtain rfl := Option.some.inj hstep
    rcases ih hexec with ⟨l', hl', hgiven⟩ | ⟨job₁, hjob₁, hpayload₁⟩
    · exact .inl ⟨l', List.mem_cons_of_mem l hl', hgiven⟩
    · by_cases hid : l.2.jobId? = some jobId
      · rcases callJob_payloads hjob₁ hpayload₁ with hgiven | hold
        · exact .inl ⟨l, List.mem_cons_self, hid, hgiven⟩
        · exact .inr hold
      · rw [lookup_callJob_of_ne hid] at hjob₁
        exact .inr ⟨job₁, hjob₁, hpayload₁⟩

/-- Only one call writes the metadata of an autonomy run. -/
theorem callJob_autonomyMetadata {call : JobCall D M}
    (hcall : ∀ id metadata triggerCompletion,
      call ≠ .updateAutonomyMetadata id metadata triggerCompletion)
    (hjob : (callJob config jobs now call).1.lookup jobId = some job) :
    job.autonomyMetadata = none ∨ ∃ job₀, jobs.lookup jobId = some job₀ ∧
      job.autonomyMetadata = job₀.autonomyMetadata := by
  rcases callJob_cases hjob with ⟨token, new, -, rfl⟩ | ⟨job₀, hlookup, rfl | hchange⟩
  · exact .inl rfl
  · exact .inr ⟨job, hlookup, rfl⟩
  · refine .inr ⟨job₀, hlookup, ?_⟩
    cases hchange with
    | prepare result => rfl
    | bind pendingResponseId => rfl
    | operate op row hrun => rfl
    | update metadata triggerCompletion => exact absurd rfl (hcall _ _ _)

/-! ### Outcomes -/

theorem exec_tableConsistent {labels : List (String × JobCall D M)}
    (h : TableConsistent config.reader jobs)
    (hexec : exec (jobStep config) jobs labels = some jobs') :
    TableConsistent config.reader jobs' := by
  refine exec_invariant (TableConsistent config.reader) (fun s l t hs ht => ?_) h hexec
  obtain rfl := Option.some.inj ht
  exact hs.call

/-- A job that has ended keeps its outcome over any calls. -/
theorem exec_outcome {labels : List (String × JobCall D M)}
    (h : TableConsistent config.reader jobs)
    (hexec : exec (jobStep config) jobs labels = some jobs')
    (hjob : jobs.lookup jobId = some job) (hterminal : job.jobStatus.isTerminal = true) :
    ∃ job', jobs'.lookup jobId = some job' ∧ job'.outcome = job.outcome := by
  induction labels generalizing jobs job with
  | nil =>
    obtain rfl := Option.some.inj hexec
    exact ⟨job, hjob, rfl⟩
  | cons l labels ih =>
    obtain ⟨jobs₁, hstep, hexec⟩ := exec_cons_eq_some.mp hexec
    obtain rfl := Option.some.inj hstep
    obtain ⟨job₁, hjob₁, hfollows⟩ : ∃ job₁, (callJob config jobs l.1 l.2).1.lookup jobId =
        some job₁ ∧ job.Follows config.reader job₁.toJobRow :=
      callJob_follows hjob (h jobId job hjob)
    have houtcome := hfollows.outcome_eq hterminal
    have hterminal₁ : job₁.jobStatus.isTerminal = true := by
      rw [show job₁.jobStatus = job.jobStatus from congrArg Prod.fst houtcome]
      exact hterminal
    obtain ⟨job', hjob', heq⟩ := ih h.call hexec hjob₁ hterminal₁
    exact ⟨job', hjob', heq.trans houtcome⟩

/-! ### Calls that do not raise -/

/-- A refresh raises on a prepared result without a response id only. -/
theorem isSome_run_refreshJob (h : ∀ prepared ∈ row.preparedResultPayload,
    (config.reader.responseId prepared).isSome) : (Op.refreshJob.run config now row).isSome := by
  have hread : readBlock config .refreshJob (some row) =
      if row.jobStatus = .running then .refresh row else .done (.job (some row)) := rfl
  rw [Op.run, hread]
  split_ifs
  · cases hprepared : row.preparedResultPayload with
    | none =>
      simp only [refreshBlock, hprepared]
      rfl
    | some prepared =>
      obtain ⟨responseId, hid⟩ := Option.isSome_iff_exists.mp (h prepared hprepared)
      by_cases hzero : row.completionRefreshesRemaining.getD 0 = 0
      · by_cases hvalid : row.jobStatus.validateTransition .succeeded = true
        · simp only [refreshBlock, hprepared, hzero, hvalid, hid, if_true]
          rfl
        · simp only [refreshBlock, hprepared, hzero, hvalid, if_true]
          rfl
      · simp only [refreshBlock, hprepared, hzero, if_false]
        rfl
  · rfl

/-- A call of an operation that does not raise returns the job. -/
theorem exists_callJob_operate {op : Op D} (hjob : jobs.lookup jobId = some job)
    (hrun : (op.run config now job.toJobRow).isSome) :
    ∃ jobs' job', callJob config jobs now (.operate jobId op) = (jobs', .job (some job')) := by
  obtain ⟨row, hrow⟩ := Option.isSome_iff_exists.mp hrun
  refine ⟨jobs.modify jobId (fun job => { job with toJobRow := row }) fun _ => rfl,
    { job with toJobRow := row }, ?_⟩
  simp only [callJob, hjob, hrow, KeyedTable.lookup_modify, if_true, Option.map_some]

end Meridian.Jobs
