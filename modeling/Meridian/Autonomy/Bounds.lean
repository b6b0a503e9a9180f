import Meridian.Autonomy.Polls

/-!
# How many polls an autonomy run takes

A poll of a job with an autonomy run stores the metadata of its step, unless the step raises: then
the exception is swallowed, nothing is stored, and the next poll takes the same step again. The step
budget therefore bounds the polls of a run only as long as its checkpoint can be read.

## Main definitions

* `Meridian.Autonomy.polled`: what a poll does to its job.
* `Meridian.Autonomy.Completable`: the refresh of a poll can complete the job.
* `Meridian.Autonomy.EndsWithin`: the condition under which polls end a job.

## Main results

* `Meridian.Autonomy.lookup_getJobs`: the job after a sequence of polls.
* `Meridian.Autonomy.ends_iff`: exactly when a sequence of polls ends the job.
* `Meridian.Autonomy.polls_bounded_iff`: exactly when one poll more than the budget does.
* `Meridian.Autonomy.unreadable_run_unbounded`: a job that no number of polls ends.
-/

namespace Meridian.Autonomy

open Foundations Controller Jobs

variable {F : Type} {D : Type*} {service : ServiceConfig} {py : PythonText F} {config : Config D}

/-! ### The job of a poll -/

/-- The row after an operation, which leaves it as it is where it raises. -/
def operated (config : Config D) (op : Op D) (now : String) (row : JobRow D) : JobRow D :=
  (op.run config now row).getD row

/-- The job after `update_autonomy_metadata`. -/
def storedMetadata (poll : Poll F) (metadata : AutonomyJobMetadata) (outcome : StepOutcome)
    (job : GenerationJob D (Loaded F)) : GenerationJob D (Loaded F) :=
  { job with
    autonomyMetadata := some metadata.toDict
    updatedAt := poll.updatedAt
    completionRefreshesRemaining :=
      if outcome.completes then some 0 else job.completionRefreshesRemaining }

/-- The job after a step: the metadata is stored, and the job fails with the step. -/
def stepped (config : Config D) (poll : Poll F) (metadata : AutonomyJobMetadata)
    (outcome : StepOutcome) (job : GenerationJob D (Loaded F)) : GenerationJob D (Loaded F) :=
  match outcome.errorMessage.filter (· ≠ "") with
  | none => storedMetadata poll metadata outcome job
  | some errorMessage =>
    if outcome.isTerminal then
      { storedMetadata poll metadata outcome job with
        toJobRow := operated config (.failJob errorMessage (some "Bounded autonomy failed."))
          poll.failedAt (storedMetadata poll metadata outcome job).toJobRow }
    else storedMetadata poll metadata outcome job

/-- The job after a poll, before its refresh. -/
def advanced (service : ServiceConfig) (py : PythonText F) (config : Config D) (poll : Poll F)
    (job : GenerationJob D (Loaded F)) : GenerationJob D (Loaded F) :=
  match pollStep service py poll job with
  | none => job
  | some (metadata, outcome) => stepped config poll metadata outcome job

/-- The job after a poll. -/
def polled (service : ServiceConfig) (py : PythonText F) (config : Config D)
    (job : GenerationJob D (Loaded F)) (poll : Poll F) : GenerationJob D (Loaded F) :=
  { advanced service py config poll job with
    toJobRow := operated config .refreshJob poll.refreshedAt
      (advanced service py config poll job).toJobRow }

/-- The table after a sequence of polls. -/
def getJobs (service : ServiceConfig) (py : PythonText F) (config : Config D)
    (jobs : JobTable D (Loaded F)) (polls : List (Poll F)) : JobTable D (Loaded F) :=
  polls.foldl (getJob service py config) jobs

variable {jobs : JobTable D (Loaded F)} {job : GenerationJob D (Loaded F)} {poll : Poll F}
  {polls : List (Poll F)} {jobId now : String} {metadata : AutonomyJobMetadata}
  {outcome : StepOutcome}

/-- The polls are a run of the job events. -/
theorem exec_polls : exec (eventStep service py config) jobs (polls.map .poll) =
    some (getJobs service py config jobs polls) := by
  induction polls generalizing jobs with
  | nil => rfl
  | cons poll polls ih => exact ih

theorem lookup_operate {op : Op D} (h : jobs.lookup jobId = some job) :
    (callJob config jobs now (.operate jobId op)).1.lookup jobId =
      some { job with toJobRow := operated config op now job.toJobRow } := by
  rw [callJob, h, operated]
  cases hrun : op.run config now job.toJobRow with
  | none => simp [hrun, h]
  | some row => simp [hrun, KeyedTable.lookup_modify, h]

theorem lookup_afterStep (h : jobs.lookup poll.jobId = some job) :
    (afterStep config jobs poll metadata outcome).lookup poll.jobId =
      some (stepped config poll metadata outcome job) := by
  have hstored : (callJob config jobs poll.updatedAt (.updateAutonomyMetadata poll.jobId
      metadata.toDict outcome.completes)).1.lookup poll.jobId =
        some (storedMetadata poll metadata outcome job) := by
    rw [callJob, KeyedTable.lookup_modify, if_pos rfl, h]
    rfl
  cases hmessage : outcome.errorMessage.filter (· ≠ "") with
  | none =>
    simp only [afterStep, stepped, hmessage]
    exact hstored
  | some errorMessage =>
    simp only [afterStep, stepped, hmessage]
    split_ifs
    · exact lookup_operate hstored
    · exact hstored

/-- What a poll does to its job. -/
theorem lookup_getJob (h : jobs.lookup poll.jobId = some job)
    (htoken : job.jobPollToken = poll.jobPollToken) :
    (getJob service py config jobs poll).lookup poll.jobId =
      some (polled service py config job poll) := by
  have hfound : jobByPollToken jobs poll = some job := by
    simp [jobByPollToken, h, htoken]
  cases hstep : pollStep service py poll job with
  | none =>
    simp only [getJob, hfound, polled, advanced, hstep]
    exact lookup_operate h
  | some step =>
    simp only [getJob, hfound, polled, advanced, hstep]
    exact lookup_operate (lookup_afterStep h)

theorem jobPollToken_polled :
    (polled service py config job poll).jobPollToken = job.jobPollToken := by
  have hstepped (metadata : AutonomyJobMetadata) (outcome : StepOutcome) :
      (stepped config poll metadata outcome job).jobPollToken = job.jobPollToken := by
    unfold stepped
    split
    · rfl
    · split_ifs <;> rfl
  have hadvanced : (advanced service py config poll job).jobPollToken = job.jobPollToken := by
    unfold advanced
    split
    · rfl
    · exact hstepped _ _
  exact hadvanced

/-- The job after a sequence of polls with its id and token. -/
theorem lookup_getJobs (h : jobs.lookup jobId = some job)
    (hpolls : ∀ poll ∈ polls, poll.jobId = jobId ∧ poll.jobPollToken = job.jobPollToken) :
    (getJobs service py config jobs polls).lookup jobId =
      some (polls.foldl (polled service py config) job) := by
  induction polls generalizing jobs job with
  | nil => exact h
  | cons poll polls ih =>
    obtain ⟨⟨rfl, htoken⟩, hpolls⟩ := List.forall_mem_cons.mp hpolls
    refine ih (lookup_getJob h htoken.symm) fun poll' hmem => ?_
    rw [jobPollToken_polled]
    exact hpolls poll' hmem

/-! ### Refreshes -/

variable {row : JobRow D}

/-- The job runs with a prepared result that has a response id. -/
def Completable (config : Config D) (row : JobRow D) : Prop :=
  row.jobStatus = .running ∧
    ∃ prepared responseId, row.preparedResultPayload = some prepared ∧
      config.reader.responseId prepared = some responseId

/-- The refresh counter, where no counter counts as zero. -/
def counter (row : JobRow D) : ℤ := row.completionRefreshesRemaining.getD 0

/-- A refresh of a job that does not run. -/
theorem run_refreshJob_of_not_running (h : row.jobStatus ≠ .running) :
    Op.run config .refreshJob now row = some row := by
  simp [Op.run, readBlock, Op.target, h]

/-- A refresh of a job that runs; without a response id it raises. -/
theorem run_refreshJob_of_running (h : row.jobStatus = .running) :
    Op.run config .refreshJob now row =
      match row.preparedResultPayload with
      | none => some row
      | some prepared =>
        if counter row = 0 then
          (config.reader.responseId prepared).map fun responseId =>
            row.completed prepared responseId (config.reader.summary prepared) now
        else
          some { row with
            completionRefreshesRemaining := some (counter row - 1)
            updatedAt := now } := by
  have hvalid : row.jobStatus.validateTransition .succeeded = true := by
    rw [h]
    decide
  simp only [Op.run, readBlock, Op.target, h, if_true, refreshBlock, counter]
  cases row.preparedResultPayload with
  | none => rfl
  | some prepared =>
    dsimp only
    rw [← h, if_pos hvalid]
    split_ifs
    · cases config.reader.responseId prepared <;> rfl
    · rfl

/-- A refresh changes nothing on a job that does not run. -/
theorem refreshJob_of_not_running (h : row.jobStatus ≠ .running) :
    operated config .refreshJob now row = row := by
  rw [operated, run_refreshJob_of_not_running h]
  rfl

/-- What a refresh does to a running job. -/
theorem refreshJob_of_running (h : row.jobStatus = .running) :
    operated config .refreshJob now row =
      match row.preparedResultPayload with
      | none => row
      | some prepared =>
        if counter row = 0 then
          match config.reader.responseId prepared with
          | none => row
          | some responseId =>
            row.completed prepared responseId (config.reader.summary prepared) now
        else
          { row with
            completionRefreshesRemaining := some (counter row - 1)
            updatedAt := now } := by
  rw [operated, run_refreshJob_of_running h]
  cases row.preparedResultPayload with
  | none => rfl
  | some prepared =>
    dsimp only
    split_ifs
    · cases config.reader.responseId prepared <;> rfl
    · rfl

/-- A refresh completes a job that can be completed and whose counter is zero. -/
theorem refreshJob_of_counter_zero (h : Completable config row) (hzero : counter row = 0) :
    (operated config .refreshJob now row).jobStatus = .succeeded := by
  obtain ⟨hrunning, prepared, responseId, hprepared, hid⟩ := h
  simp only [refreshJob_of_running hrunning, hprepared, hzero, if_true, hid, JobRow.completed]

/-- A refresh counts down a job that can be completed. -/
theorem refreshJob_of_counter_ne_zero (h : Completable config row) (hne : counter row ≠ 0) :
    operated config .refreshJob now row =
      { row with completionRefreshesRemaining := some (counter row - 1), updatedAt := now } := by
  obtain ⟨hrunning, prepared, responseId, hprepared, hid⟩ := h
  simp only [refreshJob_of_running hrunning, hprepared, hne, if_false]

/-- A refresh keeps the status and the prepared result of a job that cannot be completed. -/
theorem refreshJob_of_not_completable (h : ¬ Completable config row) (now : String) :
    (operated config .refreshJob now row).jobStatus = row.jobStatus ∧
      (operated config .refreshJob now row).preparedResultPayload = row.preparedResultPayload := by
  by_cases hrunning : row.jobStatus = .running
  · rw [refreshJob_of_running hrunning]
    cases hprepared : row.preparedResultPayload with
    | none => exact ⟨rfl, hprepared⟩
    | some prepared =>
      dsimp only
      split_ifs
      · cases hid : config.reader.responseId prepared with
        | none => exact ⟨rfl, hprepared⟩
        | some responseId => exact absurd ⟨hrunning, prepared, responseId, hprepared, hid⟩ h
      · exact ⟨rfl, rfl⟩
  · rw [refreshJob_of_not_running hrunning]
    exact ⟨rfl, rfl⟩

/-! ### One poll -/

/-- The load of the file raises what is not caught. -/
def raises (py : PythonText F) (file : LoadedFile F) : Bool :=
  match loadCheckpoint py file with
  | .error _ => true
  | .ok _ => false

/-- The load of the file gives no checkpoint. -/
def loadsNone (py : PythonText F) (file : LoadedFile F) : Bool :=
  match loadCheckpoint py file with
  | .ok none => true
  | _ => false

/-- The job has not ended, and its metadata is of the step `index` of `budget` steps. -/
structure Runs (py : PythonText F) (budget index : ℤ) (job : GenerationJob D (Loaded F)) :
    Prop where
  transient : job.jobStatus.isTerminal = false
  decoded : ∃ payload metadata, job.autonomyMetadata = some payload ∧
    metadataFromDict py payload = .ok metadata ∧ metadata.stepIndex = index ∧
    metadata.stepBudget = budget

variable (service py config) in
/-- What a poll can do to a job of an autonomy run: it ends it, or the step raises and the job is
refreshed, or the step is taken and the job cannot be completed. -/
inductive Polled (budget index : ℤ) (job : GenerationJob D (Loaded F)) (poll : Poll F) : Prop
  | ends (hends : (polled service py config job poll).jobStatus.isTerminal = true)
      (hwhy : budget ≤ index ∨ loadsNone py poll.file = true ∨
        Completable config job.toJobRow ∧
          (raises py poll.file = true → counter job.toJobRow = 0))
  | waits (hsteps : index < budget) (hraises : raises py poll.file = true)
      (hruns : Runs py budget index (polled service py config job poll))
      (hcompletable : Completable config (polled service py config job poll).toJobRow ↔
        Completable config job.toJobRow)
      (hcounter : Completable config job.toJobRow → counter job.toJobRow ≠ 0 ∧
        counter (polled service py config job poll).toJobRow = counter job.toJobRow - 1)
  | steps (hsteps : index < budget) (hraises : raises py poll.file = false)
      (hloads : loadsNone py poll.file = false) (hnot : ¬ Completable config job.toJobRow)
      (hruns : Runs py budget (index + 1) (polled service py config job poll))
      (hnot' : ¬ Completable config (polled service py config job poll).toJobRow)

variable {budget index : ℤ}

theorem completable_congr {row' : JobRow D} (hstatus : row'.jobStatus = row.jobStatus)
    (hprepared : row'.preparedResultPayload = row.preparedResultPayload) :
    Completable config row' ↔ Completable config row := by
  rw [Completable, Completable, hstatus, hprepared]

/-- A job that has not ended fails. -/
theorem jobStatus_failJob {errorMessage : String} {message : Option String}
    (h : row.jobStatus.isTerminal = false) :
    (operated config (.failJob errorMessage message) now row).jobStatus = .failed := by
  have hvalid : row.jobStatus.validateTransition .failed = true := by
    revert h
    cases row.jobStatus <;> decide
  simp only [operated, Op.run, readBlock, Op.target, hvalid, if_true, Op.raises,
    Bool.false_eq_true, if_false, Op.write, Option.getD_some]

/-- A step that fails the job does so, and the refresh leaves it as it is. -/
theorem polled_of_failed {message : String} (hmessage : message ≠ "")
    (htransient : job.jobStatus.isTerminal = false)
    (hstep : pollStep service py poll job = some (metadata, .failed message)) :
    (polled service py config job poll).jobStatus = .failed := by
  have hfilter : (some message).filter (· ≠ "") = some message := by
    simp [Option.filter, hmessage]
  have hadvanced : (advanced service py config poll job).jobStatus = .failed := by
    simp only [advanced, hstep, stepped, StepOutcome.failed, hfilter, if_true]
    exact jobStatus_failJob htransient
  have hrefresh : operated config .refreshJob poll.refreshedAt
      (advanced service py config poll job).toJobRow =
        (advanced service py config poll job).toJobRow :=
    refreshJob_of_not_running (by rw [hadvanced]; decide)
  rw [polled, hrefresh, hadvanced]

/-- A step that completes the run stores its metadata and sets the refresh counter to zero. -/
theorem advanced_of_completes (config : Config D) (hterminal : outcome.isTerminal = true)
    (hmessage : outcome.errorMessage = none)
    (hstep : pollStep service py poll job = some (metadata, outcome)) :
    advanced service py config poll job =
      { job with
        autonomyMetadata := some metadata.toDict
        updatedAt := poll.updatedAt
        completionRefreshesRemaining := some 0 } := by
  have hcompletes : outcome.completes = true := by
    rw [StepOutcome.completes, hterminal, hmessage]
    rfl
  simp only [advanced, hstep, stepped, hmessage, Option.filter_none, storedMetadata, hcompletes,
    if_true]

/-- The step of a poll of a run. -/
theorem Runs.pollStep_eq (henabled : service.isEnabled = true) (h : Runs py budget index job)
    (poll : Poll F) :
    ∃ metadata : AutonomyJobMetadata, metadata.stepIndex = index ∧ metadata.stepBudget = budget ∧
      pollStep service py poll job = (advanceStep service py poll.file metadata).toOption := by
  obtain ⟨payload, metadata, hpayload, hdecoded, hindex, hbudget⟩ := h.decoded
  refine ⟨metadata, hindex, hbudget, ?_⟩
  simp only [pollStep, h.transient, henabled, hpayload, hdecoded, ok_bind, Bool.false_eq_true,
    Bool.true_eq_false, if_false]

/-- A checkpoint with steps left completes the run. -/
theorem resumeOneStep_of_some {file : LoadedFile F} {checkpoint}
    (henabled : service.isEnabled = true) (hsteps : metadata.stepIndex < metadata.stepBudget)
    (hload : loadCheckpoint py file = .ok (some checkpoint)) :
    ∃ outcome, resumeOneStep service py file metadata = .ok outcome ∧
      outcome.isTerminal = true ∧ outcome.errorMessage = none := by
  rw [resumeOneStep, if_neg (by simp [henabled]), if_neg (Int.not_le.mpr hsteps), hload, ok_bind]
  dsimp only
  split_ifs
  · exact ⟨_, rfl, rfl, rfl⟩
  · exact ⟨_, rfl, rfl, rfl⟩
  · exact ⟨_, rfl, rfl, rfl⟩

/-- A poll whose step raises only refreshes the job. -/
theorem polled_of_raises (config : Config D) (hstep : pollStep service py poll job = none) :
    polled service py config job poll =
      { job with toJobRow := operated config .refreshJob poll.refreshedAt job.toJobRow } := by
  simp only [polled, advanced, hstep]

/-- A refresh of a job whose step raises ends it, or is a wait. -/
theorem polled_of_error (h : Runs py budget index job) (hsteps : index < budget)
    (hraises : raises py poll.file = true) (hstep : pollStep service py poll job = none) :
    Polled service py config budget index job poll := by
  have hpolled := polled_of_raises config hstep
  by_cases hcompletable : Completable config job.toJobRow
  · by_cases hzero : counter job.toJobRow = 0
    · refine .ends ?_ (.inr (.inr ⟨hcompletable, fun _ => hzero⟩))
      rw [hpolled, refreshJob_of_counter_zero hcompletable hzero]
      rfl
    · rw [refreshJob_of_counter_ne_zero hcompletable hzero] at hpolled
      refine .waits hsteps hraises ?_ ?_ fun _ => ⟨hzero, ?_⟩
      · rw [hpolled]
        exact ⟨h.transient, h.decoded⟩
      · rw [hpolled]
        exact completable_congr rfl rfl
      · rw [hpolled]
        rfl
  · obtain ⟨hstatus, hprepared⟩ :=
      refreshJob_of_not_completable hcompletable poll.refreshedAt
    refine .waits hsteps hraises ?_ ?_ fun h => absurd h hcompletable
    · rw [hpolled]
      exact ⟨by rw [hstatus, h.transient], h.decoded⟩
    · rw [hpolled]
      exact completable_congr hstatus hprepared

/-- A poll whose step completes the run ends the job, or the job cannot be completed. -/
theorem polled_of_completes (h : Runs py budget index job) (hsteps : index < budget)
    (hraises : raises py poll.file = false) (hloads : loadsNone py poll.file = false)
    (hindex : metadata.stepIndex = index + 1) (hbudget : metadata.stepBudget = budget)
    (hterminal : outcome.isTerminal = true) (hmessage : outcome.errorMessage = none)
    (hstep : pollStep service py poll job = some (metadata, outcome)) :
    Polled service py config budget index job poll := by
  have hadvanced := advanced_of_completes config hterminal hmessage hstep
  by_cases hcompletable : Completable config job.toJobRow
  · refine .ends ?_ (.inr (.inr ⟨hcompletable, fun h => ?_⟩))
    · have hcompletable' : Completable config (advanced service py config poll job).toJobRow := by
        rw [hadvanced]
        exact (completable_congr rfl rfl).mpr hcompletable
      have hzero : counter (advanced service py config poll job).toJobRow = 0 := by
        rw [hadvanced]
        rfl
      rw [polled, refreshJob_of_counter_zero hcompletable' hzero]
      rfl
    · rw [hraises] at h
      cases h
  · have hcompletable' : ¬ Completable config (advanced service py config poll job).toJobRow := by
      rw [hadvanced]
      exact (completable_congr rfl rfl).not.mpr hcompletable
    obtain ⟨hstatus, hprepared⟩ :=
      refreshJob_of_not_completable hcompletable' poll.refreshedAt
    refine .steps hsteps hraises hloads hcompletable ⟨?_, ?_⟩ ?_
    · rw [polled, hstatus, hadvanced]
      exact h.transient
    · refine ⟨metadata.toDict, metadata, ?_, metadataFromDict_toDict metadata, hindex, hbudget⟩
      rw [polled, hadvanced]
    · exact (completable_congr hstatus hprepared).not.mpr hcompletable'

/-- What a poll does to a job of an autonomy run. -/
theorem polled_of_runs (henabled : service.isEnabled = true) (h : Runs py budget index job)
    (config : Config D) (poll : Poll F) : Polled service py config budget index job poll := by
  obtain ⟨metadata, hindex, hbudget, hstep⟩ := h.pollStep_eq henabled poll
  have hends {message : String} (hmessage : message ≠ "")
      (hresume : resumeOneStep service py poll.file metadata = .ok (.failed message)) :
      (polled service py config job poll).jobStatus.isTerminal = true := by
    rw [advanceStep, hresume, ok_bind] at hstep
    rw [polled_of_failed hmessage h.transient hstep]
    rfl
  rcases Int.lt_or_le index budget with hsteps | hsteps
  · have hsteps' : metadata.stepIndex < metadata.stepBudget := by rwa [hindex, hbudget]
    cases hload : loadCheckpoint py poll.file with
    | error e =>
      refine polled_of_error h hsteps (by rw [raises, hload]) ?_
      rw [hstep, advanceStep, resumeOneStep, if_neg (by simp [henabled]),
        if_neg (Int.not_le.mpr hsteps'), hload]
      rfl
    | ok checkpoint =>
      cases checkpoint with
      | none =>
        refine .ends (hends (by decide : "Checkpoint missing" ≠ "") ?_)
          (.inr (.inl (by rw [loadsNone, hload])))
        rw [resumeOneStep, if_neg (by simp [henabled]), if_neg (Int.not_le.mpr hsteps'), hload]
        rfl
      | some checkpoint =>
        obtain ⟨outcome, hresume, hterminal, hmessage⟩ :=
          resumeOneStep_of_some henabled hsteps' hload
        have hstep' : pollStep service py poll job = some ({ metadata with
            stepIndex := metadata.stepIndex + 1
            lastControllerAction := outcome.stepKind.value }, outcome) := by
          rw [hstep, advanceStep, hresume]
          rfl
        refine polled_of_completes h hsteps ?_ ?_ ?_ ?_ hterminal hmessage hstep'
        · rw [raises, hload]
        · rw [loadsNone, hload]
        · exact congrArg (· + 1) hindex
        · exact hbudget
  · have hsteps' : metadata.stepBudget ≤ metadata.stepIndex := by rwa [hindex, hbudget]
    refine .ends (hends (by decide : "Step budget exhausted" ≠ "") ?_) (.inl hsteps)
    rw [resumeOneStep, if_neg (by simp [henabled]), if_pos hsteps']

/-- A poll leaves a job ended that has ended. -/
theorem isTerminal_polled (h : job.jobStatus.isTerminal = true) :
    (polled service py config job poll).jobStatus.isTerminal = true := by
  have hstep : pollStep service py poll job = none := by rw [pollStep, if_pos h]
  have hrunning : job.jobStatus ≠ .running := by
    intro hrunning
    rw [hrunning] at h
    cases h
  rw [polled_of_raises config hstep, refreshJob_of_not_running hrunning]
  exact h

theorem isTerminal_foldl_polled (h : job.jobStatus.isTerminal = true) :
    (polls.foldl (polled service py config) job).jobStatus.isTerminal = true := by
  induction polls generalizing job with
  | nil => exact h
  | cons poll polls ih => exact ih (isTerminal_polled h)

/-! ### Sequences of polls -/

/-- A poll finds no checkpoint; or the last poll finds the budget used up by those before it that
did not raise; or the job can be completed, and a poll does not raise or the last one finds the
refresh counter at zero. -/
def EndsWithin (py : PythonText F) (config : Config D) (budget index : ℤ)
    (job : GenerationJob D (Loaded F)) (polls : List (Poll F)) : Prop :=
  (∃ poll ∈ polls, loadsNone py poll.file = true) ∨
  (polls ≠ [] ∧
    budget - index ≤ polls.dropLast.countP fun poll => raises py poll.file = false) ∨
  Completable config job.toJobRow ∧
    ((∃ poll ∈ polls, raises py poll.file = false) ∨
      0 ≤ counter job.toJobRow ∧ counter job.toJobRow < polls.length)

theorem loadsNone_of_raises {file : LoadedFile F} (h : raises py file = true) :
    loadsNone py file = false := by
  revert h
  unfold raises loadsNone
  cases loadCheckpoint py file with
  | error e => exact fun _ => rfl
  | ok checkpoint => exact fun h => by cases h

/-- After a poll that waits, the other polls have to end the job. -/
theorem endsWithin_cons_of_waits {job' : GenerationJob D (Loaded F)} (hsteps : index < budget)
    (hraises : raises py poll.file = true)
    (hcompletable : Completable config job'.toJobRow ↔ Completable config job.toJobRow)
    (hcounter : Completable config job.toJobRow → counter job.toJobRow ≠ 0 ∧
      counter job'.toJobRow = counter job.toJobRow - 1) :
    EndsWithin py config budget index job (poll :: polls) ↔
      EndsWithin py config budget index job' polls := by
  have hloads := loadsNone_of_raises hraises
  have hbudget : (poll :: polls ≠ [] ∧ budget - index ≤
      (poll :: polls).dropLast.countP fun poll => raises py poll.file = false) ↔
        polls ≠ [] ∧ budget - index ≤
          polls.dropLast.countP fun poll => raises py poll.file = false := by
    cases polls with
    | nil => simp; omega
    | cons poll' polls => simp [hraises]
  rw [EndsWithin, EndsWithin, hbudget, hcompletable]
  simp only [List.exists_mem_cons_iff, hloads, hraises, Bool.false_eq_true, Bool.true_eq_false,
    false_or, List.length_cons]
  refine or_congr_right (or_congr_right (and_congr_right fun h => or_congr_right ?_))
  obtain ⟨hne, hcounter⟩ := hcounter h
  rw [hcounter]
  push_cast
  omega

/-- After a poll that takes a step, the other polls have to end the job with one step less. -/
theorem endsWithin_cons_of_steps {job' : GenerationJob D (Loaded F)} (hsteps : index < budget)
    (hraises : raises py poll.file = false) (hloads : loadsNone py poll.file = false)
    (hnot : ¬ Completable config job.toJobRow) (hnot' : ¬ Completable config job'.toJobRow) :
    EndsWithin py config budget index job (poll :: polls) ↔
      EndsWithin py config budget (index + 1) job' polls := by
  have hbudget : (poll :: polls ≠ [] ∧ budget - index ≤
      (poll :: polls).dropLast.countP fun poll => raises py poll.file = false) ↔
        polls ≠ [] ∧ budget - (index + 1) ≤
          polls.dropLast.countP fun poll => raises py poll.file = false := by
    cases polls with
    | nil => simp; omega
    | cons poll' polls =>
      simp [hraises]
      omega
  rw [EndsWithin, EndsWithin, hbudget]
  simp only [List.exists_mem_cons_iff, hloads, Bool.false_eq_true, false_or, hnot, hnot',
    false_and]

/-- **When a sequence of polls ends the job.** -/
theorem ends_iff (henabled : service.isEnabled = true) (h : Runs py budget index job) :
    (polls.foldl (polled service py config) job).jobStatus.isTerminal = true ↔
      EndsWithin py config budget index job polls := by
  induction polls generalizing job index with
  | nil =>
    refine iff_of_false (by simp [h.transient]) ?_
    simp only [EndsWithin, List.not_mem_nil, false_and, exists_false, ne_eq, not_true_eq_false,
      false_or, List.length_nil, not_and]
    omega
  | cons poll polls ih =>
    rw [List.foldl_cons]
    cases polled_of_runs henabled h config poll with
    | ends hends hwhy =>
      refine iff_of_true (isTerminal_foldl_polled hends) ?_
      rcases hwhy with hbudget | hloads | ⟨hcompletable, hzero⟩
      · refine .inr (.inl ⟨List.cons_ne_nil _ _, ?_⟩)
        omega
      · exact .inl ⟨poll, List.mem_cons_self, hloads⟩
      · refine .inr (.inr ⟨hcompletable, ?_⟩)
        cases hraises : raises py poll.file with
        | false => exact .inl ⟨poll, List.mem_cons_self, hraises⟩
        | true =>
          rw [hzero hraises, List.length_cons]
          exact .inr ⟨Int.le_refl 0, by omega⟩
    | waits hsteps hraises hruns hcompletable hcounter =>
      rw [ih hruns, endsWithin_cons_of_waits hsteps hraises hcompletable hcounter]
    | steps hsteps hraises hloads hnot hruns hnot' =>
      rw [ih hruns, endsWithin_cons_of_steps hsteps hraises hloads hnot hnot']

/-- **When the step budget bounds the polls.** One poll more than the budget ends the job exactly if
no poll but the last finds a checkpoint whose load raises, or some poll finds none, or the job runs
with a prepared result that completes it and a load does not raise or the refresh counter is not
negative and at most the budget. -/
theorem polls_bounded_iff {budget : ℕ} (henabled : service.isEnabled = true)
    (hlookup : jobs.lookup jobId = some job) (hruns : Runs py budget 0 job)
    (hpolls : ∀ poll ∈ polls, poll.jobId = jobId ∧ poll.jobPollToken = job.jobPollToken)
    (hlength : polls.length = budget + 1) :
    (∃ job', (getJobs service py config jobs polls).lookup jobId = some job' ∧
        job'.jobStatus.isTerminal = true) ↔
      (∀ poll ∈ polls.dropLast, raises py poll.file = false) ∨
      (∃ poll ∈ polls, loadsNone py poll.file = true) ∨
      Completable config job.toJobRow ∧
        ((∃ poll ∈ polls, raises py poll.file = false) ∨
          0 ≤ counter job.toJobRow ∧ counter job.toJobRow ≤ budget) := by
  have hne : polls ≠ [] := List.ne_nil_of_length_eq_add_one hlength
  have hdropLast : polls.dropLast.length = budget := by
    rw [List.length_dropLast, hlength, Nat.add_sub_cancel]
  have hcount : ((budget : ℤ) - 0 ≤
      polls.dropLast.countP fun poll => raises py poll.file = false) ↔
        ∀ poll ∈ polls.dropLast, raises py poll.file = false := by
    have hall : (polls.dropLast.countP fun poll => raises py poll.file = false) =
        polls.dropLast.length ↔ ∀ poll ∈ polls.dropLast, raises py poll.file = false := by
      simp only [List.countP_eq_length, decide_eq_true_eq]
    have hle : (polls.dropLast.countP fun poll => raises py poll.file = false) ≤
        polls.dropLast.length := List.countP_le_length
    rw [← hall]
    omega
  have hcounter : counter job.toJobRow < polls.length ↔ counter job.toJobRow ≤ budget := by
    rw [hlength]
    omega
  simp only [lookup_getJobs hlookup hpolls, Option.some.injEq, exists_eq_left', ends_iff henabled
    hruns, EndsWithin, hne, ne_eq, not_false_eq_true, true_and, hcount, hcounter]
  exact or_left_comm

/-! ### A run that does not end -/

/-- A checkpoint whose compaction sequence is no number. -/
def unreadableFile : LoadedFile Empty :=
  .json <| .dict
    [("checkpoint_id", .str "job_1:seed"), ("checkpoint_version", .str "v1"),
     ("created_at", .str "2026-03-16T09:00:00Z"),
     ("protected_core",
       .ofJson (seedCheckpoint "job_1" "2026-03-16T09:00:00Z").protectedCore.toDict),
     ("compaction", .dict [("strategy_name", .str "none"), ("compaction_sequence", .str "x")])]

/-- A poll that finds it. -/
def unreadablePoll : Poll Empty := { blockedPoll with file := unreadableFile }

/-- A running job without a prepared result. -/
def unpreparedJob : GenerationJob String (Loaded Empty) :=
  { autonomyJob .running with preparedResultPayload := none }

/-- The table with this job alone. -/
def unpreparedJobs : JobTable String (Loaded Empty) := ⟨[unpreparedJob], List.nodup_singleton _⟩

theorem runs_autonomyJob {status : JobStatus} (h : status.isTerminal = false) :
    Runs plainText 3 0 (autonomyJob status) :=
  ⟨h, _, seedMetadata, rfl, metadataFromDict_toDict seedMetadata, rfl, rfl⟩

theorem runs_unpreparedJob : Runs plainText 3 0 unpreparedJob :=
  ⟨rfl, _, seedMetadata, rfl, metadataFromDict_toDict seedMetadata, rfl, rfl⟩

/-- Polls that find a readable checkpoint. -/
theorem polls_bounded_iff_blocked :
    ∃ job', (getJobs enabledService plainText plainConfig (autonomyJobs .running)
      (List.replicate 4 blockedPoll)).lookup "job_1" = some job' ∧
        job'.jobStatus.isTerminal = true := by
  have hraises : raises plainText blockedPoll.file = false := by
    rw [raises, blockedPoll, loadCheckpoint_writeCheckpoint]
  refine (polls_bounded_iff rfl rfl (runs_autonomyJob rfl) ?_ rfl).mpr (.inl ?_)
  · intro poll hpoll
    obtain rfl := List.eq_of_mem_replicate hpoll
    exact ⟨rfl, rfl⟩
  · intro poll hpoll
    obtain rfl := List.eq_of_mem_replicate (List.dropLast_subset _ hpoll)
    exact hraises

/-- **No number of polls ends the job** whose checkpoint has a compaction sequence that is no
number: every poll raises before it stores the step it takes. -/
theorem unreadable_run_unbounded :
    Runs plainText 3 0 unpreparedJob ∧
      (∀ n, ((getJobs enabledService plainText plainConfig unpreparedJobs
        (List.replicate n unreadablePoll)).lookup "job_1").map (·.jobStatus.isTerminal) =
          some false) ∧
      ¬ ∃ job', (getJobs enabledService plainText plainConfig unpreparedJobs
        (List.replicate 4 unreadablePoll)).lookup "job_1" = some job' ∧
          job'.jobStatus.isTerminal = true := by
  have hlookup : unpreparedJobs.lookup "job_1" = some unpreparedJob := rfl
  have hpolled (n : ℕ) : (getJobs enabledService plainText plainConfig unpreparedJobs
      (List.replicate n unreadablePoll)).lookup "job_1" = some unpreparedJob := by
    rw [lookup_getJobs hlookup]
    · induction n with
      | zero => rfl
      | succ n ih => exact ih
    · intro poll hpoll
      obtain rfl := List.eq_of_mem_replicate hpoll
      exact ⟨rfl, rfl⟩
  refine ⟨runs_unpreparedJob, fun n => ?_, ?_⟩
  · rw [hpolled]
    rfl
  · rintro ⟨job', hlookup, hterminal⟩
    rw [hpolled] at hlookup
    cases hlookup
    cases hterminal

end Meridian.Autonomy
