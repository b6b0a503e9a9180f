import Meridian.Jobs.Provenance

/-!
# The jobs of the orchestrator

The functions of `backend/app/orchestrator/graph.py` on jobs, which pass their calls on to the job
store, and the one that decides whether the result of a job is merged into the main session.

## Main definitions

* `Meridian.Orchestrator.orchestrate`: the calls of the orchestrator.
* `Meridian.Orchestrator.orchestratorJobIsTerminal`,
  `Meridian.Orchestrator.orchestratorJobIsRunning`: what it asks about a job.
* `Meridian.Orchestrator.orchestratorCanMergeJobResult`: the decision.

## Main results

* `Meridian.Orchestrator.orchestrate_eq_callJob`: the calls are those of the store.
* `Meridian.Orchestrator.pending_iff`: a pending job is neither terminal nor running.
* `Meridian.Orchestrator.merge_sound`: a result that may be merged was given to its job, and may be
  merged from then on.
-/

namespace Meridian.Orchestrator

open Foundations Jobs

variable {D M : Type*}

/-! ### Calls -/

section Calls

variable (config : Config D) (jobs : JobTable D M) (now : String)

/-- `orchestrator_create_job`, with the id and the token that are drawn for the job. -/
def orchestratorCreateJob (jobId jobPollToken : String) (new : NewJob) :
    JobTable D M × JobReply D M :=
  callJob config jobs now (.createJob jobId jobPollToken new)

/-- `orchestrator_start_job`. -/
def orchestratorStartJob (jobId progressMessage : String) : JobTable D M × JobReply D M :=
  callJob config jobs now (.operate jobId (.startJob progressMessage))

/-- `orchestrator_prepare_job_result`. -/
def orchestratorPrepareJobResult (jobId : String) (result : D) : JobTable D M × JobReply D M :=
  callJob config jobs now (.prepareResult jobId result)

/-- `orchestrator_complete_job`. -/
def orchestratorCompleteJob (jobId : String) (result : D) (progressMessage : String) :
    JobTable D M × JobReply D M :=
  callJob config jobs now (.operate jobId (.completeJob result progressMessage))

/-- `orchestrator_get_job_status`. -/
def orchestratorGetJobStatus (jobId : String) : Option (GenerationJob D M) := jobs.lookup jobId

/-- `orchestrator_fail_job`, which asks for the job first. -/
def orchestratorFailJob (jobId errorMessage : String) : JobTable D M × JobReply D M :=
  match jobs.lookup jobId with
  | none => (jobs, .job none)
  | some _ => callJob config jobs now (.operate jobId (.failJob errorMessage none))

/-- `orchestrator_bind_pending_response`. -/
def orchestratorBindPendingResponse (jobId pendingResponseId : String) :
    JobTable D M × JobReply D M :=
  callJob config jobs now (.bindPendingResponse jobId pendingResponseId)

/-- `orchestrator_refresh_job`. -/
def orchestratorRefreshJob (jobId : String) : JobTable D M × JobReply D M :=
  callJob config jobs now (.operate jobId .refreshJob)

end Calls

/-- The calls. -/
inductive OrchestratorCall (D : Type*)
  | createJob (jobId jobPollToken : String) (new : NewJob)
  | startJob (jobId progressMessage : String)
  | prepareJobResult (jobId : String) (result : D)
  | completeJob (jobId : String) (result : D) (progressMessage : String)
  | failJob (jobId errorMessage : String)
  | bindPendingResponse (jobId pendingResponseId : String)
  | refreshJob (jobId : String)

/-- What a call does to the jobs. -/
def orchestrate (config : Config D) (jobs : JobTable D M) (now : String) :
    OrchestratorCall D → JobTable D M × JobReply D M
  | .createJob jobId jobPollToken new =>
    orchestratorCreateJob config jobs now jobId jobPollToken new
  | .startJob jobId progressMessage => orchestratorStartJob config jobs now jobId progressMessage
  | .prepareJobResult jobId result => orchestratorPrepareJobResult config jobs now jobId result
  | .completeJob jobId result progressMessage =>
    orchestratorCompleteJob config jobs now jobId result progressMessage
  | .failJob jobId errorMessage => orchestratorFailJob config jobs now jobId errorMessage
  | .bindPendingResponse jobId pendingResponseId =>
    orchestratorBindPendingResponse config jobs now jobId pendingResponseId
  | .refreshJob jobId => orchestratorRefreshJob config jobs now jobId

/-- The call of the store that a call is passed on as. -/
def OrchestratorCall.toJobCall : OrchestratorCall D → JobCall D M
  | createJob jobId jobPollToken new => .createJob jobId jobPollToken new
  | startJob jobId progressMessage => .operate jobId (.startJob progressMessage)
  | prepareJobResult jobId result => .prepareResult jobId result
  | completeJob jobId result progressMessage =>
    .operate jobId (.completeJob result progressMessage)
  | failJob jobId errorMessage => .operate jobId (.failJob errorMessage none)
  | bindPendingResponse jobId pendingResponseId => .bindPendingResponse jobId pendingResponseId
  | refreshJob jobId => .operate jobId .refreshJob

variable {config : Config D} {jobs jobs' : JobTable D M} {now jobId : String}
  {job : GenerationJob D M}

/-- **The calls of the orchestrator are those of the store**, also the one that asks for its job
first. -/
theorem orchestrate_eq_callJob (call : OrchestratorCall D) :
    orchestrate config jobs now call = callJob config jobs now call.toJobCall := by
  cases call with
  | failJob jobId errorMessage =>
    rw [orchestrate, orchestratorFailJob, OrchestratorCall.toJobCall]
    cases hjob : jobs.lookup jobId with
    | none => rw [callJob, hjob]
    | some job => rfl
  | _ => rfl

/-! ### What is asked about a job -/

/-- The value of a status, which is also its text. -/
def statusValue : JobStatus → String
  | .pending => "pending"
  | .running => "running"
  | .succeeded => "succeeded"
  | .failed => "failed"
  | .cancelled => "cancelled"
  | .expired => "expired"

/-- `orchestrator_job_is_terminal`. -/
def orchestratorJobIsTerminal (jobs : JobTable D M) (jobId : String) : Bool :=
  match jobs.lookup jobId with
  | none => true
  | some job =>
    ["succeeded", "failed", "cancelled", "expired"].contains (statusValue job.jobStatus)

/-- `orchestrator_job_is_running`. -/
def orchestratorJobIsRunning (jobs : JobTable D M) (jobId : String) : Bool :=
  match jobs.lookup jobId with
  | none => false
  | some job => ["queued", "running"].contains (statusValue job.jobStatus)

/-- `should_merge_subagent_result`. -/
def shouldMergeSubagentResult (explicitMergeRequested mutatesControllerTruth
    conflictsWithActiveArtifact : Bool) : Bool :=
  explicitMergeRequested && !mutatesControllerTruth && !conflictsWithActiveArtifact

/-- `orchestrator_can_merge_job_result`. -/
def orchestratorCanMergeJobResult (jobs : JobTable D M) (jobId : String) (explicitMergeRequested
    mutatesControllerTruth conflictsWithActiveArtifact : Bool) : Bool :=
  if orchestratorJobIsTerminal jobs jobId = false then false
  else
    match jobs.lookup jobId with
    | none => false
    | some job =>
      if statusValue job.jobStatus ≠ "succeeded" then false
      else shouldMergeSubagentResult explicitMergeRequested mutatesControllerTruth
        conflictsWithActiveArtifact

/-- A pending job is neither terminal nor running, for no status has the value `queued`. -/
theorem pending_iff (hjob : jobs.lookup jobId = some job) :
    orchestratorJobIsTerminal jobs jobId = false ∧ orchestratorJobIsRunning jobs jobId = false ↔
      job.jobStatus = .pending := by
  simp only [orchestratorJobIsTerminal, orchestratorJobIsRunning, hjob]
  cases job.jobStatus <;> decide

/-- The result of a job may be merged if the job has succeeded and the flags allow it. -/
theorem canMerge_iff {requested mutates conflicts : Bool} :
    orchestratorCanMergeJobResult jobs jobId requested mutates conflicts = true ↔
      (∃ job, jobs.lookup jobId = some job ∧ job.jobStatus = .succeeded) ∧
        shouldMergeSubagentResult requested mutates conflicts = true := by
  cases hjob : jobs.lookup jobId with
  | none => simp [orchestratorCanMergeJobResult, hjob]
  | some job =>
    have hterminal : orchestratorJobIsTerminal jobs jobId =
        ["succeeded", "failed", "cancelled", "expired"].contains (statusValue job.jobStatus) := by
      rw [orchestratorJobIsTerminal, hjob]
    simp only [orchestratorCanMergeJobResult, hterminal, hjob, Option.some.injEq, exists_eq_left']
    cases job.jobStatus <;> simp [statusValue]

/-! ### Merges -/

/-- **What is merged.** In every run of a new store, a result that may be merged was given to its
own job by one of the calls, with a response id; and whatever is called from then on, the same
result may be merged. -/
theorem merge_sound {labels : List (String × JobCall D M)} {requested mutates conflicts : Bool}
    (hexec : exec (jobStep config) KeyedTable.empty labels = some jobs)
    (hmerge : orchestratorCanMergeJobResult jobs jobId requested mutates conflicts = true) :
    ∃ result responseId, config.reader.responseId result = some responseId ∧
      (∃ l ∈ labels, l.2.jobId? = some jobId ∧ result ∈ l.2.payloads) ∧
      ∀ labels' jobs', exec (jobStep config) jobs labels' = some jobs' →
        orchestratorCanMergeJobResult jobs' jobId requested mutates conflicts = true ∧
          ∃ job', orchestratorGetJobStatus jobs' jobId = some job' ∧
            job'.resultPayload = some result ∧ job'.completedResponseId = some responseId := by
  obtain ⟨⟨job, hjob, hsucceeded⟩, hflags⟩ := canMerge_iff.mp hmerge
  have hempty : TableConsistent config.reader (KeyedTable.empty : JobTable D M) :=
    fun _ _ h => absurd h (Option.some_ne_none _).symm
  have hconsistent := exec_tableConsistent hempty hexec
  have hrow := hconsistent jobId job hjob
  obtain ⟨result, hresult⟩ := Option.isSome_iff_exists.mp (hrow.resultPayload.mpr hsucceeded)
  obtain ⟨responseId, hid⟩ :=
    Option.isSome_iff_exists.mp (hrow.completedResponseId.mpr hsucceeded)
  refine ⟨result, responseId, (hrow.responseId result hresult).symm.trans hid, ?_,
    fun labels' jobs' hexec' => ?_⟩
  · have hpayload : result ∈ job.payloads :=
      List.mem_append_right _ (Option.mem_toList.mpr hresult)
    rcases exec_payloads hexec hjob hpayload with hgiven | ⟨job₀, hnone, -⟩
    · exact hgiven
    · cases hnone
  · have hterminal : job.jobStatus.isTerminal = true := by rw [hsucceeded]; rfl
    obtain ⟨job', hjob', houtcome⟩ := exec_outcome hconsistent hexec' hjob hterminal
    simp only [JobRow.outcome, Prod.mk.injEq] at houtcome
    obtain ⟨hstatus', hresult', hid', -⟩ := houtcome
    exact ⟨canMerge_iff.mpr ⟨⟨job', hjob', hstatus'.trans hsucceeded⟩, hflags⟩, job', hjob',
      hresult'.trans hresult, hid'.trans hid⟩

/-- A job whose result is prepared and which is refreshed as soon as it runs. -/
def refreshedCalls : List (String × JobCall String String) :=
  [("t1", .createJob "job_1" "token"
    { sessionId := "chat_s_1", brokerId := "b", officeId := "memphis",
      progressMessage := "Queued.", retryAllowed := true }),
   ("t2", .prepareResult "job_1" "resp_1"),
   ("t3", .operate "job_1" (.startJob "Started.")),
   ("t4", .updateAutonomyMetadata "job_1" "step 1" true),
   ("t5", .operate "job_1" .refreshJob)]

theorem merge_sound_refreshed : ∃ jobs,
    exec (jobStep plainConfig) KeyedTable.empty refreshedCalls = some jobs ∧
      ∀ labels' jobs', exec (jobStep plainConfig) jobs labels' = some jobs' →
        orchestratorCanMergeJobResult jobs' "job_1" true false false = true := by
  have hmerge : (exec (jobStep plainConfig) KeyedTable.empty refreshedCalls).any
      (orchestratorCanMergeJobResult · "job_1" true false false) = true := by decide
  obtain ⟨jobs, hexec, hmerge⟩ := (Option.any_eq_true _ _).mp hmerge
  obtain ⟨result, responseId, -, -, hkept⟩ := merge_sound hexec hmerge
  exact ⟨jobs, hexec, fun labels' jobs' hexec' => (hkept labels' jobs' hexec').1⟩

end Meridian.Orchestrator
