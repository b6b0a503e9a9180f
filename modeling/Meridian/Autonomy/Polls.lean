import Meridian.Autonomy.Checkpoints
import Meridian.Jobs.Lifecycle

/-!
# Polls that advance an autonomy run

`resume_one_step` and `advance_step` of `BoundedAutonomyService`, and what `get_job` of
`backend/app/api/routes/jobs.py` does to the job: one step of the autonomy run, if the job has one,
and then a refresh. What the poll tells the session store afterwards is left out.

## Main definitions

* `Meridian.Autonomy.AutonomyJobMetadata`, `Meridian.Autonomy.StepOutcome`: the records.
* `Meridian.Autonomy.resumeOneStep`, `Meridian.Autonomy.advanceStep`: one step.
* `Meridian.Autonomy.getJob`: a poll.
* `Meridian.Autonomy.SafePoll`: a poll of a stopped run does not complete the job.

## Main results

* `Meridian.Autonomy.safe_polls_iff`: in a run, every poll is safe exactly if the job of a stopped
  run has always ended before it is polled.
* `Meridian.Autonomy.blocked_run_succeeds`: a poll that turns a blocked run into a success.
-/

namespace Meridian.Autonomy

open Foundations Controller Jobs

variable {F : Type} {D : Type*}

/-! ### Steps -/

/-- `AutonomyMode`. -/
inductive AutonomyMode
  | pollDriven

/-- `TaskKind`. -/
inductive TaskKind
  | asyncReadRefresh

/-- `StepKind`. -/
inductive StepKind
  | seedContext
  | executeAllowlistedRead
  | buildResponse
  | completeJob
  | failJob

/-- The literal of a kind. -/
def StepKind.value : StepKind → String
  | seedContext => "seed_context"
  | executeAllowlistedRead => "execute_allowlisted_read"
  | buildResponse => "build_response"
  | completeJob => "complete_job"
  | failJob => "fail_job"

/-- `AutonomyJobMetadata`. -/
structure AutonomyJobMetadata where
  mode : AutonomyMode
  taskKind : TaskKind
  checkpointId : String
  stepIndex : ℤ
  stepBudget : ℤ
  lastControllerAction : String

/-- `AutonomyMode(value)`. -/
def autonomyMode : Loaded F → Except LoadError AutonomyMode
  | .str s => if s = "poll_driven" then .ok .pollDriven else .error .other
  | _ => .error .other

/-- `TaskKind(value)`. -/
def taskKind : Loaded F → Except LoadError TaskKind
  | .str s => if s = "async_read_refresh" then .ok .asyncReadRefresh else .error .other
  | _ => .error .other

/-- `AutonomyJobMetadata.from_dict`. -/
def metadataFromDict (py : PythonText F) (payload : Loaded F) :
    Except LoadError AutonomyJobMetadata := do
  let mode ← autonomyMode (← payload.item "mode")
  let kind ← taskKind (← payload.item "task_kind")
  let checkpointId ← payload.item "checkpoint_id"
  let stepIndex ← (← payload.item "step_index").toInt py
  let stepBudget ← (← payload.item "step_budget").toInt py
  let lastControllerAction ← payload.item "last_controller_action"
  pure
    { mode := mode
      taskKind := kind
      checkpointId := checkpointId.text py
      stepIndex := stepIndex
      stepBudget := stepBudget
      lastControllerAction := lastControllerAction.text py }

/-- `AutonomyJobMetadata.to_dict`. -/
def AutonomyJobMetadata.toDict (metadata : AutonomyJobMetadata) : Loaded F :=
  .dict
    [("mode", .str "poll_driven"),
     ("task_kind", .str "async_read_refresh"),
     ("checkpoint_id", .str metadata.checkpointId),
     ("step_index", .int metadata.stepIndex),
     ("step_budget", .int metadata.stepBudget),
     ("last_controller_action", .str metadata.lastControllerAction)]

/-- `StepOutcome`, without a result payload as in all its uses. -/
structure StepOutcome where
  stepKind : StepKind
  nextStepKind : Option StepKind
  isTerminal : Bool
  errorMessage : Option String

/-- The outcome of a step that fails the job. -/
def StepOutcome.failed (message : String) : StepOutcome :=
  { stepKind := .failJob, nextStepKind := none, isTerminal := true, errorMessage := some message }

/-- The outcome of a step that completes the job. -/
def StepOutcome.complete : StepOutcome :=
  { stepKind := .completeJob, nextStepKind := none, isTerminal := true, errorMessage := none }

/-- `outcome.is_terminal and not outcome.error_message`, where an empty message counts as none. -/
def StepOutcome.completes (outcome : StepOutcome) : Bool :=
  outcome.isTerminal && !outcome.errorMessage.any (· ≠ "")

/-- The settings of the service. -/
structure ServiceConfig where
  runningAutonomyEnabled : Bool
  controllerCheckpointsEnabled : Bool
  controllerPrecedenceEnabled : Bool

/-- `is_enabled`. -/
def ServiceConfig.isEnabled (service : ServiceConfig) : Bool :=
  service.runningAutonomyEnabled && service.controllerCheckpointsEnabled &&
    service.controllerPrecedenceEnabled

section Service

variable (service : ServiceConfig) (py : PythonText F)

/-- `resume_one_step`, given the checkpoint file of the job. -/
def resumeOneStep (file : LoadedFile F) (metadata : AutonomyJobMetadata) :
    Except LoadError StepOutcome :=
  if service.isEnabled = false then .ok (.failed "Autonomy not enabled")
  else if metadata.stepBudget ≤ metadata.stepIndex then .ok (.failed "Step budget exhausted")
  else do
    let checkpoint ← loadCheckpoint py file
    match checkpoint with
    | none => pure (.failed "Checkpoint missing")
    | some checkpoint =>
      if checkpoint.terminalState.isSome then pure .complete
      else if metadata.stepIndex = 0 then
        pure
          { stepKind := .executeAllowlistedRead
            nextStepKind := some .completeJob
            isTerminal := true
            errorMessage := none }
      else pure .complete

/-- `advance_step`. -/
def advanceStep (file : LoadedFile F) (metadata : AutonomyJobMetadata) :
    Except LoadError (AutonomyJobMetadata × StepOutcome) := do
  let outcome ← resumeOneStep service py file metadata
  pure
    ({ metadata with
        stepIndex := metadata.stepIndex + 1
        lastControllerAction := outcome.stepKind.value }, outcome)

/-! ### Polls -/

/-- A poll: its arguments, the checkpoint file that it finds, and the times of its three writes. -/
structure Poll (F : Type) where
  jobId : String
  jobPollToken : String
  file : LoadedFile F
  updatedAt : String
  failedAt : String
  refreshedAt : String

/-- The step that a poll takes on the job that it has found, unless an exception ends it. -/
def pollStep (poll : Poll F) (job : GenerationJob D (Loaded F)) :
    Option (AutonomyJobMetadata × StepOutcome) :=
  if job.jobStatus.isTerminal then none
  else if service.isEnabled = false then none
  else
    match job.autonomyMetadata with
    | none => none
    | some payload =>
      (metadataFromDict py payload >>= advanceStep service py poll.file).toOption

/-- What a poll does after its step: it stores the metadata, and triggers a completion or fails the
job. -/
def afterStep (config : Config D) (jobs : JobTable D (Loaded F)) (poll : Poll F)
    (metadata : AutonomyJobMetadata) (outcome : StepOutcome) : JobTable D (Loaded F) :=
  let jobs := (callJob config jobs poll.updatedAt
    (.updateAutonomyMetadata poll.jobId metadata.toDict outcome.completes)).1
  match outcome.errorMessage.filter (· ≠ "") with
  | none => jobs
  | some errorMessage =>
    if outcome.isTerminal then
      (callJob config jobs poll.failedAt
        (.operate poll.jobId (.failJob errorMessage (some "Bounded autonomy failed.")))).1
    else jobs

/-- `refresh_job` as a poll calls it. -/
def refreshed (config : Config D) (jobs : JobTable D (Loaded F)) (poll : Poll F) :
    JobTable D (Loaded F) :=
  (callJob config jobs poll.refreshedAt (.operate poll.jobId .refreshJob)).1

/-- `get_job_by_poll_token`. -/
def jobByPollToken (jobs : JobTable D (Loaded F)) (poll : Poll F) :
    Option (GenerationJob D (Loaded F)) :=
  (jobs.lookup poll.jobId).filter (·.jobPollToken = poll.jobPollToken)

/-- `get_job`. -/
def getJob (config : Config D) (jobs : JobTable D (Loaded F)) (poll : Poll F) :
    JobTable D (Loaded F) :=
  match jobByPollToken jobs poll with
  | none => jobs
  | some job =>
    match pollStep service py poll job with
    | none => refreshed config jobs poll
    | some (metadata, outcome) =>
      refreshed config (afterStep config jobs poll metadata outcome) poll

/-- What happens to the jobs: polls, and any other calls of the store between them. -/
inductive JobEvent (F : Type) (D : Type*)
  | poll (poll : Poll F)
  | call (now : String) (call : JobCall D (Loaded F))

/-- One event. -/
def eventStep (config : Config D) (jobs : JobTable D (Loaded F)) :
    JobEvent F D → Option (JobTable D (Loaded F))
  | .poll poll => some (getJob service py config jobs poll)
  | .call now call => some (callJob config jobs now call).1

/-! ### The property and the condition -/

/-- The service reads a checkpoint that says that the run is blocked, waits for the user or has been
aborted. -/
def Stopped (file : LoadedFile F) : Prop :=
  ∃ checkpoint state, loadCheckpoint py file = .ok (some checkpoint) ∧
    checkpoint.terminalState = some (TerminalState.text state) ∧ state ≠ .done

/-- The poll finds a job with autonomy metadata and steps left, whose run has stopped. -/
structure PollsStopped (jobs : JobTable D (Loaded F)) (poll : Poll F)
    (job : GenerationJob D (Loaded F)) (metadata : AutonomyJobMetadata) : Prop where
  found : jobByPollToken jobs poll = some job
  decoded : ∃ payload, job.autonomyMetadata = some payload ∧
    metadataFromDict py payload = .ok metadata
  steps_left : metadata.stepIndex < metadata.stepBudget
  stopped : Stopped py poll.file

/-- The job has succeeded. -/
def Succeeded (jobs : JobTable D (Loaded F)) (jobId : String) : Prop :=
  ∃ job, jobs.lookup jobId = some job ∧ job.jobStatus = .succeeded

/-- A poll of a stopped run does not trigger the completion of the job, and the job has not
succeeded after it unless a refresh alone would have completed it. -/
def SafePoll (config : Config D) (jobs : JobTable D (Loaded F)) : JobEvent F D → Prop
  | .poll poll => ∀ job metadata, PollsStopped py jobs poll job metadata →
      (∀ metadata' outcome, pollStep service py poll job = some (metadata', outcome) →
        outcome.completes = false) ∧
      (Succeeded (getJob service py config jobs poll) poll.jobId →
        Succeeded (refreshed config jobs poll) poll.jobId)
  | .call _ _ => True

/-- The job of a stopped run has ended before it is polled. -/
def EndedBefore (jobs : JobTable D (Loaded F)) : JobEvent F D → Prop
  | .poll poll => ∀ job metadata, PollsStopped py jobs poll job metadata →
      job.jobStatus.isTerminal = true
  | .call _ _ => True

end Service

variable {service : ServiceConfig} {py : PythonText F} {config : Config D}
  {jobs jobs₀ : JobTable D (Loaded F)} {poll : Poll F} {job : GenerationJob D (Loaded F)}
  {metadata : AutonomyJobMetadata} {file : LoadedFile F}

/-! ### One poll -/

/-- Metadata that a poll stores is read back by the next. -/
theorem metadataFromDict_toDict (metadata : AutonomyJobMetadata) :
    metadataFromDict py metadata.toDict = .ok metadata := rfl

/-- A step of a stopped run with steps left completes the job. -/
theorem resumeOneStep_of_stopped (henabled : service.isEnabled = true)
    (hsteps : metadata.stepIndex < metadata.stepBudget) (hstopped : Stopped py file) :
    resumeOneStep service py file metadata = .ok .complete := by
  obtain ⟨checkpoint, state, hload, hstate, -⟩ := hstopped
  rw [resumeOneStep, if_neg (by simp [henabled]), if_neg (Int.not_le.mpr hsteps), hload, ok_bind]
  simp only [hstate, Option.isSome_some, if_true]
  rfl

/-- The step of a poll that finds a stopped run of a job that has not ended. -/
theorem pollStep_of_stopped (henabled : service.isEnabled = true)
    (h : PollsStopped py jobs poll job metadata) (hstatus : job.jobStatus.isTerminal = false) :
    ∃ metadata', pollStep service py poll job = some (metadata', .complete) := by
  obtain ⟨payload, hpayload, hdecode⟩ := h.decoded
  have hadvance : advanceStep service py poll.file metadata =
      .ok ({ metadata with
        stepIndex := metadata.stepIndex + 1
        lastControllerAction := "complete_job" }, .complete) := by
    rw [advanceStep, resumeOneStep_of_stopped henabled h.steps_left h.stopped]
    rfl
  refine ⟨{ metadata with
    stepIndex := metadata.stepIndex + 1
    lastControllerAction := "complete_job" }, ?_⟩
  simp only [pollStep, hstatus, henabled, hpayload, hdecode, ok_bind, hadvance]
  rfl

/-- A poll is safe exactly if the job of a stopped run has ended before it. -/
theorem safePoll_iff (henabled : service.isEnabled = true) {event : JobEvent F D} :
    SafePoll service py config jobs event ↔ EndedBefore py jobs event := by
  cases event with
  | call now call => exact Iff.rfl
  | poll poll =>
    refine forall_congr' fun job => forall_congr' fun metadata => imp_congr_right fun h => ?_
    constructor
    · intro hsafe
      by_contra hstatus
      obtain ⟨metadata', hstep⟩ :=
        pollStep_of_stopped henabled h (Bool.eq_false_iff.mpr hstatus)
      cases hsafe.1 metadata' .complete hstep
    · intro hstatus
      have hstep : pollStep service py poll job = none := by rw [pollStep, if_pos hstatus]
      refine ⟨fun _ _ hsome => ?_, fun hsucceeded => ?_⟩
      · rw [hstep] at hsome
        cases hsome
      · simpa only [getJob, h.found, hstep] using hsucceeded

/-! ### Runs -/

/-- **When autonomy leaves stopped runs alone.** In every run, every poll is safe exactly if no poll
finds a stopped run, with steps left, of a job that has not ended. -/
theorem safe_polls_iff (henabled : service.isEnabled = true) (events : List (JobEvent F D)) :
    Along (eventStep service py config) (fun jobs event _ => SafePoll service py config jobs event)
        jobs₀ events ↔
      Along (eventStep service py config) (fun jobs event _ => EndedBefore py jobs event) jobs₀
        events :=
  along_congr fun _ _ _ _ _ => safePoll_iff henabled

/-! ### A blocked run -/

/-- A service with autonomy enabled. -/
def enabledService : ServiceConfig :=
  { runningAutonomyEnabled := true
    controllerCheckpointsEnabled := true
    controllerPrecedenceEnabled := true }

/-- The metadata of a new run. -/
def seedMetadata : AutonomyJobMetadata :=
  { mode := .pollDriven
    taskKind := .asyncReadRefresh
    checkpointId := "job_1:seed"
    stepIndex := 0
    stepBudget := 3
    lastControllerAction := "seed" }

/-- A job of an autonomy run with a prepared result. -/
def autonomyJob (status : JobStatus) : GenerationJob String (Loaded Empty) :=
  { jobId := "job_1"
    sessionId := "chat_s_1"
    officeId := "memphis"
    brokerId := "broker-123"
    retryAllowed := true
    pendingResponseId := none
    jobPollToken := "token"
    createdAt := "2026-03-16T09:00:00Z"
    autonomyMetadata := some seedMetadata.toDict
    jobStatus := status
    progressMessage := "Refreshing."
    completedResponseId := none
    preparedResultPayload := some "resp_1"
    resultPayload := none
    completionRefreshesRemaining := some 2
    errorMessage := none
    failedAt := none
    completedAt := none
    updatedAt := "2026-03-16T09:00:00Z" }

/-- The table with this job alone. -/
def autonomyJobs (status : JobStatus) : JobTable String (Loaded Empty) :=
  ⟨[autonomyJob status], List.nodup_singleton _⟩

/-- A poll that finds the checkpoint of a blocked run. -/
def blockedPoll : Poll Empty :=
  { jobId := "job_1"
    jobPollToken := "token"
    file := writeCheckpoint
      { seedCheckpoint "job_1" "2026-03-16T09:00:00Z" with terminalState := some .blocked }
    updatedAt := "t1"
    failedAt := "t2"
    refreshedAt := "t3" }

/-- A blocked run whose job has been cancelled. -/
theorem safe_polls_iff_cancelled :
    Along (eventStep enabledService plainText plainConfig)
      (fun jobs event _ => SafePoll enabledService plainText plainConfig jobs event)
      (autonomyJobs .cancelled) [.poll blockedPoll] := by
  refine (safe_polls_iff rfl _).mpr (.cons rfl (fun job metadata h => ?_) trivial)
  obtain rfl := Option.some.inj h.found
  rfl

theorem stopped_blockedPoll : Stopped plainText blockedPoll.file :=
  ⟨_, .blocked, loadCheckpoint_writeCheckpoint _, rfl, nofun⟩

/-- **A blocked run succeeds.** One poll of a running job whose checkpoint is blocked completes the
job. -/
theorem blocked_run_succeeds :
    (pollStep enabledService plainText blockedPoll (autonomyJob .running)).map
        (·.2.completes) = some true ∧
      ((getJob enabledService plainText plainConfig (autonomyJobs .running) blockedPoll).lookup
        "job_1").map (·.jobStatus) = some .succeeded ∧
      ((refreshed plainConfig (autonomyJobs .running) blockedPoll).lookup "job_1").map
        (·.jobStatus) = some .running ∧
      ¬ Along (eventStep enabledService plainText plainConfig)
        (fun jobs event _ => SafePoll enabledService plainText plainConfig jobs event)
        (autonomyJobs .running) [.poll blockedPoll] := by
  refine ⟨rfl, rfl, rfl, fun h => ?_⟩
  have hstopped : PollsStopped plainText (autonomyJobs .running) blockedPoll
      (autonomyJob .running) seedMetadata :=
    { found := rfl
      decoded := ⟨_, rfl, metadataFromDict_toDict seedMetadata⟩
      steps_left := by decide
      stopped := stopped_blockedPoll }
  cases ((h _ rfl).1 _ _ hstopped).1 _ _ rfl

end Meridian.Autonomy
