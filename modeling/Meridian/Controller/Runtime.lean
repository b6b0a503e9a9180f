import Meridian.Controller.Policy
import Mathlib.Logic.Function.Basic

/-!
# The controller runtime

The operations of `ControllerRuntime` on the checkpoint file of a session, from
`backend/app/controller/runtime.py`. Each operation is a function of the file, which holds what
`json.dumps` has written or what somebody else has left there; files are read and written without
failures of the file system.

## Main definitions

* `Meridian.Controller.CheckpointFile`: the content of a checkpoint file.
* `Meridian.Controller.loadCheckpoint`, `Meridian.Controller.resume`: reading.
* `Meridian.Controller.recordStageTransition`, `Meridian.Controller.prepareCompaction`,
  `Meridian.Controller.finalizeQueue`: writing.
* `Meridian.Controller.step`: the operations on the files of all sessions.

## Main results

* `Meridian.Controller.loadCheckpoint_written`: a written checkpoint loads exactly if it meets the
  contract.
* `Meridian.Controller.resume_action_of_some`: what `resume` answers for a loaded checkpoint.
-/

namespace Meridian.Controller

open Foundations

/-- The content of a checkpoint file. -/
inductive CheckpointFile
  | missing
  | unreadable
  | json (payload : Json)

/-- `ControllerResumeResult`. -/
structure ControllerResumeResult where
  protectedCore : ProtectedCore
  decision : ControllerDecision
  checkpoint : Option ControllerCheckpoint

/-- The settings that the operations read. -/
structure Settings where
  controllerCheckpointsEnabled : Bool
  /-- `str.strip().casefold()` of the runtime's Unicode tables. -/
  fold : String → String

/-- `_write_checkpoint`. -/
def ControllerCheckpoint.written (checkpoint : ControllerCheckpoint) : CheckpointFile :=
  .json checkpoint.toDict

/-! ### Reading -/

/-- The protected core of a failed load. -/
def emptyCore : ProtectedCore :=
  { taskGoal := ""
    expectedOutput := ""
    currentStep := ""
    resumePoint := ""
    hardConstraints := []
    businessInvariants := [] }

/-- A load that fails softly. -/
def failSoft (reason : String) : ControllerResumeResult :=
  { protectedCore := emptyCore
    decision := { action := "review", reason := reason, source := "controller" }
    checkpoint := none }

variable (settings : Settings)

/-- `load_checkpoint`. -/
def loadCheckpoint (file : CheckpointFile) : ControllerResumeResult :=
  if settings.controllerCheckpointsEnabled then
    match file with
    | .missing => failSoft "checkpoint_missing_fail_soft"
    | .unreadable => failSoft "checkpoint_unreadable_fail_soft"
    | .json payload =>
      if Schema.accepts checkpointSchema payload then
        let checkpoint := ControllerCheckpoint.fromDict payload
        { protectedCore := checkpoint.protectedCore
          decision := checkpoint.controllerLastDecision
          checkpoint := some checkpoint }
      else failSoft "checkpoint_packet_invalid_fail_soft"
  else failSoft "checkpoint_flag_disabled"

/-- `terminal_to_action` on a terminal state. -/
def TerminalState.action : TerminalState → String
  | done => "done"
  | blocked => "blocked"
  | waitingUserApproval => "waiting_user_approval"
  | aborted => "aborted"

/-- The queue item that `resume` builds from a snapshot. -/
def QueueState.item (queue : QueueState) : QueueItem :=
  { waveName := queue.waveName
    status := queue.status
    runPolicy := queue.runPolicy
    eligible := queue.eligible
    requiresExplicitRequest := queue.requiresExplicitRequest
    approvalAuthority := queue.approvalAuthority }

/-- `resume`. -/
def resume (fallback : ProtectedCore) (file : CheckpointFile) : ControllerResumeResult :=
  if settings.controllerCheckpointsEnabled then
    let loaded := loadCheckpoint settings file
    match loaded.checkpoint with
    | none => { loaded with protectedCore := fallback }
    | some checkpoint =>
      match checkpoint.terminalState with
      | some terminal =>
        { protectedCore := checkpoint.protectedCore
          decision :=
            { action := terminal.action
              reason := "resume_from_preserved_terminal_state_" ++ terminal.text
              source := "controller" }
          checkpoint := some checkpoint }
      | none =>
        match checkpoint.queue with
        | some queue =>
          { protectedCore := checkpoint.protectedCore
            decision :=
              { action := (nextTerminalOrRunnableState [queue.item] false none false).action.value
                reason := "resume_from_checkpoint_queue_truth"
                source := "controller" }
            checkpoint := some checkpoint }
        | none => loaded
  else { failSoft "checkpoint_flag_disabled" with protectedCore := fallback }

/-! ### Writing -/

/-- `_default_failure_signal`. -/
def defaultFailureSignal : FailureSignal :=
  { kind := "none", severity := "none", source := "controller", details := none }

/-- The arguments of `record_stage_transition`, with the authoritative decision of its route. -/
structure StageTransition where
  stageName : String
  protectedCore : ProtectedCore
  authoritative : ControllerDecision
  validatedArtifacts : List String
  failureSignal : Option FailureSignal

/-- The checkpoint of a stage transition after the one that was loaded. -/
def StageTransition.checkpoint (transition : StageTransition) (sessionId now : String)
    (current : Option ControllerCheckpoint) : ControllerCheckpoint :=
  { checkpointId := sessionId ++ ":" ++ transition.stageName
    protectedCore := transition.protectedCore
    compaction :=
      match current with
      | some current => current.compaction
      | none =>
        { strategyName := "none", compactionSequence := 0, haloSummary := "", recentTurnIds := [] }
    validatedArtifacts := transition.validatedArtifacts
    activeFailureSignal := transition.failureSignal.getD defaultFailureSignal
    controllerLastDecision := transition.authoritative
    queue := current.bind ControllerCheckpoint.queue
    terminalState := if transition.authoritative.action = "abort" then some .aborted else none
    createdAt := now }

/-- `record_stage_transition`. -/
def recordStageTransition (transition : StageTransition) (sessionId now : String)
    (file : CheckpointFile) : CheckpointFile :=
  if settings.controllerCheckpointsEnabled then
    (transition.checkpoint sessionId now (loadCheckpoint settings file).checkpoint).written
  else file

/-- The arguments of `prepare_compaction`: what the strategy answers, `none` where it raises, and
the ids of the recent turns. -/
structure Compaction where
  fallbackProtectedCore : ProtectedCore
  strategyName : String
  compressedHalo : Option String
  recentTurnIds : List ℤ

/-- The checkpoint that a compaction starts from. -/
def Compaction.base (compaction : Compaction) (sessionId now : String)
    (loaded : ControllerResumeResult) : ControllerCheckpoint :=
  loaded.checkpoint.getD
    { checkpointId := sessionId ++ ":before_compaction"
      protectedCore := compaction.fallbackProtectedCore
      compaction :=
        { strategyName := compaction.strategyName
          compactionSequence := 0
          haloSummary := ""
          recentTurnIds := [] }
      validatedArtifacts := []
      activeFailureSignal := defaultFailureSignal
      controllerLastDecision := loaded.decision
      queue := none
      terminalState := none
      createdAt := now }

/-- `prepare_compaction`. -/
def prepareCompaction (compaction : Compaction) (sessionId now : String) (file : CheckpointFile) :
    CheckpointFile :=
  if settings.controllerCheckpointsEnabled then
    match compaction.compressedHalo with
    | none => file
    | some compressedHalo =>
      let base := compaction.base sessionId now (loadCheckpoint settings file)
      ControllerCheckpoint.written
        { base with
          checkpointId := sessionId ++ ":before_compaction"
          compaction :=
            { strategyName := compaction.strategyName
              compactionSequence := base.compaction.compactionSequence + 1
              haloSummary := compressedHalo
              recentTurnIds := compaction.recentTurnIds
              driftStatus := base.compaction.driftStatus }
          createdAt := now
          checkpointVersion := "0.1.0" }
  else file

/-- The arguments of `finalize_queue` apart from the session. -/
structure Finalization where
  currentWave : String
  queueItems : List QueueItem
  blockerPacketPresent : Bool
  nextStageCandidate : Option StageCandidate
  controlPlaneTruth : Option ControlPlaneTruth
  abortRequested : Bool

/-- The answer of `finalize_queue`. A candidate is derived where none is given, without a session
or with a control plane truth. -/
def Finalization.decision (finalization : Finalization) (sessionId : Option String) :
    QueueDecision :=
  let candidate :=
    if finalization.nextStageCandidate.isNone ∧
        (sessionId = none ∨ finalization.controlPlaneTruth.isSome) then
      deriveNextStageCandidate (settings.fold finalization.currentWave) finalization.queueItems
        finalization.controlPlaneTruth
    else finalization.nextStageCandidate
  finalizeQueueState finalization.currentWave finalization.queueItems
    finalization.blockerPacketPresent candidate finalization.abortRequested

/-- `_queue_snapshot_for_decision`. -/
def queueSnapshotForDecision (queueItems : List QueueItem) (decision : QueueDecision) :
    Option QueueState :=
  match decision.instantiatedWave with
  | some wave =>
    some { wave.toQueueState with
      status := if decision.action = .continue then "active" else wave.status }
  | none =>
    decision.nextWaveName.bind fun waveName =>
      (queueItems.find? (·.waveName = waveName)).map fun item =>
        { waveName := item.waveName
          status := if decision.action = .continue then "active" else item.status
          runPolicy := item.runPolicy
          eligible := item.eligible
          requiresExplicitRequest := item.requiresExplicitRequest
          approvalAuthority := item.approvalAuthority }

/-- `_persist_queue_truth`. -/
def persistQueueTruth (queueItems : List QueueItem) (decision : QueueDecision)
    (file : CheckpointFile) : CheckpointFile :=
  match (loadCheckpoint settings file).checkpoint with
  | none => file
  | some checkpoint =>
    ControllerCheckpoint.written
      { checkpoint with
        queue := queueSnapshotForDecision queueItems decision
        terminalState := decision.terminalState }

/-! ### Operations on the files of all sessions -/

/-- The checkpoint files by session. -/
abbrev Files := String → CheckpointFile

/-- The operations, each on its session. -/
inductive Operation
  | finalizeQueue (sessionId : Option String) (finalization : Finalization)
  | recordStageTransition (sessionId : String) (transition : StageTransition)
  | prepareCompaction (sessionId : String) (compaction : Compaction)
  | resume (sessionId : String) (fallback : ProtectedCore)

/-- One operation at the time `now`; `resume` and `finalize_queue` without a session write
nothing. -/
def step (files : Files) : String × Operation → Option Files
  | (now, .recordStageTransition sessionId transition) =>
    some (Function.update files sessionId
      (recordStageTransition settings transition sessionId now (files sessionId)))
  | (now, .prepareCompaction sessionId compaction) =>
    some (Function.update files sessionId
      (prepareCompaction settings compaction sessionId now (files sessionId)))
  | (_, .finalizeQueue (some sessionId) finalization) =>
    some (Function.update files sessionId
      (persistQueueTruth settings finalization.queueItems
        (finalization.decision settings (some sessionId)) (files sessionId)))
  | (_, .finalizeQueue none _) => some files
  | (_, .resume _ _) => some files

/-! ### What is loaded -/

variable {settings}

/-- **A written checkpoint loads exactly if it meets the contract.** -/
theorem loadCheckpoint_written (checkpoint : ControllerCheckpoint) :
    (loadCheckpoint settings checkpoint.written).checkpoint =
      if settings.controllerCheckpointsEnabled ∧ Schema.accepts checkpointSchema checkpoint.toDict
      then some checkpoint else none := by
  unfold loadCheckpoint ControllerCheckpoint.written
  by_cases henabled : settings.controllerCheckpointsEnabled
  · by_cases haccepts : Schema.accepts checkpointSchema checkpoint.toDict
    · simp [henabled, haccepts]
    · simp [henabled, haccepts, failSoft]
  · simp [henabled, failSoft]

theorem loadCheckpoint_decision_of_none {file : CheckpointFile}
    (h : (loadCheckpoint settings file).checkpoint = none) :
    (loadCheckpoint settings file).decision.action = "review" := by
  unfold loadCheckpoint at h ⊢
  split_ifs at h ⊢
  · split at h
    · rfl
    · rfl
    · split_ifs at h ⊢
      rfl
  · rfl

theorem loadCheckpoint_decision_of_some {file : CheckpointFile} {checkpoint : ControllerCheckpoint}
    (h : (loadCheckpoint settings file).checkpoint = some checkpoint) :
    (loadCheckpoint settings file).decision = checkpoint.controllerLastDecision := by
  unfold loadCheckpoint at h ⊢
  split_ifs at h ⊢
  · split at h
    · cases h
    · cases h
    · split_ifs at h ⊢
      · exact congrArg ControllerCheckpoint.controllerLastDecision (Option.some.inj h)
      · cases h
  · cases h

/-! ### What is resumed -/

/-- The action that `resume` gives for a loaded checkpoint. -/
def ControllerCheckpoint.resumed (checkpoint : ControllerCheckpoint) : String :=
  match checkpoint.terminalState, checkpoint.queue with
  | some terminal, _ => terminal.action
  | none, some queue => (nextTerminalOrRunnableState [queue.item] false none false).action.value
  | none, none => checkpoint.controllerLastDecision.action

theorem enabled_of_loadCheckpoint {file : CheckpointFile} {checkpoint : ControllerCheckpoint}
    (h : (loadCheckpoint settings file).checkpoint = some checkpoint) :
    settings.controllerCheckpointsEnabled = true := by
  by_contra hdisabled
  simp [loadCheckpoint, hdisabled, failSoft] at h

theorem resume_action_of_some {file : CheckpointFile} {checkpoint : ControllerCheckpoint}
    (h : (loadCheckpoint settings file).checkpoint = some checkpoint) (fallback : ProtectedCore) :
    (resume settings fallback file).decision.action = checkpoint.resumed := by
  rw [resume, if_pos (enabled_of_loadCheckpoint h), ControllerCheckpoint.resumed]
  cases hterminal : checkpoint.terminalState with
  | some terminal => simp only [h, hterminal]
  | none =>
    cases hqueue : checkpoint.queue with
    | some queue => simp only [h, hterminal, hqueue]
    | none => simp only [h, hterminal, hqueue, loadCheckpoint_decision_of_some h]

theorem resume_action_of_none {file : CheckpointFile}
    (h : (loadCheckpoint settings file).checkpoint = none) (fallback : ProtectedCore) :
    (resume settings fallback file).decision.action = "review" := by
  unfold resume
  split_ifs
  · simp only [h, loadCheckpoint_decision_of_none h]
  · rfl

theorem canMainSelfApproveWave_item (queue : QueueState) :
    canMainSelfApproveWave queue.item = true ↔ queue.approvalAuthority = "main" := by
  simp only [canMainSelfApproveWave, QueueState.item, Bool.not_false, Bool.and_true]
  exact decide_eq_true_iff

/-- The decision on the wave of a snapshot. -/
theorem nextTerminalOrRunnableState_item (queue : QueueState) :
    (nextTerminalOrRunnableState [queue.item] false none false).action =
      if queue.runPolicy = "auto" ∧ queue.eligible = true then .continue
      else if queue.runPolicy = "explicit_request" then
        if queue.approvalAuthority = "main" then .continue else .waitingUserApproval
      else .done := by
  have hpolicy : queue.item.runPolicy = queue.runPolicy := rfl
  have heligible : queue.item.eligible = queue.eligible := rfl
  have hself : canMainSelfApproveWave queue.item = decide (queue.approvalAuthority = "main") := by
    rw [Bool.eq_iff_iff, canMainSelfApproveWave_item, decide_eq_true_iff]
  by_cases hauto : queue.runPolicy = "auto" ∧ queue.eligible = true
  · simp [nextTerminalOrRunnableState, hpolicy, heligible, hauto]
  · by_cases hexplicit : queue.runPolicy = "explicit_request"
    · by_cases hmain : queue.approvalAuthority = "main"
      · simp [nextTerminalOrRunnableState, hpolicy, hexplicit, hself, hmain]
      · simp [nextTerminalOrRunnableState, hpolicy, hexplicit, hself, hmain,
          autoInstantiateNextStage]
    · simp [nextTerminalOrRunnableState, hpolicy, hexplicit, hauto, heligible,
        autoInstantiateNextStage]

end Meridian.Controller
