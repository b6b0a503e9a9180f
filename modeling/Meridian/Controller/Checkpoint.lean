import Meridian.Foundations.JsonSchema

/-!
# Controller checkpoints

The records of `backend/app/controller/models.py`, their JSON form, and the contract
`contracts/controller-checkpoint-schema.json` that every checkpoint is checked against when it is
read back.

## Main definitions

* `Meridian.Controller.ControllerCheckpoint`: a checkpoint.
* `Meridian.Controller.ControllerCheckpoint.toDict`,
  `Meridian.Controller.ControllerCheckpoint.fromDict`:
  its JSON form.
* `Meridian.Controller.checkpointSchema`: the contract.

## Main results

* `Meridian.Controller.ControllerCheckpoint.fromDict_toDict`: a checkpoint survives being written
  and read.
-/

namespace Meridian.Controller

open Foundations

/-- `ProtectedCore`. -/
structure ProtectedCore where
  taskGoal : String
  expectedOutput : String
  currentStep : String
  resumePoint : String
  hardConstraints : List String
  businessInvariants : List String

/-- `FailureSignal`. -/
structure FailureSignal where
  kind : String
  severity : String
  source : String
  details : Option String

/-- `ControllerDecision`. -/
structure ControllerDecision where
  action : String
  reason : String
  source : String

/-- `CompactionState`. -/
structure CompactionState where
  strategyName : String
  compactionSequence : ℤ
  haloSummary : String
  recentTurnIds : List ℤ
  driftStatus : String := "stable"

/-- `QueueState`. -/
structure QueueState where
  waveName : String
  status : String
  runPolicy : String
  eligible : Bool
  requiresExplicitRequest : Bool
  approvalAuthority : String

/-- `ControllerTerminalState`. -/
inductive TerminalState
  | done
  | blocked
  | waitingUserApproval
  | aborted
  deriving DecidableEq

/-- `ControllerCheckpoint`. -/
structure ControllerCheckpoint where
  checkpointId : String
  protectedCore : ProtectedCore
  compaction : CompactionState
  validatedArtifacts : List String
  activeFailureSignal : FailureSignal
  controllerLastDecision : ControllerDecision
  queue : Option QueueState
  terminalState : Option TerminalState
  createdAt : String
  checkpointVersion : String := "0.1.0"

/-! ### JSON form -/

/-- The literal of a terminal state. -/
def TerminalState.text : TerminalState → String
  | done => "DONE"
  | blocked => "BLOCKED"
  | waitingUserApproval => "WAITING_USER_APPROVAL"
  | aborted => "ABORTED"

/-- The terminal state of a literal. -/
def TerminalState.ofText? (text : String) : Option TerminalState :=
  [done, blocked, waitingUserApproval, aborted].find? (·.text = text)

@[simp] theorem TerminalState.ofText?_text (t : TerminalState) : ofText? t.text = some t := by
  cases t <;> decide

/-- A list of strings. -/
def strs (items : List String) : Json := .arr (items.map .str)

/-- `ProtectedCore.to_dict`. -/
def ProtectedCore.toDict (core : ProtectedCore) : Json :=
  .obj
    [("task_goal", .str core.taskGoal),
     ("expected_output", .str core.expectedOutput),
     ("current_step", .str core.currentStep),
     ("resume_point", .str core.resumePoint),
     ("hard_constraints", strs core.hardConstraints),
     ("business_invariants", strs core.businessInvariants)]

/-- `ProtectedCore.from_dict`. -/
def ProtectedCore.fromDict (payload : Json) : ProtectedCore :=
  { taskGoal := (payload.getD "task_goal").toStr
    expectedOutput := (payload.getD "expected_output").toStr
    currentStep := (payload.getD "current_step").toStr
    resumePoint := (payload.getD "resume_point").toStr
    hardConstraints := (payload.getD "hard_constraints").toItems.map Json.toStr
    businessInvariants := (payload.getD "business_invariants").toItems.map Json.toStr }

/-- `FailureSignal.to_dict`. -/
def FailureSignal.toDict (signal : FailureSignal) : Json :=
  .obj
    [("kind", .str signal.kind),
     ("severity", .str signal.severity),
     ("source", .str signal.source),
     ("details", .strOrNull signal.details)]

/-- `FailureSignal.from_dict`. -/
def FailureSignal.fromDict (payload : Json) : FailureSignal :=
  { kind := (payload.getD "kind").toStr
    severity := (payload.getD "severity").toStr
    source := (payload.getD "source").toStr
    details := (payload.getD "details").toStr? }

/-- `ControllerDecision.to_dict`. -/
def ControllerDecision.toDict (decision : ControllerDecision) : Json :=
  .obj
    [("action", .str decision.action),
     ("reason", .str decision.reason),
     ("source", .str decision.source)]

/-- `ControllerDecision.from_dict`. -/
def ControllerDecision.fromDict (payload : Json) : ControllerDecision :=
  { action := (payload.getD "action").toStr
    reason := (payload.getD "reason").toStr
    source := (payload.getD "source").toStr }

/-- `CompactionState.to_dict`. -/
def CompactionState.toDict (compaction : CompactionState) : Json :=
  .obj
    [("strategy_name", .str compaction.strategyName),
     ("compaction_sequence", .num compaction.compactionSequence),
     ("halo_summary", .str compaction.haloSummary),
     ("recent_turn_ids", .arr (compaction.recentTurnIds.map fun id : ℤ => .num id)),
     ("drift_status", .str compaction.driftStatus)]

/-- `CompactionState.from_dict`. -/
def CompactionState.fromDict (payload : Json) : CompactionState :=
  { strategyName := (payload.getD "strategy_name").toStr
    compactionSequence := (payload.getD "compaction_sequence").toInt
    haloSummary := (payload.getD "halo_summary").toStr
    recentTurnIds := (payload.getD "recent_turn_ids").toItems.map Json.toInt
    driftStatus := (payload.getD "drift_status").toStr }

/-- `QueueState.to_dict`. -/
def QueueState.toDict (queue : QueueState) : Json :=
  .obj
    [("wave_name", .str queue.waveName),
     ("status", .str queue.status),
     ("run_policy", .str queue.runPolicy),
     ("eligible", .bool queue.eligible),
     ("requires_explicit_request", .bool queue.requiresExplicitRequest),
     ("approval_authority", .str queue.approvalAuthority)]

/-- `QueueState.from_dict`. -/
def QueueState.fromDict (payload : Json) : QueueState :=
  { waveName := (payload.getD "wave_name").toStr
    status := (payload.getD "status").toStr
    runPolicy := (payload.getD "run_policy").toStr
    eligible := (payload.getD "eligible").toBool
    requiresExplicitRequest := (payload.getD "requires_explicit_request").toBool
    approvalAuthority := (payload.getD "approval_authority").toStr?.getD "user" }

/-- `ControllerCheckpoint.to_dict`. -/
def ControllerCheckpoint.toDict (checkpoint : ControllerCheckpoint) : Json :=
  .obj
    [("checkpoint_id", .str checkpoint.checkpointId),
     ("checkpoint_version", .str checkpoint.checkpointVersion),
     ("created_at", .str checkpoint.createdAt),
     ("protected_core", checkpoint.protectedCore.toDict),
     ("compaction", checkpoint.compaction.toDict),
     ("validated_artifacts", strs checkpoint.validatedArtifacts),
     ("active_failure_signal", checkpoint.activeFailureSignal.toDict),
     ("controller_last_decision", checkpoint.controllerLastDecision.toDict),
     ("queue", (checkpoint.queue.map QueueState.toDict).getD .null),
     ("terminal_state", .strOrNull (checkpoint.terminalState.map TerminalState.text))]

/-- `ControllerCheckpoint.from_dict`. -/
def ControllerCheckpoint.fromDict (payload : Json) : ControllerCheckpoint :=
  { checkpointId := (payload.getD "checkpoint_id").toStr
    checkpointVersion := (payload.getD "checkpoint_version").toStr
    createdAt := (payload.getD "created_at").toStr
    protectedCore := .fromDict (payload.getD "protected_core")
    compaction := .fromDict (payload.getD "compaction")
    validatedArtifacts := (payload.getD "validated_artifacts").toItems.map Json.toStr
    activeFailureSignal := .fromDict (payload.getD "active_failure_signal")
    controllerLastDecision := .fromDict (payload.getD "controller_last_decision")
    queue :=
      match payload.getD "queue" with
      | .null => none
      | queue => some (.fromDict queue)
    terminalState := (payload.getD "terminal_state").toStr?.bind TerminalState.ofText? }

/-! ### The contract -/

/-- The contract `controller_checkpoint`. A validator without a format checker does not assert
`format`. -/
def checkpointSchema : Schema :=
  [.type [.object], .noAdditionalProperties,
   .required
     ["checkpoint_id", "checkpoint_version", "created_at", "protected_core", "compaction",
      "validated_artifacts", "active_failure_signal", "controller_last_decision", "queue",
      "terminal_state"],
   .property "checkpoint_id" nonemptyString,
   .property "checkpoint_version" [.type [.string], .const (.str "0.1.0")],
   .property "created_at" [.type [.string]],
   .property "protected_core"
     [.type [.object], .noAdditionalProperties,
      .required
        ["task_goal", "expected_output", "current_step", "resume_point", "hard_constraints",
         "business_invariants"],
      .property "task_goal" nonemptyString,
      .property "expected_output" nonemptyString,
      .property "current_step" nonemptyString,
      .property "resume_point" nonemptyString,
      .property "hard_constraints" [.type [.array], .minItems 1, .items nonemptyString],
      .property "business_invariants" [.type [.array], .items nonemptyString]],
   .property "compaction"
     [.type [.object], .noAdditionalProperties,
      .required
        ["strategy_name", "compaction_sequence", "halo_summary", "recent_turn_ids",
         "drift_status"],
      .property "strategy_name" nonemptyString,
      .property "compaction_sequence" [.type [.integer], .minimum 0],
      .property "halo_summary" [.type [.string]],
      .property "recent_turn_ids" [.type [.array], .items [.type [.integer], .minimum 0]],
      .property "drift_status" (stringIn ["stable", "watch", "drift_detected"])],
   .property "validated_artifacts" [.type [.array], .items nonemptyString],
   .property "active_failure_signal"
     [.type [.object], .noAdditionalProperties,
      .required ["kind", "severity", "source", "details"],
      .property "kind" nonemptyString,
      .property "severity" (stringIn ["none", "recoverable", "unsafe"]),
      .property "source" nonemptyString,
      .property "details" [.type [.string, .null]]],
   .property "controller_last_decision"
     [.type [.object], .noAdditionalProperties,
      .required ["action", "reason", "source"],
      .property "action" (stringIn ["continue", "review", "repair", "abort"]),
      .property "reason" nonemptyString,
      .property "source" (stringIn ["controller", "review", "triage", "validator"])],
   .property "queue"
     [.type [.object, .null], .noAdditionalProperties,
      .required ["wave_name", "status", "run_policy", "eligible", "requires_explicit_request"],
      .property "wave_name" nonemptyString,
      .property "status" (stringIn ["queued", "active", "done", "blocked"]),
      .property "run_policy" (stringIn ["auto", "explicit_request", "blocked_until_input"]),
      .property "eligible" [.type [.boolean]],
      .property "requires_explicit_request" [.type [.boolean]],
      .property "approval_authority" (stringIn ["main", "user"])],
   .property "terminal_state"
     [.type [.string, .null],
      .enum [.str "DONE", .str "BLOCKED", .str "WAITING_USER_APPROVAL", .str "ABORTED", .null]]]

/-! ### Round trip -/

@[simp] theorem map_toStr (items : List String) : (items.map Json.str).map Json.toStr = items := by
  rw [List.map_map]
  exact List.map_id items

@[simp] theorem map_toInt (ids : List ℤ) :
    (ids.map fun id : ℤ => Json.num id).map Json.toInt = ids := by
  rw [List.map_map]
  exact List.map_id ids

@[simp] theorem ProtectedCore.fromDict_toDict (core : ProtectedCore) :
    fromDict core.toDict = core := by
  have h : fromDict core.toDict =
      { core with
        hardConstraints := (core.hardConstraints.map Json.str).map Json.toStr
        businessInvariants := (core.businessInvariants.map Json.str).map Json.toStr } := rfl
  rw [h, map_toStr, map_toStr]

@[simp] theorem FailureSignal.fromDict_toDict (signal : FailureSignal) :
    fromDict signal.toDict = signal := by
  obtain ⟨kind, severity, source, details⟩ := signal
  cases details with
  | none => rfl
  | some details => rfl

@[simp] theorem ControllerDecision.fromDict_toDict (decision : ControllerDecision) :
    fromDict decision.toDict = decision := rfl

@[simp] theorem CompactionState.fromDict_toDict (compaction : CompactionState) :
    fromDict compaction.toDict = compaction := by
  have h : fromDict compaction.toDict =
      { compaction with
        recentTurnIds :=
          (compaction.recentTurnIds.map fun id : ℤ => Json.num id).map Json.toInt } := rfl
  rw [h, map_toInt]

@[simp] theorem QueueState.fromDict_toDict (queue : QueueState) :
    fromDict queue.toDict = queue := rfl

/-- **Round trip.** A checkpoint that is written and read back is the same. -/
@[simp] theorem ControllerCheckpoint.fromDict_toDict (checkpoint : ControllerCheckpoint) :
    fromDict checkpoint.toDict = checkpoint := by
  have hqueue : (match (checkpoint.queue.map QueueState.toDict).getD Json.null with
      | .null => none
      | queue => some (QueueState.fromDict queue)) = checkpoint.queue := by
    cases checkpoint.queue with
    | none => rfl
    | some queue => rfl
  have h : fromDict checkpoint.toDict =
      { checkpoint with
        protectedCore := .fromDict checkpoint.protectedCore.toDict
        compaction := .fromDict checkpoint.compaction.toDict
        validatedArtifacts := (checkpoint.validatedArtifacts.map Json.str).map Json.toStr
        activeFailureSignal := .fromDict checkpoint.activeFailureSignal.toDict
        queue :=
          match (checkpoint.queue.map QueueState.toDict).getD Json.null with
          | .null => none
          | queue => some (QueueState.fromDict queue)
        terminalState :=
          (Json.strOrNull (checkpoint.terminalState.map TerminalState.text)).toStr?.bind
            TerminalState.ofText? } := rfl
  have hterminal : (checkpoint.terminalState.map TerminalState.text).bind TerminalState.ofText? =
      checkpoint.terminalState := by
    cases checkpoint.terminalState with
    | none => rfl
    | some t => exact TerminalState.ofText?_text t
  rw [h, hqueue, Json.toStr?_strOrNull, hterminal]
  simp only [ProtectedCore.fromDict_toDict, CompactionState.fromDict_toDict, map_toStr,
    FailureSignal.fromDict_toDict]

end Meridian.Controller
