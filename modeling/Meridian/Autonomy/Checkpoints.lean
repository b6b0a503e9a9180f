import Meridian.Controller.Readback
import Meridian.Foundations.LoadedJson

/-!
# The two readers of a checkpoint

`load_checkpoint` of `BoundedAutonomyService`, from `backend/app/autonomy/service.py`, beside
`load_checkpoint` of `ControllerRuntime`. Both decode with the `from_dict` methods of
`backend/app/controller/models.py`. The runtime does so after it has validated the file; the service
decodes any file, so that `from_dict` meets values of all types here and may raise.

## Main definitions

* `Meridian.Autonomy.LoadedCheckpoint`: a checkpoint with whatever terminal state the file has.
* `Meridian.Autonomy.checkpointFromDict`: `ControllerCheckpoint.from_dict` on loaded JSON.
* `Meridian.Autonomy.loadCheckpoint`: the reader of the service.
* `Meridian.Autonomy.seedCheckpoint`: the checkpoint of `seed_autonomy_run`.
* `Meridian.Autonomy.Decodes`: the shape that `from_dict` takes.

## Main results

* `Meridian.Autonomy.checkpointFromDict_of_accepts`: what the contract takes is decoded to the same
  checkpoint by both.
* `Meridian.Autonomy.readers_agree_iff`: the readers agree on a file exactly if the contract takes
  it or `from_dict` does not.
* `Meridian.Autonomy.seed_readers_disagree`: they disagree on every file of `seed_autonomy_run`.
-/

namespace Meridian.Autonomy

open Foundations Controller

variable {F : Type}

/-! ### Decoding -/

/-- `ControllerCheckpoint`, where the literal types of its fields are not enforced. -/
structure LoadedCheckpoint where
  checkpointId : String
  protectedCore : ProtectedCore
  compaction : CompactionState
  validatedArtifacts : List String
  activeFailureSignal : FailureSignal
  controllerLastDecision : ControllerDecision
  queue : Option QueueState
  terminalState : Option String
  createdAt : String
  checkpointVersion : String

/-- A checkpoint whose terminal state is one of the literals. -/
def LoadedCheckpoint.of (checkpoint : ControllerCheckpoint) : LoadedCheckpoint :=
  { checkpointId := checkpoint.checkpointId
    protectedCore := checkpoint.protectedCore
    compaction := checkpoint.compaction
    validatedArtifacts := checkpoint.validatedArtifacts
    activeFailureSignal := checkpoint.activeFailureSignal
    controllerLastDecision := checkpoint.controllerLastDecision
    queue := checkpoint.queue
    terminalState := checkpoint.terminalState.map TerminalState.text
    createdAt := checkpoint.createdAt
    checkpointVersion := checkpoint.checkpointVersion }

section Decoding

variable (py : PythonText F) (payload : Loaded F)

/-- `ProtectedCore.from_dict`. -/
def protectedCoreFromDict : Except LoadError ProtectedCore := do
  let taskGoal ← payload.item "task_goal"
  let expectedOutput ← payload.item "expected_output"
  let currentStep ← payload.item "current_step"
  let resumePoint ← payload.item "resume_point"
  let hardConstraints ← (← payload.item "hard_constraints").iter
  let businessInvariants ← (← payload.item "business_invariants").iter
  pure
    { taskGoal := taskGoal.text py
      expectedOutput := expectedOutput.text py
      currentStep := currentStep.text py
      resumePoint := resumePoint.text py
      hardConstraints := hardConstraints.map (Loaded.text py)
      businessInvariants := businessInvariants.map (Loaded.text py) }

/-- `CompactionState.from_dict`. -/
def compactionFromDict : Except LoadError CompactionState := do
  let strategyName ← payload.item "strategy_name"
  let compactionSequence ← (← payload.item "compaction_sequence").toInt py
  let haloSummary ← payload.item "halo_summary"
  let recentTurnIds ← (← payload.item "recent_turn_ids").iter
  let recentTurnIds ← recentTurnIds.mapM (Loaded.toInt py)
  let driftStatus ← payload.item "drift_status"
  pure
    { strategyName := strategyName.text py
      compactionSequence := compactionSequence
      haloSummary := haloSummary.text py
      recentTurnIds := recentTurnIds
      driftStatus := driftStatus.text py }

/-- `FailureSignal.from_dict`. -/
def failureSignalFromDict : Except LoadError FailureSignal := do
  let kind ← payload.item "kind"
  let severity ← payload.item "severity"
  let source ← payload.item "source"
  pure
    { kind := kind.text py
      severity := severity.text py
      source := source.text py
      details := (payload.getD "details").text? py }

/-- `ControllerDecision.from_dict`. -/
def decisionFromDict : Except LoadError ControllerDecision := do
  let action ← payload.item "action"
  let reason ← payload.item "reason"
  let source ← payload.item "source"
  pure { action := action.text py, reason := reason.text py, source := source.text py }

/-- `QueueState.from_dict`. -/
def queueFromDict : Except LoadError QueueState := do
  let waveName ← payload.item "wave_name"
  let status ← payload.item "status"
  let runPolicy ← payload.item "run_policy"
  let eligible ← payload.item "eligible"
  pure
    { waveName := waveName.text py
      status := status.text py
      runPolicy := runPolicy.text py
      eligible := eligible.truthy py
      requiresExplicitRequest :=
        ((payload.get? "requires_explicit_request").getD (.bool false)).truthy py
      approvalAuthority := ((payload.get? "approval_authority").getD (.str "user")).text py }

/-- The snapshot of the queue, `None` where the file has none. -/
def queueFromMember : Loaded F → Except LoadError (Option QueueState)
  | .none => pure none
  | queue => do pure (some (← queueFromDict py queue))

/-- `ControllerCheckpoint.from_dict`. -/
def checkpointFromDict : Except LoadError LoadedCheckpoint := do
  let checkpointId ← payload.item "checkpoint_id"
  let checkpointVersion ← payload.item "checkpoint_version"
  let createdAt ← payload.item "created_at"
  let protectedCore ← protectedCoreFromDict py (← payload.item "protected_core")
  let compaction ← compactionFromDict py (← payload.item "compaction")
  let validatedArtifacts ← (← payload.item "validated_artifacts").iter
  let activeFailureSignal ← failureSignalFromDict py (← payload.item "active_failure_signal")
  let controllerLastDecision ← decisionFromDict py (← payload.item "controller_last_decision")
  let queue ← queueFromMember py (payload.getD "queue")
  pure
    { checkpointId := checkpointId.text py
      protectedCore := protectedCore
      compaction := compaction
      validatedArtifacts := validatedArtifacts.map (Loaded.text py)
      activeFailureSignal := activeFailureSignal
      controllerLastDecision := controllerLastDecision
      queue := queue
      terminalState := (payload.getD "terminal_state").text? py
      createdAt := createdAt.text py
      checkpointVersion := checkpointVersion.text py }

end Decoding

/-! ### Files -/

/-- The content of a checkpoint file as `json.loads` reads it. -/
inductive LoadedFile (F : Type)
  | missing
  | unreadable
  | json (payload : Loaded F)

/-- The file as the runtime sees it. -/
def LoadedFile.toFile (py : PythonText F) : LoadedFile F → CheckpointFile
  | missing => .missing
  | unreadable => .unreadable
  | json payload => .json (payload.toJson py)

/-- `load_checkpoint` of the service, which raises what it does not catch. -/
def loadCheckpoint (py : PythonText F) : LoadedFile F → Except LoadError (Option LoadedCheckpoint)
  | .missing => .ok none
  | .unreadable => .ok none
  | .json payload =>
    match checkpointFromDict py payload with
    | .ok checkpoint => .ok (some checkpoint)
    | .error .keyError => .ok none
    | .error .typeError => .ok none
    | .error .other => .error .other

/-- `_write_checkpoint` of the service. -/
def writeCheckpoint (checkpoint : ControllerCheckpoint) : LoadedFile F :=
  .json (.ofJson checkpoint.toDict)

/-- The checkpoint of `seed_autonomy_run`. -/
def seedCheckpoint (jobId now : String) : ControllerCheckpoint :=
  { checkpointId := jobId ++ ":seed"
    protectedCore :=
      { taskGoal := "Execute background analytics refresh for exceptions"
        expectedOutput := "Updated exception report with current data"
        currentStep := "seed_context"
        resumePoint := "seed"
        hardConstraints := ["read_only", "bounded_autonomy"]
        businessInvariants := ["no_writes", "confirmation_required_for_changes"] }
    compaction :=
      { strategyName := "none"
        compactionSequence := 0
        haloSummary := ""
        recentTurnIds := [] }
    validatedArtifacts := []
    activeFailureSignal :=
      { kind := "none", severity := "none", source := "controller", details := none }
    controllerLastDecision :=
      { action := "continue", reason := "seed_autonomy_run", source := "controller" }
    queue := some
      { waveName := "async_read_refresh"
        status := "active"
        runPolicy := "bounded"
        eligible := true
        requiresExplicitRequest := false
        approvalAuthority := "system" }
    terminalState := none
    createdAt := now }

/-! ### What is decoded -/

variable {py : PythonText F} {payload x : Loaded F}

/-- The value is an object with a member of each name, which has the property beside it. -/
def HasMembers (payload : Loaded F) (members : List (String × (Loaded F → Prop))) : Prop :=
  ∀ m ∈ members, ∃ x, payload.get? m.1 = some x ∧ m.2 x

/-- Any value. -/
def Any (_ : Loaded F) : Prop := True

/-- A list, a text or a `dict`. -/
def Iterable : Loaded F → Prop
  | .list _ | .str _ | .dict _ => True
  | _ => False

/-- What `int` takes. -/
def IsInt (py : PythonText F) (x : Loaded F) : Prop := Returns (x.toInt py)

/-- The shape that `ProtectedCore.from_dict` takes. -/
def DecodesCore (payload : Loaded F) : Prop :=
  HasMembers payload
    [("task_goal", Any), ("expected_output", Any), ("current_step", Any), ("resume_point", Any),
     ("hard_constraints", Iterable), ("business_invariants", Iterable)]

/-- The shape that `CompactionState.from_dict` takes. -/
def DecodesCompaction (py : PythonText F) (payload : Loaded F) : Prop :=
  HasMembers payload
    [("strategy_name", Any), ("compaction_sequence", IsInt py), ("halo_summary", Any),
     ("recent_turn_ids", fun x => ∃ items, x.iter = .ok items ∧ ∀ y ∈ items, IsInt py y),
     ("drift_status", Any)]

/-- The shape that `FailureSignal.from_dict` takes. -/
def DecodesSignal (payload : Loaded F) : Prop :=
  HasMembers payload [("kind", Any), ("severity", Any), ("source", Any)]

/-- The shape that `ControllerDecision.from_dict` takes. -/
def DecodesDecision (payload : Loaded F) : Prop :=
  HasMembers payload [("action", Any), ("reason", Any), ("source", Any)]

/-- The shape that `QueueState.from_dict` takes. -/
def DecodesQueue (payload : Loaded F) : Prop :=
  HasMembers payload
    [("wave_name", Any), ("status", Any), ("run_policy", Any), ("eligible", Any)]

/-- The shape that `ControllerCheckpoint.from_dict` takes. -/
def Decodes (py : PythonText F) (payload : Loaded F) : Prop :=
  HasMembers payload
      [("checkpoint_id", Any), ("checkpoint_version", Any), ("created_at", Any),
       ("protected_core", DecodesCore), ("compaction", DecodesCompaction py),
       ("validated_artifacts", Iterable), ("active_failure_signal", DecodesSignal),
       ("controller_last_decision", DecodesDecision)] ∧
    (payload.getD "queue" ≠ .none → DecodesQueue (payload.getD "queue"))

theorem hasMembers_nil : HasMembers payload [] ↔ True := by
  simp [HasMembers]

theorem hasMembers_cons {m : String × (Loaded F → Prop)}
    {members : List (String × (Loaded F → Prop))} :
    HasMembers payload (m :: members) ↔
      (∃ x, payload.get? m.1 = some x ∧ m.2 x) ∧ HasMembers payload members :=
  List.forall_mem_cons

theorem exists_iter_eq_ok : (∃ items, x.iter = .ok items) ↔ Iterable x := by
  cases x <;> simp [Loaded.iter, Iterable]

theorem exists_protectedCoreFromDict :
    (∃ core, protectedCoreFromDict py payload = .ok core) ↔ DecodesCore payload := by
  change Returns _ ↔ _
  simp only [protectedCoreFromDict, DecodesCore, hasMembers_cons, hasMembers_nil, Any, and_true,
    returns_bind, returns_pure, Loaded.item_eq_ok, ← and_assoc, exists_and_right,
    exists_iter_eq_ok]

theorem exists_compactionFromDict :
    (∃ compaction, compactionFromDict py payload = .ok compaction) ↔
      DecodesCompaction py payload := by
  have hmapM {l : List (Loaded F)} :
      (∃ ns, l.mapM (Loaded.toInt py) = .ok ns) ↔ ∀ y ∈ l, IsInt py y := returns_mapM
  have htoInt {x : Loaded F} : (∃ n, x.toInt py = .ok n) ↔ IsInt py x := Iff.rfl
  change Returns _ ↔ _
  simp only [compactionFromDict, DecodesCompaction, hasMembers_cons, hasMembers_nil, Any, and_true,
    returns_bind, returns_pure, Loaded.item_eq_ok, ← and_assoc, exists_and_right, hmapM, htoInt]

theorem exists_failureSignalFromDict :
    (∃ signal, failureSignalFromDict py payload = .ok signal) ↔ DecodesSignal payload := by
  change Returns _ ↔ _
  simp only [failureSignalFromDict, DecodesSignal, hasMembers_cons, hasMembers_nil, Any, and_true,
    returns_bind, returns_pure, Loaded.item_eq_ok, ← and_assoc, exists_and_right]

theorem exists_decisionFromDict :
    (∃ decision, decisionFromDict py payload = .ok decision) ↔ DecodesDecision payload := by
  change Returns _ ↔ _
  simp only [decisionFromDict, DecodesDecision, hasMembers_cons, hasMembers_nil, Any, and_true,
    returns_bind, returns_pure, Loaded.item_eq_ok, ← and_assoc, exists_and_right]

theorem returns_queueFromDict : Returns (queueFromDict py payload) ↔ DecodesQueue payload := by
  simp only [queueFromDict, DecodesQueue, hasMembers_cons, hasMembers_nil, Any, and_true,
    returns_bind, returns_pure, Loaded.item_eq_ok, ← and_assoc, exists_and_right]

theorem exists_queueFromMember :
    (∃ queue, queueFromMember py x = .ok queue) ↔ (x ≠ .none → DecodesQueue x) := by
  change Returns _ ↔ _
  unfold queueFromMember
  split
  · simp
  · next hne =>
    rw [returns_bind]
    simp only [returns_pure, and_true]
    exact returns_queueFromDict.trans ⟨fun h _ => h, fun h => h hne⟩

/-- **What `from_dict` takes.** It returns a checkpoint exactly for objects of the shape. -/
theorem returns_checkpointFromDict :
    Returns (checkpointFromDict py payload) ↔ Decodes py payload := by
  simp only [checkpointFromDict, Decodes, hasMembers_cons, hasMembers_nil, Any, and_true,
    returns_bind, returns_pure, Loaded.item_eq_ok, ← and_assoc, exists_and_right,
    exists_iter_eq_ok, exists_protectedCoreFromDict, exists_compactionFromDict,
    exists_failureSignalFromDict, exists_decisionFromDict, exists_queueFromMember]

/-! ### What the contract takes -/

theorem protectedCoreFromDict_of_accepts
    (h : protectedCoreSchema.accepts (payload.toJson py) = true) :
    protectedCoreFromDict py payload = .ok (.fromDict (payload.toJson py)) := by
  obtain ⟨_, hgoal, goal⟩ := Loaded.exists_text "task_goal" nonemptyString h (by decide)
    (by simp) List.mem_cons_self
  obtain ⟨_, houtput, output⟩ := Loaded.exists_text "expected_output" nonemptyString h (by decide)
    (by simp) List.mem_cons_self
  obtain ⟨_, hstep, step⟩ := Loaded.exists_text "current_step" nonemptyString h (by decide)
    (by simp) List.mem_cons_self
  obtain ⟨_, hpoint, point⟩ := Loaded.exists_text "resume_point" nonemptyString h (by decide)
    (by simp) List.mem_cons_self
  obtain ⟨_, _, hconstraints, hconstraintsItems, constraints⟩ :=
    Loaded.exists_texts "hard_constraints" [.type [.array], .minItems 1, .items nonemptyString] h
      (by decide) (by simp) (by simp) (by simp)
  obtain ⟨_, _, hinvariants, hinvariantsItems, invariants⟩ :=
    Loaded.exists_texts "business_invariants" [.type [.array], .items nonemptyString] h
      (by decide) (by simp) (by simp) (by simp)
  simp only [protectedCoreFromDict, hgoal, houtput, hstep, hpoint, hconstraints, hconstraintsItems,
    hinvariants, hinvariantsItems, ok_bind, goal, output, step, point, constraints, invariants]
  rfl

theorem compactionFromDict_of_accepts (h : compactionSchema.accepts (payload.toJson py) = true) :
    compactionFromDict py payload = .ok (.fromDict (payload.toJson py)) := by
  have htoInt {y : Loaded F}
      (hy : Schema.accepts [.type [.integer], .minimum 0] (y.toJson py) = true) :
      y.toInt py = .ok (y.toJson py).toInt := by
    obtain ⟨t, ht, htype⟩ := exists_hasType_of_accepts hy List.mem_cons_self
    obtain rfl := List.mem_singleton.mp ht
    exact Loaded.toInt_of_hasType htype
  obtain ⟨_, hstrategy, strategy⟩ := Loaded.exists_text "strategy_name" nonemptyString h (by decide)
    (by simp) List.mem_cons_self
  obtain ⟨_, hsequence, hsequenceInt, sequence⟩ :=
    Loaded.exists_item "compaction_sequence" [.type [.integer], .minimum 0] h (by decide) (by simp)
  obtain ⟨_, hhalo, halo⟩ := Loaded.exists_text "halo_summary" [.type [.string]] h (by decide)
    (by simp) List.mem_cons_self
  obtain ⟨_, items, hids, hidItems, ids, haccepts⟩ :=
    Loaded.exists_items "recent_turn_ids" [.type [.array], .items [.type [.integer], .minimum 0]]
      [.type [.integer], .minimum 0] h (by decide) (by simp) (by simp) (by simp)
  obtain ⟨_, hdrift, drift⟩ := Loaded.exists_text "drift_status"
    (stringIn ["stable", "watch", "drift_detected"]) h (by decide) (by simp) List.mem_cons_self
  have hmapM : items.mapM (Loaded.toInt py) =
      .ok (items.map fun y => (y.toJson py).toInt) :=
    mapM_eq_ok fun y hy => htoInt (haccepts y hy)
  simp only [compactionFromDict, hstrategy, hsequence, htoInt hsequenceInt, hhalo, hids, hidItems,
    hmapM, hdrift, ok_bind, strategy, halo, drift, CompactionState.fromDict, sequence, ids,
    List.map_map]
  rfl

/-- A text or `None` as the contract takes it. -/
theorem text?_of_accepts (h : Schema.accepts [.type [.string, .null]] (x.toJson py) = true) :
    x.text? py = (x.toJson py).toStr? := by
  obtain ⟨t, ht, htype⟩ := exists_hasType_of_accepts h List.mem_cons_self
  rcases List.mem_pair.mp ht with rfl | rfl
  · rw [Loaded.eq_str_of_hasType htype]
    rfl
  · rw [Loaded.toJson_eq_null_iff.mp (eq_null_of_hasType htype)]
    rfl

theorem failureSignalFromDict_of_accepts
    (h : failureSignalSchema.accepts (payload.toJson py) = true) :
    failureSignalFromDict py payload = .ok (.fromDict (payload.toJson py)) := by
  obtain ⟨_, hkind, kind⟩ := Loaded.exists_text "kind" nonemptyString h (by decide)
    (by simp) List.mem_cons_self
  obtain ⟨_, hseverity, severity⟩ := Loaded.exists_text "severity"
    (stringIn ["none", "recoverable", "unsafe"]) h (by decide) (by simp) List.mem_cons_self
  obtain ⟨_, hsource, source⟩ := Loaded.exists_text "source" nonemptyString h (by decide)
    (by simp) List.mem_cons_self
  have details : (payload.getD "details").text? py =
      ((payload.toJson py).getD "details").toStr? := by
    rw [Loaded.getD_toJson]
    refine text?_of_accepts ?_
    rw [← Loaded.getD_toJson]
    exact Schema.accepts_getD h (by decide) (by simp)
  simp only [failureSignalFromDict, hkind, hseverity, hsource, ok_bind, kind, severity, source,
    details]
  rfl

theorem decisionFromDict_of_accepts (h : decisionSchema.accepts (payload.toJson py) = true) :
    decisionFromDict py payload = .ok (.fromDict (payload.toJson py)) := by
  obtain ⟨_, haction, action⟩ := Loaded.exists_text "action"
    (stringIn checkpointActions) h (by decide) (by simp) List.mem_cons_self
  obtain ⟨_, hreason, reason⟩ := Loaded.exists_text "reason" nonemptyString h (by decide)
    (by simp) List.mem_cons_self
  obtain ⟨_, hsource, source⟩ := Loaded.exists_text "source"
    (stringIn ["controller", "review", "triage", "validator"]) h (by decide) (by simp)
    List.mem_cons_self
  simp only [decisionFromDict, haction, hreason, hsource, ok_bind, action, reason, source]
  rfl

theorem truthy_of_accepts (h : Schema.accepts [.type [.boolean]] (x.toJson py) = true) :
    x.truthy py = (x.toJson py).toBool := by
  obtain ⟨t, ht, htype⟩ := exists_hasType_of_accepts h List.mem_cons_self
  obtain rfl := List.mem_singleton.mp ht
  exact congrArg (Loaded.truthy py) (Loaded.eq_bool_of_hasType htype)

/-- A queue snapshot that is there. -/
theorem queueFromDict_of_accepts
    (h : Schema.accepts (.type [.object] :: queueMembers) (payload.toJson py) = true) :
    queueFromDict py payload = .ok (.fromDict (payload.toJson py)) := by
  obtain ⟨_, hwave, wave⟩ := Loaded.exists_text "wave_name" nonemptyString h (by decide)
    (by simp) List.mem_cons_self
  obtain ⟨_, hstatus, status⟩ := Loaded.exists_text "status"
    (stringIn ["queued", "active", "done", "blocked"]) h (by decide) (by simp) List.mem_cons_self
  obtain ⟨_, hpolicy, policy⟩ := Loaded.exists_text "run_policy"
    (stringIn runPolicies) h (by decide) (by simp) List.mem_cons_self
  obtain ⟨_, heligible, heligibleBool, eligible⟩ :=
    Loaded.exists_item "eligible" [.type [.boolean]] h (by decide) (by simp)
  obtain ⟨y, hrequest, hrequestBool, request⟩ :=
    Loaded.exists_item "requires_explicit_request" [.type [.boolean]] h (by decide) (by simp)
  have hauthority : ((payload.get? "approval_authority").getD (.str "user")).text py =
      ((payload.toJson py).getD "approval_authority").toStr?.getD "user" := by
    have hadmits := Schema.admits_of_accepts h
      (by simp [queueMembers] : .property "approval_authority" (stringIn ["main", "user"]) ∈ _)
    rw [Keyword.admits_property, Loaded.get?_toJson] at hadmits
    rw [Json.getD, Loaded.get?_toJson]
    cases hget : payload.get? "approval_authority" with
    | none => rfl
    | some z =>
      rw [hget, Option.map_some, Option.all_some] at hadmits
      obtain ⟨s, hs, -⟩ := accepts_stringIn_iff.mp hadmits
      have htype : (z.toJson py).hasType .string = true := by
        rw [hs]
        rfl
      rw [Loaded.eq_str_of_hasType htype]
      rfl
  rw [Loaded.item_eq_ok] at hrequest
  simp only [queueFromDict, hwave, hstatus, hpolicy, heligible, ok_bind, wave, status, policy,
    truthy_of_accepts heligibleBool, hrequest, Option.getD_some, truthy_of_accepts hrequestBool,
    hauthority, ← eligible, ← request]
  rfl

theorem queueFromMember_of_ne (h : x ≠ .none) :
    queueFromMember py x = queueFromDict py x >>= fun queue => .ok (some queue) := by
  cases x with
  | none => exact absurd rfl h
  | _ => rfl

theorem queueFromMember_of_accepts
    (h : Schema.accepts (.type [.object, .null] :: queueMembers) (x.toJson py) = true) :
    queueFromMember py x = .ok (match x.toJson py with
      | .null => none
      | queue => some (.fromDict queue)) := by
  obtain ⟨t, ht, htype⟩ := exists_hasType_of_accepts h List.mem_cons_self
  rcases List.mem_pair.mp ht with rfl | rfl
  · obtain ⟨fields, hfields⟩ := exists_of_hasType_object htype
    have hx : x ≠ .none := by
      rintro rfl
      cases hfields
    have hmembers : Schema.accepts (.type [.object] :: queueMembers) (x.toJson py) = true := by
      rw [hfields] at h ⊢
      exact h
    rw [queueFromMember_of_ne hx, queueFromDict_of_accepts hmembers, hfields]
    rfl
  · rw [Loaded.toJson_eq_null_iff.mp (eq_null_of_hasType htype)]
    rfl

/-- The terminal state that the contract takes is one of the literals. -/
theorem text_ofText?_of_accepts {j : Json} (h : terminalStateSchema.accepts j = true) :
    (j.toStr?.bind TerminalState.ofText?).map TerminalState.text = j.toStr? := by
  obtain ⟨t, ht, htype⟩ := exists_hasType_of_accepts h List.mem_cons_self
  rcases List.mem_pair.mp ht with rfl | rfl
  · obtain ⟨s, rfl⟩ := exists_of_hasType_string htype
    have hmem : s ∈ ["DONE", "BLOCKED", "WAITING_USER_APPROVAL", "ABORTED"] := by
      rw [terminalStateSchema, Schema.accepts_of_isOpen rfl] at h
      simpa [Keyword.admits_type, Json.hasType] using h
    simp only [List.mem_cons, List.not_mem_nil, or_false] at hmem
    rcases hmem with rfl | rfl | rfl | rfl <;> decide
  · rw [eq_null_of_hasType htype]
    rfl

/-- **What the contract takes is decoded to the same checkpoint.** -/
theorem checkpointFromDict_of_accepts (h : checkpointSchema.accepts (payload.toJson py) = true) :
    checkpointFromDict py payload =
      .ok (.of (ControllerCheckpoint.fromDict (payload.toJson py))) := by
  rw [checkpointSchema_eq] at h
  obtain ⟨_, hid, id⟩ := Loaded.exists_text "checkpoint_id" nonemptyString h (by decide)
    (by simp) List.mem_cons_self
  obtain ⟨_, hversion, version⟩ := Loaded.exists_text "checkpoint_version"
    [.type [.string], .const (.str "0.1.0")] h (by decide) (by simp) List.mem_cons_self
  obtain ⟨_, hcreated, created⟩ := Loaded.exists_text "created_at" [.type [.string]] h (by decide)
    (by simp) List.mem_cons_self
  obtain ⟨_, hcore, hcoreAccepts, core⟩ :=
    Loaded.exists_item "protected_core" protectedCoreSchema h (by decide) (by simp)
  obtain ⟨_, hcompaction, hcompactionAccepts, compaction⟩ :=
    Loaded.exists_item "compaction" compactionSchema h (by decide) (by simp)
  obtain ⟨_, _, hartifacts, hartifactItems, artifacts⟩ :=
    Loaded.exists_texts "validated_artifacts" [.type [.array], .items nonemptyString] h
      (by decide) (by simp) (by simp) (by simp)
  obtain ⟨_, hsignal, hsignalAccepts, signal⟩ :=
    Loaded.exists_item "active_failure_signal" failureSignalSchema h (by decide) (by simp)
  obtain ⟨_, hdecision, hdecisionAccepts, decision⟩ :=
    Loaded.exists_item "controller_last_decision" decisionSchema h (by decide) (by simp)
  have hqueue : queueFromMember py (payload.getD "queue") =
      .ok (match (payload.toJson py).getD "queue" with
        | .null => none
        | queue => some (.fromDict queue)) := by
    rw [Loaded.getD_toJson]
    refine queueFromMember_of_accepts ?_
    rw [← Loaded.getD_toJson]
    exact Schema.accepts_getD h (by decide) (by simp)
  have hterminal : terminalStateSchema.accepts ((payload.toJson py).getD "terminal_state") = true :=
    Schema.accepts_getD h (by decide) (by simp)
  have terminal : (payload.getD "terminal_state").text? py =
      ((payload.toJson py).getD "terminal_state").toStr? := by
    rw [Loaded.getD_toJson] at hterminal ⊢
    refine text?_of_accepts ?_
    rw [terminalStateSchema, Schema.accepts_of_isOpen rfl] at hterminal
    rw [Schema.accepts_of_isOpen rfl]
    simp_all
  simp only [checkpointFromDict, hid, hversion, hcreated, hcore, hcompaction, hartifacts,
    hartifactItems, hsignal, hdecision, hqueue, ok_bind,
    protectedCoreFromDict_of_accepts hcoreAccepts,
    compactionFromDict_of_accepts hcompactionAccepts,
    failureSignalFromDict_of_accepts hsignalAccepts,
    decisionFromDict_of_accepts hdecisionAccepts, id, version, created, artifacts, terminal,
    LoadedCheckpoint.of, ControllerCheckpoint.fromDict, text_ofText?_of_accepts hterminal,
    core, compaction, signal, decision]
  rfl

/-! ### The readers -/

/-- The service returns a checkpoint exactly if the runtime returns the same one. -/
def ReadersAgree (settings : Settings) (py : PythonText F) (file : LoadedFile F) : Prop :=
  ∀ checkpoint, loadCheckpoint py file = .ok (some checkpoint) ↔
    (Controller.loadCheckpoint settings (file.toFile py)).checkpoint.map .of = some checkpoint

theorem loadCheckpoint_json_eq {checkpoint : LoadedCheckpoint} :
    loadCheckpoint py (.json payload) = .ok (some checkpoint) ↔
      checkpointFromDict py payload = .ok checkpoint := by
  rw [loadCheckpoint]
  split <;> simp_all

theorem runtime_loadCheckpoint_json {settings : Settings}
    (henabled : settings.controllerCheckpointsEnabled = true) :
    (Controller.loadCheckpoint settings ((LoadedFile.json payload).toFile py)).checkpoint =
      if checkpointSchema.accepts (payload.toJson py) = true then
        some (ControllerCheckpoint.fromDict (payload.toJson py))
      else none := by
  rw [LoadedFile.toFile, Controller.loadCheckpoint, if_pos henabled]
  dsimp only
  split_ifs <;> rfl

/-- What the two readers do with a file. -/
theorem readersAgree_iff_forall {settings : Settings}
    (henabled : settings.controllerCheckpointsEnabled = true) {file : LoadedFile F} :
    ReadersAgree settings py file ↔ ∀ payload, file = .json payload →
      checkpointSchema.accepts (payload.toJson py) = true ∨ ¬ Decodes py payload := by
  cases file with
  | missing =>
    refine iff_of_true (fun checkpoint => ?_) fun _ h => by cases h
    simp [loadCheckpoint, LoadedFile.toFile, Controller.loadCheckpoint, henabled, failSoft]
  | unreadable =>
    refine iff_of_true (fun checkpoint => ?_) fun _ h => by cases h
    simp [loadCheckpoint, LoadedFile.toFile, Controller.loadCheckpoint, henabled, failSoft]
  | json payload =>
    simp only [ReadersAgree, LoadedFile.json.injEq, forall_eq',
      runtime_loadCheckpoint_json henabled, loadCheckpoint_json_eq]
    split_ifs with haccepts
    · simp [haccepts, checkpointFromDict_of_accepts haccepts]
    · simp only [haccepts, Bool.false_eq_true, false_or, Option.map_none, reduceCtorEq, iff_false,
        ← returns_checkpointFromDict, Returns, not_exists]

/-! ### The files of the service -/

theorem map_text_ofJsons (items : List String) :
    (Loaded.ofJsons (items.map Json.str)).map (Loaded.text py) = items := by
  induction items with
  | nil => rfl
  | cons s items ih => exact congrArg (s :: ·) ih

theorem mapM_toInt_ofJsons (ids : List ℤ) :
    (Loaded.ofJsons (ids.map fun id : ℤ => Json.num id)).mapM (Loaded.toInt py) = .ok ids := by
  induction ids with
  | nil => rfl
  | cons n ids ih =>
    rw [List.map_cons, Loaded.ofJsons, List.mapM_cons, ih]
    rfl

theorem protectedCoreFromDict_ofJson (core : ProtectedCore) :
    protectedCoreFromDict py (.ofJson core.toDict) = .ok core := by
  have h : protectedCoreFromDict py (.ofJson core.toDict) =
      .ok
        { core with
          hardConstraints :=
            (Loaded.ofJsons (core.hardConstraints.map Json.str)).map (Loaded.text py)
          businessInvariants :=
            (Loaded.ofJsons (core.businessInvariants.map Json.str)).map (Loaded.text py) } := rfl
  rw [h, map_text_ofJsons, map_text_ofJsons]

theorem compactionFromDict_ofJson (compaction : CompactionState) :
    compactionFromDict py (.ofJson compaction.toDict) = .ok compaction := by
  have h : compactionFromDict py (.ofJson compaction.toDict) =
      (Loaded.ofJsons (compaction.recentTurnIds.map fun id : ℤ => Json.num id)).mapM
        (Loaded.toInt py) >>= fun ids => .ok { compaction with recentTurnIds := ids } := rfl
  rw [h, mapM_toInt_ofJsons]
  rfl

theorem failureSignalFromDict_ofJson (signal : FailureSignal) :
    failureSignalFromDict py (.ofJson signal.toDict) = .ok signal := by
  obtain ⟨kind, severity, source, details⟩ := signal
  cases details with
  | none => rfl
  | some details => rfl

theorem queueFromMember_ofJson (queue : Option QueueState) :
    queueFromMember py (.ofJson ((queue.map QueueState.toDict).getD .null)) = .ok queue := by
  cases queue with
  | none => rfl
  | some queue => rfl

/-- The service reads what it has written. -/
theorem loadCheckpoint_writeCheckpoint (checkpoint : ControllerCheckpoint) :
    loadCheckpoint py (writeCheckpoint checkpoint) = .ok (some (.of checkpoint)) := by
  have hterminal : (Loaded.ofJson (F := F)
      (.strOrNull (checkpoint.terminalState.map TerminalState.text))).text? py =
        checkpoint.terminalState.map TerminalState.text := by
    cases checkpoint.terminalState with
    | none => rfl
    | some t => rfl
  rw [writeCheckpoint, loadCheckpoint_json_eq]
  have h : checkpointFromDict py (.ofJson checkpoint.toDict) = (do
      let core ← protectedCoreFromDict py (.ofJson checkpoint.protectedCore.toDict)
      let compaction ← compactionFromDict py (.ofJson checkpoint.compaction.toDict)
      let signal ← failureSignalFromDict py (.ofJson checkpoint.activeFailureSignal.toDict)
      let queue ← queueFromMember py
        (.ofJson ((checkpoint.queue.map QueueState.toDict).getD .null))
      .ok
        { LoadedCheckpoint.of checkpoint with
          protectedCore := core
          compaction := compaction
          validatedArtifacts :=
            (Loaded.ofJsons (checkpoint.validatedArtifacts.map Json.str)).map (Loaded.text py)
          activeFailureSignal := signal
          queue := queue
          terminalState :=
            (Loaded.ofJson (.strOrNull
              (checkpoint.terminalState.map TerminalState.text))).text? py }) := rfl
  rw [h, protectedCoreFromDict_ofJson, compactionFromDict_ofJson, failureSignalFromDict_ofJson,
    queueFromMember_ofJson, map_text_ofJsons, hterminal]
  rfl

theorem allIntegral_strs (items : List String) :
    Loaded.allIntegral (items.map Json.str) = true := by
  induction items with
  | nil => rfl
  | cons s items ih => exact ih

theorem allIntegral_ints (ids : List ℤ) :
    Loaded.allIntegral (ids.map fun id : ℤ => Json.num id) = true := by
  induction ids with
  | nil => rfl
  | cons n ids ih =>
    rw [List.map_cons, Loaded.allIntegral, ih, Loaded.integral]
    simp

/-- The numbers of a checkpoint are integers. -/
theorem integral_toDict (checkpoint : ControllerCheckpoint) :
    Loaded.integral checkpoint.toDict = true := by
  have hoption (text : Option String) : Loaded.integral (.strOrNull text) = true := by
    cases text <;> rfl
  have hqueue :
      Loaded.integral ((checkpoint.queue.map QueueState.toDict).getD .null) = true := by
    cases checkpoint.queue <;> rfl
  simp [ControllerCheckpoint.toDict, ProtectedCore.toDict, CompactionState.toDict,
    FailureSignal.toDict, ControllerDecision.toDict, strs, Loaded.integral, Loaded.fieldsIntegral,
    allIntegral_strs, allIntegral_ints, hoption, hqueue]

/-- The readers agree on a file of the service exactly if the checkpoint meets the contract. -/
theorem readersAgree_writeCheckpoint_iff {settings : Settings}
    (henabled : settings.controllerCheckpointsEnabled = true) (checkpoint : ControllerCheckpoint) :
    ReadersAgree settings py (writeCheckpoint checkpoint) ↔ checkpoint.Valid := by
  have hdecodes : Decodes py (.ofJson checkpoint.toDict) :=
    returns_checkpointFromDict.mp
      ⟨_, loadCheckpoint_json_eq.mp (loadCheckpoint_writeCheckpoint checkpoint)⟩
  simp only [readersAgree_iff_forall henabled, writeCheckpoint, LoadedFile.json.injEq, forall_eq',
    Loaded.toJson_ofJson _ (integral_toDict checkpoint), checkpoint.accepts_toDict_iff, hdecodes,
    not_true_eq_false, or_false]

theorem not_valid_seedCheckpoint (jobId now : String) : ¬ (seedCheckpoint jobId now).Valid := by
  intro h
  have hpolicy : "bounded" ∈ runPolicies := (h.queue _ rfl).runPolicy
  revert hpolicy
  decide

/-- **When the two checkpoint readers agree.** With checkpoints enabled they agree on a file exactly
if it has no JSON, or JSON that the contract takes or `from_dict` does not; and so on no file of
`seed_autonomy_run`. -/
theorem readers_agree_iff {settings : Settings}
    (henabled : settings.controllerCheckpointsEnabled = true) :
    (∀ file : LoadedFile F, ReadersAgree settings py file ↔ ∀ payload, file = .json payload →
      checkpointSchema.accepts (payload.toJson py) = true ∨ ¬ Decodes py payload) ∧
    ∀ jobId now, ¬ ReadersAgree settings py (writeCheckpoint (seedCheckpoint jobId now)) :=
  ⟨fun _ => readersAgree_iff_forall henabled, fun jobId now =>
    (readersAgree_writeCheckpoint_iff henabled _).not.mpr (not_valid_seedCheckpoint jobId now)⟩

/-! ### The file of a seed -/

/-- A text and float reading of files that have no floats and no texts for numbers. -/
def plainText : PythonText Empty :=
  { value := Empty.elim, int := fun _ => none, repr := fun _ => "" }

/-- A file that is not there is read alike. -/
theorem readers_agree_iff_missing : ReadersAgree pilotSettings plainText .missing :=
  ((readers_agree_iff rfl).1 .missing).mpr nofun

/-- **The readers disagree on a seed.** The service returns the checkpoint that `seed_autonomy_run`
has written, and the runtime returns none. -/
theorem seed_readers_disagree :
    loadCheckpoint plainText (writeCheckpoint (seedCheckpoint "job_1" "2026-03-16T09:00:00Z")) =
        .ok (some (.of (seedCheckpoint "job_1" "2026-03-16T09:00:00Z"))) ∧
      (Controller.loadCheckpoint pilotSettings ((writeCheckpoint
        (seedCheckpoint "job_1" "2026-03-16T09:00:00Z")).toFile plainText)).checkpoint.isNone =
          true ∧
      ¬ ReadersAgree pilotSettings plainText
        (writeCheckpoint (seedCheckpoint "job_1" "2026-03-16T09:00:00Z")) :=
  ⟨loadCheckpoint_writeCheckpoint _, by decide +kernel,
    (readersAgree_writeCheckpoint_iff rfl _).not.mpr (not_valid_seedCheckpoint _ _)⟩

end Meridian.Autonomy
