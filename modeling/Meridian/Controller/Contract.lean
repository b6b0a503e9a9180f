import Meridian.Controller.Checkpoint
import Mathlib.Tactic.MkIffOfInductiveProp

/-!
# Checkpoints that meet the contract

What `contracts/controller-checkpoint-schema.json` asks of a record in terms of its fields. The
contract is narrower than the types of the records: a `ControllerAction` may be any of eight
literals, and a decision in a checkpoint only one of four.

## Main definitions

* `Meridian.Controller.ControllerCheckpoint.Valid`: the fields meet the contract.

## Main results

* `Meridian.Controller.ControllerCheckpoint.accepts_toDict_iff`: the contract takes what is written
  exactly if the fields meet it.
* `Meridian.Controller.ControllerCheckpoint.valid_fromDict`: what the contract takes is read back
  with fields that meet it.
-/

namespace Meridian.Controller

open Foundations

/-! ### Fields -/

/-- A protected core that meets the contract. -/
@[mk_iff]
structure ProtectedCore.Valid (core : ProtectedCore) : Prop where
  taskGoal : core.taskGoal ≠ ""
  expectedOutput : core.expectedOutput ≠ ""
  currentStep : core.currentStep ≠ ""
  resumePoint : core.resumePoint ≠ ""
  hardConstraints_ne_nil : core.hardConstraints ≠ []
  hardConstraints : "" ∉ core.hardConstraints
  businessInvariants : "" ∉ core.businessInvariants

/-- A failure signal that meets the contract. -/
@[mk_iff]
structure FailureSignal.Valid (signal : FailureSignal) : Prop where
  kind : signal.kind ≠ ""
  severity : signal.severity ∈ ["none", "recoverable", "unsafe"]
  source : signal.source ≠ ""

/-- The actions that the contract knows. -/
def checkpointActions : List String := ["continue", "review", "repair", "abort"]

/-- A decision that meets the contract. -/
@[mk_iff]
structure ControllerDecision.Valid (decision : ControllerDecision) : Prop where
  action : decision.action ∈ checkpointActions
  reason : decision.reason ≠ ""
  source : decision.source ∈ ["controller", "review", "triage", "validator"]

/-- A compaction state that meets the contract. -/
@[mk_iff]
structure CompactionState.Valid (compaction : CompactionState) : Prop where
  strategyName : compaction.strategyName ≠ ""
  compactionSequence : 0 ≤ compaction.compactionSequence
  recentTurnIds : ∀ id ∈ compaction.recentTurnIds, 0 ≤ id
  driftStatus : compaction.driftStatus ∈ ["stable", "watch", "drift_detected"]

/-- The run policies that the contract knows. -/
def runPolicies : List String := ["auto", "explicit_request", "blocked_until_input"]

/-- A queue snapshot that meets the contract. -/
@[mk_iff]
structure QueueState.Valid (queue : QueueState) : Prop where
  waveName : queue.waveName ≠ ""
  status : queue.status ∈ ["queued", "active", "done", "blocked"]
  runPolicy : queue.runPolicy ∈ runPolicies
  approvalAuthority : queue.approvalAuthority ∈ ["main", "user"]

/-- A checkpoint that meets the contract. -/
@[mk_iff]
structure ControllerCheckpoint.Valid (checkpoint : ControllerCheckpoint) : Prop where
  checkpointId : checkpoint.checkpointId ≠ ""
  checkpointVersion : checkpoint.checkpointVersion = "0.1.0"
  protectedCore : checkpoint.protectedCore.Valid
  compaction : checkpoint.compaction.Valid
  validatedArtifacts : "" ∉ checkpoint.validatedArtifacts
  activeFailureSignal : checkpoint.activeFailureSignal.Valid
  controllerLastDecision : checkpoint.controllerLastDecision.Valid
  queue : ∀ queue ∈ checkpoint.queue, queue.Valid

/-! ### The parts of the contract -/

/-- `protected_core`. -/
def protectedCoreSchema : Schema :=
  [.type [.object], .noAdditionalProperties,
   .required
     ["task_goal", "expected_output", "current_step", "resume_point", "hard_constraints",
      "business_invariants"],
   .property "task_goal" nonemptyString,
   .property "expected_output" nonemptyString,
   .property "current_step" nonemptyString,
   .property "resume_point" nonemptyString,
   .property "hard_constraints" [.type [.array], .minItems 1, .items nonemptyString],
   .property "business_invariants" [.type [.array], .items nonemptyString]]

/-- `compaction`. -/
def compactionSchema : Schema :=
  [.type [.object], .noAdditionalProperties,
   .required
     ["strategy_name", "compaction_sequence", "halo_summary", "recent_turn_ids", "drift_status"],
   .property "strategy_name" nonemptyString,
   .property "compaction_sequence" [.type [.integer], .minimum 0],
   .property "halo_summary" [.type [.string]],
   .property "recent_turn_ids" [.type [.array], .items [.type [.integer], .minimum 0]],
   .property "drift_status" (stringIn ["stable", "watch", "drift_detected"])]

/-- `active_failure_signal`. -/
def failureSignalSchema : Schema :=
  [.type [.object], .noAdditionalProperties,
   .required ["kind", "severity", "source", "details"],
   .property "kind" nonemptyString,
   .property "severity" (stringIn ["none", "recoverable", "unsafe"]),
   .property "source" nonemptyString,
   .property "details" [.type [.string, .null]]]

/-- `controller_last_decision`. -/
def decisionSchema : Schema :=
  [.type [.object], .noAdditionalProperties,
   .required ["action", "reason", "source"],
   .property "action" (stringIn checkpointActions),
   .property "reason" nonemptyString,
   .property "source" (stringIn ["controller", "review", "triage", "validator"])]

/-- The keywords of `queue` apart from its type. -/
def queueMembers : Schema :=
  [.noAdditionalProperties,
   .required ["wave_name", "status", "run_policy", "eligible", "requires_explicit_request"],
   .property "wave_name" nonemptyString,
   .property "status" (stringIn ["queued", "active", "done", "blocked"]),
   .property "run_policy" (stringIn runPolicies),
   .property "eligible" [.type [.boolean]],
   .property "requires_explicit_request" [.type [.boolean]],
   .property "approval_authority" (stringIn ["main", "user"])]

/-- `terminal_state`. -/
def terminalStateSchema : Schema :=
  [.type [.string, .null],
   .enum [.str "DONE", .str "BLOCKED", .str "WAITING_USER_APPROVAL", .str "ABORTED", .null]]

/-- The contract by its parts. -/
theorem checkpointSchema_eq : checkpointSchema =
    [.type [.object], .noAdditionalProperties,
     .required
       ["checkpoint_id", "checkpoint_version", "created_at", "protected_core", "compaction",
        "validated_artifacts", "active_failure_signal", "controller_last_decision", "queue",
        "terminal_state"],
     .property "checkpoint_id" nonemptyString,
     .property "checkpoint_version" [.type [.string], .const (.str "0.1.0")],
     .property "created_at" [.type [.string]],
     .property "protected_core" protectedCoreSchema,
     .property "compaction" compactionSchema,
     .property "validated_artifacts" [.type [.array], .items nonemptyString],
     .property "active_failure_signal" failureSignalSchema,
     .property "controller_last_decision" decisionSchema,
     .property "queue" (.type [.object, .null] :: queueMembers),
     .property "terminal_state" terminalStateSchema] := rfl

/-! ### What is written -/

theorem accepts_strs_iff (items : List String) :
    Schema.accepts [.type [.array], .items nonemptyString] (strs items) = true ↔ "" ∉ items := by
  have hne : (∀ s ∈ items, s ≠ "") ↔ "" ∉ items :=
    ⟨fun h hmem => h "" hmem rfl, fun h s hs heq => h (heq ▸ hs)⟩
  rw [← hne, Schema.accepts_of_isOpen rfl]
  simp [strs, Keyword.admits_type, Json.hasType]

theorem accepts_strs_nonempty_iff (items : List String) :
    Schema.accepts [.type [.array], .minItems 1, .items nonemptyString] (strs items) = true ↔
      items ≠ [] ∧ "" ∉ items := by
  rw [← accepts_strs_iff, Schema.accepts_of_isOpen rfl, Schema.accepts_of_isOpen rfl]
  simp [strs, Keyword.admits_type, Json.hasType, Nat.one_le_iff_ne_zero]

theorem accepts_nat_iff (n : ℤ) :
    Schema.accepts [.type [.integer], .minimum 0] (.num n) = true ↔ 0 ≤ n := by
  rw [Schema.accepts_of_isOpen rfl, ← Rat.intCast_nonneg]
  simp [Keyword.admits_type, Json.hasType]

theorem accepts_nats_iff (ids : List ℤ) :
    Schema.accepts [.type [.array], .items [.type [.integer], .minimum 0]]
        (.arr (ids.map fun id : ℤ => .num id)) = true ↔ ∀ id ∈ ids, 0 ≤ id := by
  rw [Schema.accepts_of_isOpen rfl]
  simp [Keyword.admits_type, Json.hasType, accepts_nat_iff]

theorem ProtectedCore.accepts_toDict_iff (core : ProtectedCore) :
    protectedCoreSchema.accepts core.toDict = true ↔ core.Valid := by
  rw [protectedCoreSchema, Schema.accepts_eq, ProtectedCore.valid_iff]
  simp [Keyword.closes, Keyword.declares, Keyword.admits_type, Json.hasType, List.lookup_cons,
    ProtectedCore.toDict, accepts_strs_iff, accepts_strs_nonempty_iff, and_assoc]

theorem FailureSignal.accepts_toDict_iff (signal : FailureSignal) :
    failureSignalSchema.accepts signal.toDict = true ↔ signal.Valid := by
  have hdetails : Schema.accepts [.type [.string, .null]] (.strOrNull signal.details) = true := by
    cases signal.details <;> rfl
  rw [failureSignalSchema, Schema.accepts_eq, FailureSignal.valid_iff]
  simp [-accepts_type, Keyword.closes, Keyword.declares, Keyword.admits_type, Json.hasType,
    List.lookup_cons, FailureSignal.toDict, hdetails]

theorem ControllerDecision.accepts_toDict_iff (decision : ControllerDecision) :
    decisionSchema.accepts decision.toDict = true ↔ decision.Valid := by
  rw [decisionSchema, Schema.accepts_eq, ControllerDecision.valid_iff]
  simp [Keyword.closes, Keyword.declares, Keyword.admits_type, Json.hasType, List.lookup_cons,
    ControllerDecision.toDict]

theorem CompactionState.accepts_toDict_iff (compaction : CompactionState) :
    compactionSchema.accepts compaction.toDict = true ↔ compaction.Valid := by
  rw [compactionSchema, Schema.accepts_eq, CompactionState.valid_iff]
  simp [Keyword.closes, Keyword.declares, Keyword.admits_type, Json.hasType, List.lookup_cons,
    CompactionState.toDict, accepts_nat_iff, accepts_nats_iff]

theorem QueueState.accepts_toDict_iff (queue : QueueState) :
    Schema.accepts (.type [.object, .null] :: queueMembers) queue.toDict = true ↔ queue.Valid := by
  rw [queueMembers, Schema.accepts_eq, QueueState.valid_iff]
  simp [Keyword.closes, Keyword.declares, Keyword.admits_type, Json.hasType, List.lookup_cons,
    QueueState.toDict]

/-- **What meets the contract.** The contract takes a checkpoint that is written exactly if its
fields meet it. -/
theorem ControllerCheckpoint.accepts_toDict_iff (checkpoint : ControllerCheckpoint) :
    checkpointSchema.accepts checkpoint.toDict = true ↔ checkpoint.Valid := by
  have hversion : Schema.accepts [.type [.string], .const (.str "0.1.0")]
      (.str checkpoint.checkpointVersion) = true ↔ checkpoint.checkpointVersion = "0.1.0" := by
    rw [Schema.accepts_of_isOpen rfl]
    simp [Keyword.admits_type, Json.hasType]
  have hqueue : Schema.accepts (.type [.object, .null] :: queueMembers)
      ((checkpoint.queue.map QueueState.toDict).getD .null) = true ↔
        ∀ queue ∈ checkpoint.queue, queue.Valid := by
    cases checkpoint.queue with
    | none => exact iff_of_true rfl fun _ h => by cases h
    | some queue => simpa using queue.accepts_toDict_iff
  have hterminal : terminalStateSchema.accepts
      (.strOrNull (checkpoint.terminalState.map TerminalState.text)) = true := by
    cases checkpoint.terminalState with
    | none => rfl
    | some terminal => cases terminal <;> rfl
  rw [checkpointSchema_eq, Schema.accepts_eq, ControllerCheckpoint.valid_iff]
  simp [Keyword.closes, Keyword.declares, Keyword.admits_type, Json.hasType, List.lookup_cons,
    ControllerCheckpoint.toDict, hversion, hqueue, hterminal, accepts_strs_iff,
    ProtectedCore.accepts_toDict_iff, CompactionState.accepts_toDict_iff,
    FailureSignal.accepts_toDict_iff, ControllerDecision.accepts_toDict_iff]

/-! ### What is read back -/

variable {payload x : Json}

theorem toStr_ne_empty (h : nonemptyString.accepts x = true) : x.toStr ≠ "" := by
  obtain ⟨s, rfl, hs⟩ := accepts_nonemptyString_iff.mp h
  exact hs

theorem toStr_mem {texts : List String} (h : (stringIn texts).accepts x = true) :
    x.toStr ∈ texts := by
  obtain ⟨s, rfl, hs⟩ := accepts_stringIn_iff.mp h
  exact hs

/-- The items of an array that a schema asks of each item. -/
theorem accepts_toItems {schema item : Schema} (h : schema.accepts x = true)
    (hmem : .items item ∈ schema) : ∀ y ∈ x.toItems, item.accepts y = true := by
  intro y hy
  have hitems := Schema.admits_of_accepts h hmem
  cases x with
  | arr items =>
    rw [Keyword.admits_items, List.all_eq_true] at hitems
    exact hitems y hy
  | scalar v => cases hy
  | obj fields => cases hy

theorem texts_of_accepts
    (h : Schema.accepts [.type [.array], .items nonemptyString] x = true) :
    "" ∉ x.toItems.map Json.toStr := by
  rw [List.mem_map]
  rintro ⟨y, hy, heq⟩
  exact toStr_ne_empty (accepts_toItems h (by simp) y hy) heq

theorem texts_of_accepts_nonempty
    (h : Schema.accepts [.type [.array], .minItems 1, .items nonemptyString] x = true) :
    x.toItems.map Json.toStr ≠ [] ∧ "" ∉ x.toItems.map Json.toStr := by
  obtain ⟨t, ht, hx⟩ := exists_hasType_of_accepts h List.mem_cons_self
  obtain rfl := List.mem_singleton.mp ht
  obtain ⟨items, rfl⟩ := exists_of_hasType_array hx
  have hlength := Schema.admits_of_accepts h (List.mem_cons_of_mem _ List.mem_cons_self)
  rw [Keyword.admits_minItems, decide_eq_true_eq, Nat.one_le_iff_ne_zero] at hlength
  refine ⟨fun hnil => ?_, texts_of_accepts ?_⟩
  · rw [List.map_eq_nil_iff] at hnil
    exact hlength (List.length_eq_zero_iff.mpr hnil)
  · rw [Schema.accepts_of_isOpen rfl] at h ⊢
    simp_all

theorem toInt_nonneg (h : Schema.accepts [.type [.integer], .minimum 0] x = true) :
    0 ≤ x.toInt := by
  obtain ⟨t, ht, hx⟩ := exists_hasType_of_accepts h List.mem_cons_self
  obtain rfl := List.mem_singleton.mp ht
  obtain ⟨n, rfl⟩ := exists_of_hasType_integer hx
  exact (accepts_nat_iff n).mp h

theorem ProtectedCore.valid_fromDict (h : protectedCoreSchema.accepts payload = true) :
    (fromDict payload).Valid :=
  have hconstraints : Schema.accepts [.type [.array], .minItems 1, .items nonemptyString]
      (payload.getD "hard_constraints") = true :=
    Schema.accepts_getD h (by decide) (by simp)
  have hinvariants : Schema.accepts [.type [.array], .items nonemptyString]
      (payload.getD "business_invariants") = true :=
    Schema.accepts_getD h (by decide) (by simp)
  { taskGoal := toStr_ne_empty (Schema.accepts_getD h (by decide) (by simp))
    expectedOutput := toStr_ne_empty (Schema.accepts_getD h (by decide) (by simp))
    currentStep := toStr_ne_empty (Schema.accepts_getD h (by decide) (by simp))
    resumePoint := toStr_ne_empty (Schema.accepts_getD h (by decide) (by simp))
    hardConstraints_ne_nil := (texts_of_accepts_nonempty hconstraints).1
    hardConstraints := (texts_of_accepts_nonempty hconstraints).2
    businessInvariants := texts_of_accepts hinvariants }

theorem FailureSignal.valid_fromDict (h : failureSignalSchema.accepts payload = true) :
    (fromDict payload).Valid where
  kind := toStr_ne_empty (Schema.accepts_getD h (by decide) (by simp))
  severity := toStr_mem (Schema.accepts_getD h (by decide) (by simp))
  source := toStr_ne_empty (Schema.accepts_getD h (by decide) (by simp))

theorem ControllerDecision.valid_fromDict (h : decisionSchema.accepts payload = true) :
    (fromDict payload).Valid where
  action := toStr_mem (Schema.accepts_getD h (by decide) (by simp))
  reason := toStr_ne_empty (Schema.accepts_getD h (by decide) (by simp))
  source := toStr_mem (Schema.accepts_getD h (by decide) (by simp))

theorem CompactionState.valid_fromDict (h : compactionSchema.accepts payload = true) :
    (fromDict payload).Valid :=
  have hids : Schema.accepts [.type [.array], .items [.type [.integer], .minimum 0]]
      (payload.getD "recent_turn_ids") = true :=
    Schema.accepts_getD h (by decide) (by simp)
  { strategyName := toStr_ne_empty (Schema.accepts_getD h (by decide) (by simp))
    compactionSequence := toInt_nonneg (Schema.accepts_getD h (by decide) (by simp))
    recentTurnIds := by
      intro id hid
      obtain ⟨y, hy, rfl⟩ := List.mem_map.mp hid
      exact toInt_nonneg (accepts_toItems hids (by simp) y hy)
    driftStatus := toStr_mem (Schema.accepts_getD h (by decide) (by simp)) }

/-- A queue snapshot that is there; one without an authority gets the default one. -/
theorem QueueState.valid_fromDict
    (h : Schema.accepts (.type [.object, .null] :: queueMembers) payload = true)
    (hne : payload ≠ .null) : (fromDict payload).Valid := by
  obtain ⟨fields, rfl⟩ : ∃ fields, payload = .obj fields := by
    obtain ⟨t, ht, hj⟩ := exists_hasType_of_accepts h List.mem_cons_self
    rcases List.mem_pair.mp ht with rfl | rfl
    · exact exists_of_hasType_object hj
    · exact absurd (eq_null_of_hasType hj) hne
  have hauthority : ((Json.obj fields).getD "approval_authority").toStr?.getD "user" ∈
      ["main", "user"] := by
    have hadmits := Schema.admits_of_accepts h
      (by simp [queueMembers] : .property "approval_authority" (stringIn ["main", "user"]) ∈ _)
    rw [Keyword.admits_property] at hadmits
    rw [Json.getD]
    cases hget : (Json.obj fields).get? "approval_authority" with
    | none => decide
    | some x =>
      rw [hget, Option.all_some] at hadmits
      obtain ⟨s, rfl, hs⟩ := accepts_stringIn_iff.mp hadmits
      exact hs
  replace h : Schema.accepts (.type [.object] :: queueMembers) (.obj fields) = true := h
  exact
    { waveName := toStr_ne_empty (Schema.accepts_getD h (by decide) (by simp))
      status := toStr_mem (Schema.accepts_getD h (by decide) (by simp))
      runPolicy := toStr_mem (Schema.accepts_getD h (by decide) (by simp))
      approvalAuthority := hauthority }

/-- **What the contract takes is read back as a checkpoint that meets it.** -/
theorem ControllerCheckpoint.valid_fromDict (h : checkpointSchema.accepts payload = true) :
    (fromDict payload).Valid := by
  rw [checkpointSchema_eq] at h
  have hversion : Schema.accepts [.type [.string], .const (.str "0.1.0")]
      (payload.getD "checkpoint_version") = true :=
    Schema.accepts_getD h (by decide) (by simp)
  have hqueue : Schema.accepts (.type [.object, .null] :: queueMembers) (payload.getD "queue") =
      true :=
    Schema.accepts_getD h (by decide) (by simp)
  exact
    { checkpointId := toStr_ne_empty (Schema.accepts_getD h (by decide) (by simp))
      checkpointVersion := by
        obtain ⟨t, ht, hj⟩ := exists_hasType_of_accepts hversion List.mem_cons_self
        obtain rfl := List.mem_singleton.mp ht
        obtain ⟨s, hs⟩ := exists_of_hasType_string hj
        rw [hs, Schema.accepts_of_isOpen rfl] at hversion
        have hconst : s = "0.1.0" := by simpa [Keyword.admits_type, Json.hasType] using hversion
        rw [fromDict, hs, hconst]
        rfl
      protectedCore := ProtectedCore.valid_fromDict (Schema.accepts_getD h (by decide) (by simp))
      compaction := CompactionState.valid_fromDict (Schema.accepts_getD h (by decide) (by simp))
      validatedArtifacts := texts_of_accepts (Schema.accepts_getD h (by decide) (by simp))
      activeFailureSignal :=
        FailureSignal.valid_fromDict (Schema.accepts_getD h (by decide) (by simp))
      controllerLastDecision :=
        ControllerDecision.valid_fromDict (Schema.accepts_getD h (by decide) (by simp))
      queue := by
        intro queue hmem
        rw [fromDict] at hmem
        split at hmem
        · cases hmem
        · next hne =>
          obtain rfl := Option.some.inj hmem
          exact QueueState.valid_fromDict hqueue hne }

end Meridian.Controller
