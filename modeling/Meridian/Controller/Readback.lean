import Meridian.Controller.Precedence
import Meridian.Controller.Runtime
import Meridian.Foundations.Execution

/-!
# Reading back what the controller writes

The three writers of a session's checkpoint never validate what they write; an invalid checkpoint
shows as a failed load at the next operation, which then starts from nothing. Each of them mixes
fields of its arguments with fields of the checkpoint that it has loaded, and a loaded checkpoint
meets the contract, so that it is the arguments that decide whether the next load succeeds.

## Main definitions

* `Meridian.Controller.Call`: the calls of the writers on one session.
* `Meridian.Controller.Call.WriteOk`: the condition on a call.

## Main results

* `Meridian.Controller.written_loads_iff`: in a run, everything that is written loads exactly if
  every call meets the condition.
* `Meridian.Controller.legacy_done_lost`: a run in which a written checkpoint does not load.
-/

namespace Meridian.Controller

open Foundations

/-! ### Calls -/

/-- The arguments of `record_stage_transition`, with those of the `route_decision` before it. -/
structure StageRecord where
  stageName : String
  protectedCore : ProtectedCore
  route : Route
  validatedArtifacts : List String
  failureSignal : Option FailureSignal

/-- The transition that is recorded. -/
def StageRecord.transition (stage : StageRecord) (precedence : Bool) : StageTransition :=
  { stageName := stage.stageName
    protectedCore := stage.protectedCore
    authoritative := (routeDecision precedence stage.route).authoritative
    validatedArtifacts := stage.validatedArtifacts
    failureSignal := stage.failureSignal }

/-- The calls that write the checkpoint of a session. -/
inductive Call
  | recordStageTransition (stage : StageRecord)
  | prepareCompaction (compaction : Compaction)
  | finalizeQueue (finalization : Finalization)

variable (settings : Settings) (precedence : Bool) (sessionId : String)

/-- The operation of a call. -/
def Call.operation : Call → Operation
  | .recordStageTransition stage => .recordStageTransition sessionId (stage.transition precedence)
  | .prepareCompaction compaction => .prepareCompaction sessionId compaction
  | .finalizeQueue finalization => .finalizeQueue (some sessionId) finalization

/-- The file of the session after a call. -/
def Call.run (now : String) (file : CheckpointFile) : Call → CheckpointFile
  | .recordStageTransition stage =>
    Controller.recordStageTransition settings (stage.transition precedence) sessionId now file
  | .prepareCompaction compaction =>
    Controller.prepareCompaction settings compaction sessionId now file
  | .finalizeQueue finalization =>
    persistQueueTruth settings finalization.queueItems
      (finalization.decision settings (some sessionId)) file

/-- One call at the time `now`. -/
def callStep (file : CheckpointFile) (l : String × Call) : Option CheckpointFile :=
  some (l.2.run settings precedence sessionId l.1 file)

/-- The checkpoint of a compaction. -/
def Compaction.checkpoint (compaction : Compaction) (now : String)
    (loaded : ControllerResumeResult) (compressedHalo : String) : ControllerCheckpoint :=
  let base := compaction.base sessionId now loaded
  { base with
    checkpointId := sessionId ++ ":before_compaction"
    compaction :=
      { strategyName := compaction.strategyName
        compactionSequence := base.compaction.compactionSequence + 1
        haloSummary := compressedHalo
        recentTurnIds := compaction.recentTurnIds
        driftStatus := base.compaction.driftStatus }
    createdAt := now
    checkpointVersion := "0.1.0" }

/-- The checkpoint that a call writes, if it writes one. -/
def Call.written (now : String) (file : CheckpointFile) : Call → Option ControllerCheckpoint
  | .recordStageTransition stage =>
    if settings.controllerCheckpointsEnabled then
      some ((stage.transition precedence).checkpoint sessionId now
        (loadCheckpoint settings file).checkpoint)
    else none
  | .prepareCompaction compaction =>
    if settings.controllerCheckpointsEnabled then
      compaction.compressedHalo.map
        (compaction.checkpoint sessionId now (loadCheckpoint settings file))
    else none
  | .finalizeQueue finalization =>
    let decision := finalization.decision settings (some sessionId)
    (loadCheckpoint settings file).checkpoint.map fun checkpoint =>
      { checkpoint with
        queue := queueSnapshotForDecision finalization.queueItems decision
        terminalState := decision.terminalState }

variable {settings precedence sessionId} {now : String} {file : CheckpointFile} {call : Call}

/-- A call leaves the file as it is or with what it writes. -/
theorem Call.run_eq : call.run settings precedence sessionId now file =
    match call.written settings precedence sessionId now file with
    | none => file
    | some checkpoint => checkpoint.written := by
  cases call with
  | recordStageTransition stage =>
    simp only [Call.run, Call.written, Controller.recordStageTransition]
    split_ifs <;> rfl
  | prepareCompaction compaction =>
    simp only [Call.run, Call.written, Controller.prepareCompaction]
    split_ifs
    · cases compaction.compressedHalo <;> rfl
    · rfl
  | finalizeQueue finalization =>
    simp only [Call.run, Call.written, persistQueueTruth]
    cases (loadCheckpoint settings file).checkpoint <;> rfl

/-- The calls are the operations of the runtime on the session's file. -/
theorem step_operation (files : Files) :
    step settings files (now, call.operation precedence sessionId) =
      some (Function.update files sessionId
        (call.run settings precedence sessionId now (files sessionId))) := by
  cases call <;> rfl

/-! ### What a load gives -/

/-- A loaded checkpoint meets the contract. -/
theorem loadCheckpoint_valid {checkpoint : ControllerCheckpoint}
    (h : (loadCheckpoint settings file).checkpoint = some checkpoint) : checkpoint.Valid := by
  unfold loadCheckpoint at h
  split_ifs at h
  · cases file with
    | missing => cases h
    | unreadable => cases h
    | json payload =>
      dsimp only at h
      split_ifs at h with haccepts
      · obtain rfl := Option.some.inj h
        exact ControllerCheckpoint.valid_fromDict haccepts
      · cases h
  · cases h

/-- The decision of a load meets the contract, also where there is no checkpoint. -/
theorem loadCheckpoint_decision_valid : (loadCheckpoint settings file).decision.Valid := by
  have hfailSoft {reason : String} (h : reason ≠ "") : (failSoft reason).decision.Valid :=
    ⟨by simp [failSoft, checkpointActions], h, by simp [failSoft]⟩
  unfold loadCheckpoint
  split_ifs
  · cases file with
    | missing => exact hfailSoft (by decide)
    | unreadable => exact hfailSoft (by decide)
    | json payload =>
      dsimp only
      split_ifs with haccepts
      · exact (ControllerCheckpoint.valid_fromDict haccepts).controllerLastDecision
      · exact hfailSoft (by decide)
  · exact hfailSoft (by decide)

/-- With checkpoints, what is written loads exactly if it meets the contract. -/
theorem loadCheckpoint_written_eq_some {checkpoint checkpoint' : ControllerCheckpoint}
    (henabled : settings.controllerCheckpointsEnabled = true) :
    (loadCheckpoint settings checkpoint.written).checkpoint = some checkpoint' ↔
      checkpoint.Valid ∧ checkpoint = checkpoint' := by
  rw [loadCheckpoint_written, Option.ite_none_right_eq_some, Option.some.injEq,
    checkpoint.accepts_toDict_iff, and_iff_right henabled]

/-! ### The condition on calls -/

/-- A queue item that meets the contract of a queue snapshot. -/
structure QueueItem.Valid (item : QueueItem) : Prop where
  waveName : item.waveName ≠ ""
  status : item.status ∈ ["queued", "active", "done", "blocked"]
  runPolicy : item.runPolicy ∈ runPolicies
  approvalAuthority : item.approvalAuthority ∈ ["main", "user"]

/-- The protected core, the artifacts, the failure signal and the queue items of a call meet the
contract. -/
def Call.Valid : Call → Prop
  | .recordStageTransition stage =>
    stage.protectedCore.Valid ∧ "" ∉ stage.validatedArtifacts ∧
      ∀ signal ∈ stage.failureSignal, signal.Valid
  | .prepareCompaction compaction => compaction.fallbackProtectedCore.Valid
  | .finalizeQueue finalization => ∀ item ∈ finalization.queueItems, item.Valid

variable (settings precedence file) in
/-- The condition on a call that writes: a stage is routed by its signals or to an action that the
contract knows; the strategy of a compaction has a name and no turn a negative id; a given candidate
that becomes the next wave has a name and a run policy that the contract knows. -/
def Call.WriteOk : Call → Prop
  | .recordStageTransition stage =>
    settings.controllerCheckpointsEnabled = true →
      precedence = true ∨ stage.route.legacyAction.text ∈ checkpointActions
  | .prepareCompaction compaction =>
    settings.controllerCheckpointsEnabled = true → compaction.compressedHalo ≠ none →
      compaction.strategyName ≠ "" ∧ ∀ id ∈ compaction.recentTurnIds, 0 ≤ id
  | .finalizeQueue finalization =>
    (loadCheckpoint settings file).checkpoint ≠ none →
      ∀ stage ∈ finalization.nextStageCandidate,
        Instantiates finalization.queueItems finalization.blockerPacketPresent stage
          finalization.abortRequested →
        stage.waveName ≠ "" ∧ stage.runPolicy ∈ runPolicies

theorem defaultFailureSignal_valid : defaultFailureSignal.Valid :=
  ⟨by decide, List.mem_cons_self, by decide⟩

theorem getD_defaultFailureSignal_valid {signal : Option FailureSignal}
    (h : ∀ s ∈ signal, s.Valid) : (signal.getD defaultFailureSignal).Valid := by
  cases signal with
  | none => exact defaultFailureSignal_valid
  | some s => exact h s rfl

theorem firstCompaction_valid {strategyName : String} (h : strategyName ≠ "") :
    CompactionState.Valid
      { strategyName := strategyName
        compactionSequence := 0
        haloSummary := ""
        recentTurnIds := [] } :=
  ⟨h, Int.le_refl 0, by simp, List.mem_cons_self⟩

/-- What a stage transition writes meets the contract as its decision does. -/
theorem StageTransition.checkpoint_valid_iff {transition : StageTransition}
    {current : Option ControllerCheckpoint} (hcurrent : ∀ c ∈ current, c.Valid)
    (hcore : transition.protectedCore.Valid) (hartifacts : "" ∉ transition.validatedArtifacts)
    (hsignal : ∀ signal ∈ transition.failureSignal, signal.Valid) :
    (transition.checkpoint sessionId now current).Valid ↔ transition.authoritative.Valid := by
  refine ⟨fun h => h.controllerLastDecision, fun hdecision => ?_⟩
  exact
    { checkpointId := by simp [StageTransition.checkpoint]
      checkpointVersion := rfl
      protectedCore := hcore
      compaction := by
        cases current with
        | none => exact firstCompaction_valid (by decide)
        | some current => exact (hcurrent current rfl).compaction
      validatedArtifacts := hartifacts
      activeFailureSignal := getD_defaultFailureSignal_valid hsignal
      controllerLastDecision := hdecision
      queue := by
        intro queue hqueue
        obtain ⟨c, hc, hqueue⟩ := Option.bind_eq_some_iff.mp hqueue
        exact (hcurrent c hc).queue queue hqueue }

/-- What a compaction starts from meets the contract, if it has a strategy with a name. -/
theorem Compaction.base_valid {compaction : Compaction}
    (hcore : compaction.fallbackProtectedCore.Valid) (hname : compaction.strategyName ≠ "") :
    (compaction.base sessionId now (loadCheckpoint settings file)).Valid := by
  rw [Compaction.base]
  cases hload : (loadCheckpoint settings file).checkpoint with
  | some checkpoint => exact loadCheckpoint_valid hload
  | none =>
    exact
      { checkpointId := by simp [Option.getD_none]
        checkpointVersion := rfl
        protectedCore := hcore
        compaction := firstCompaction_valid hname
        validatedArtifacts := by simp
        activeFailureSignal := defaultFailureSignal_valid
        controllerLastDecision := loadCheckpoint_decision_valid
        queue := by simp }

/-- What a compaction writes meets the contract, if the strategy has a name and no turn a negative
id. -/
theorem Compaction.checkpoint_valid_iff {compaction : Compaction} {compressedHalo : String}
    (hcore : compaction.fallbackProtectedCore.Valid) :
    (compaction.checkpoint sessionId now (loadCheckpoint settings file) compressedHalo).Valid ↔
      compaction.strategyName ≠ "" ∧ ∀ id ∈ compaction.recentTurnIds, 0 ≤ id := by
  refine ⟨fun h => ⟨h.compaction.strategyName, h.compaction.recentTurnIds⟩, ?_⟩
  rintro ⟨hname, hids⟩
  have hbase : (compaction.base sessionId now (loadCheckpoint settings file)).Valid :=
    Compaction.base_valid hcore hname
  exact
    { hbase with
      checkpointId := by simp [Compaction.checkpoint]
      checkpointVersion := rfl
      compaction :=
        ⟨hname, Int.add_nonneg hbase.compaction.compactionSequence Int.one_nonneg, hids,
          hbase.compaction.driftStatus⟩ }

/-! ### The snapshot of a decision -/

variable {items : List QueueItem} {finalization : Finalization}

/-- The candidate of `finalize_queue`: the given one or, with a control plane truth, the derived
one. -/
def Finalization.candidate (settings : Settings) (finalization : Finalization) :
    Option StageCandidate :=
  if finalization.nextStageCandidate.isNone ∧ finalization.controlPlaneTruth.isSome then
    deriveNextStageCandidate (settings.fold finalization.currentWave) finalization.queueItems
      finalization.controlPlaneTruth
  else finalization.nextStageCandidate

variable (settings sessionId) in
/-- The decision of `finalize_queue` on a session is one on the queue with this candidate. -/
theorem Finalization.decides :
    Decides finalization.queueItems finalization.blockerPacketPresent
      (finalization.candidate settings) finalization.abortRequested
      (finalization.decision settings (some sessionId)) := by
  have h : Decides finalization.queueItems finalization.blockerPacketPresent
      (finalization.candidate settings) finalization.abortRequested _ :=
    finalizeQueueState_decides finalization.currentWave
  simpa [Finalization.decision, Finalization.candidate] using h

theorem lookup_safeStageSuccessors {foldedWave : String} {stage : StageCandidate}
    (h : safeStageSuccessors.lookup foldedWave = some stage) :
    stage.waveName ≠ "" ∧ stage.runPolicy = "auto" := by
  rw [safeStageSuccessors, List.lookup_cons] at h
  split at h
  · obtain rfl := Option.some.inj h
    exact ⟨by decide, rfl⟩
  · cases h

/-- A derived candidate has a name and runs by itself. -/
theorem deriveNextStageCandidate_eq_some {foldedWave : String} {truth : Option ControlPlaneTruth}
    {stage : StageCandidate} (h : deriveNextStageCandidate foldedWave items truth = some stage) :
    stage.waveName ≠ "" ∧ stage.runPolicy = "auto" := by
  obtain ⟨hstage, -⟩ := Option.filter_eq_some_iff.mp h
  cases truth with
  | none => exact lookup_safeStageSuccessors hstage
  | some truth =>
    dsimp only at hstage
    split_ifs at hstage with haligned
    · exact lookup_safeStageSuccessors hstage
    · obtain rfl := Option.some.inj hstage
      exact ⟨by decide, rfl⟩

/-- The candidate is given, or it has a name and runs by itself. -/
theorem Finalization.candidate_eq_some {stage : StageCandidate}
    (h : finalization.candidate settings = some stage) :
    finalization.nextStageCandidate = some stage ∨
      stage.waveName ≠ "" ∧ stage.runPolicy = "auto" := by
  rw [Finalization.candidate] at h
  split_ifs at h
  · exact .inr (deriveNextStageCandidate_eq_some h)
  · exact .inl h

variable (settings sessionId) in
/-- A given candidate that becomes the next wave is what the decision continues with. -/
theorem Finalization.decision_of_instantiates {stage : StageCandidate}
    (hgiven : finalization.nextStageCandidate = some stage)
    (h : Instantiates finalization.queueItems finalization.blockerPacketPresent stage
      finalization.abortRequested) :
    ∃ reason, finalization.decision settings (some sessionId) =
      { action := .continue, terminalState := none, nextWaveName := some stage.waveName,
        reason := reason, instantiatedWave := some stage.wave } := by
  have hdecision : finalization.decision settings (some sessionId) =
      finalizeQueueState finalization.currentWave finalization.queueItems
        finalization.blockerPacketPresent (some stage) finalization.abortRequested := by
    simp [Finalization.decision, hgiven]
  rw [hdecision, finalizeQueueState, nextTerminalOrRunnableState_of_instantiates h]
  exact ⟨_, rfl⟩

/-- The snapshot of a queue item, active or with its own status. -/
def QueueItem.snapshot (item : QueueItem) (active : Bool) : QueueState :=
  { waveName := item.waveName
    status := if active then "active" else item.status
    runPolicy := item.runPolicy
    eligible := item.eligible
    requiresExplicitRequest := item.requiresExplicitRequest
    approvalAuthority := item.approvalAuthority }

theorem QueueItem.Valid.snapshot {item : QueueItem} (h : item.Valid) (active : Bool) :
    (item.snapshot active).Valid where
  waveName := h.waveName
  status := by
    cases active with
    | false => exact h.status
    | true => simp [QueueItem.snapshot]
  runPolicy := h.runPolicy
  approvalAuthority := h.approvalAuthority

/-- Without an instantiated wave, the snapshot is of the first item with the name. -/
theorem queueSnapshotForDecision_named {decision : QueueDecision} {waveName : String}
    (hwave : decision.instantiatedWave = none) (hname : decision.nextWaveName = some waveName) :
    queueSnapshotForDecision items decision =
      (items.find? (·.waveName = waveName)).map
        (QueueItem.snapshot · (decision.action = .continue)) := by
  rw [queueSnapshotForDecision, hwave, hname]
  simp [QueueItem.snapshot]

variable (settings sessionId) in
/-- The snapshot of a decision meets the contract, unless it is of a given candidate that does
not. -/
theorem queueSnapshotForDecision_valid_iff (hitems : ∀ item ∈ finalization.queueItems, item.Valid) :
    (∀ queue ∈ queueSnapshotForDecision finalization.queueItems
        (finalization.decision settings (some sessionId)), queue.Valid) ↔
      ∀ stage ∈ finalization.nextStageCandidate,
        Instantiates finalization.queueItems finalization.blockerPacketPresent stage
          finalization.abortRequested →
        stage.waveName ≠ "" ∧ stage.runPolicy ∈ runPolicies := by
  have hnamed (waveName : String) (active : Bool) :
      ∀ queue ∈ (finalization.queueItems.find? (·.waveName = waveName)).map
        (QueueItem.snapshot · active), queue.Valid := by
    intro queue hqueue
    obtain ⟨item, hitem, rfl⟩ := Option.map_eq_some_iff.mp hqueue
    exact (hitems item (List.mem_of_find?_eq_some hitem)).snapshot active
  constructor
  · intro hsnapshot stage hgiven h
    obtain ⟨reason, hdecision⟩ := finalization.decision_of_instantiates settings sessionId hgiven h
    rw [hdecision] at hsnapshot
    have hwave := hsnapshot _ rfl
    exact ⟨hwave.waveName, hwave.runPolicy⟩
  · intro hok
    have hdecides := finalization.decides settings sessionId
    generalize finalization.decision settings (some sessionId) = decision at hdecides ⊢
    cases hdecides with
    | aborted => exact nofun
    | blocked => exact nofun
    | activates item _ _ _ hitem =>
      rw [queueSnapshotForDecision_named rfl rfl]
      exact hnamed _ _
    | selfApproves item _ hmem hpolicy hself =>
      rintro queue hqueue
      obtain rfl := Option.some.inj hqueue
      have hitem := hitems item hmem
      exact ⟨hitem.waveName, by simp, hitem.runPolicy, hitem.approvalAuthority⟩
    | instantiates stage _ hstage h =>
      rintro queue hqueue
      obtain rfl := Option.some.inj hqueue
      obtain hgiven | ⟨hname, hpolicy⟩ := finalization.candidate_eq_some hstage
      · obtain ⟨hname, hpolicy⟩ := hok stage hgiven h
        exact ⟨hname, by simp, hpolicy, by simp [StageCandidate.wave]⟩
      · exact ⟨hname, by simp, by simp [StageCandidate.wave, hpolicy, runPolicies],
          by simp [StageCandidate.wave]⟩
    | waits item _ hmem hpolicy hnothing =>
      rw [queueSnapshotForDecision_named rfl rfl]
      exact hnamed _ _
    | done => exact nofun

/-! ### Runs -/

theorem Call.enabled_of_written {checkpoint : ControllerCheckpoint}
    (h : call.written settings precedence sessionId now file = some checkpoint) :
    settings.controllerCheckpointsEnabled = true := by
  cases call with
  | recordStageTransition stage => exact (Option.ite_none_right_eq_some.mp h).1
  | prepareCompaction compaction => exact (Option.ite_none_right_eq_some.mp h).1
  | finalizeQueue finalization =>
    obtain ⟨current, hload, -⟩ := Option.map_eq_some_iff.mp h
    exact enabled_of_loadCheckpoint hload

variable (sessionId now) in
/-- What a call writes meets the contract exactly if the call meets the condition. -/
theorem Call.written_valid_iff (hvalid : call.Valid) :
    (∀ checkpoint, call.written settings precedence sessionId now file = some checkpoint →
      checkpoint.Valid) ↔ call.WriteOk settings precedence file := by
  cases call with
  | recordStageTransition stage =>
    obtain ⟨hcore, hartifacts, hsignal⟩ := hvalid
    have hcurrent : ∀ c ∈ (loadCheckpoint settings file).checkpoint, c.Valid :=
      fun c hc => loadCheckpoint_valid hc
    have hiff : ((stage.transition precedence).checkpoint sessionId now
        (loadCheckpoint settings file).checkpoint).Valid ↔ _ :=
      StageTransition.checkpoint_valid_iff hcurrent hcore hartifacts hsignal
    rw [StageRecord.transition, routeDecision_authoritative_valid_iff] at hiff
    simp only [Call.written, Option.ite_none_right_eq_some, Option.some.injEq, and_imp,
      Call.WriteOk, ← hiff, StageRecord.transition]
    exact ⟨fun h henabled => h _ henabled rfl, fun h _ henabled heq => heq ▸ h henabled⟩
  | prepareCompaction compaction =>
    have hiff (compressedHalo : String) : (compaction.checkpoint sessionId now
        (loadCheckpoint settings file) compressedHalo).Valid ↔ _ :=
      Compaction.checkpoint_valid_iff hvalid
    simp only [Call.written, Option.ite_none_right_eq_some, Option.map_eq_some_iff, and_imp,
      Call.WriteOk, ← Option.isSome_iff_ne_none, Option.isSome_iff_exists]
    constructor
    · rintro h henabled ⟨compressedHalo, hhalo⟩
      exact (hiff compressedHalo).mp (h _ henabled ⟨compressedHalo, hhalo, rfl⟩)
    · rintro h _ henabled ⟨compressedHalo, hhalo, rfl⟩
      exact (hiff compressedHalo).mpr (h henabled ⟨compressedHalo, hhalo⟩)
  | finalizeQueue finalization =>
    have hitems : ∀ item ∈ finalization.queueItems, item.Valid := hvalid
    have hiff := queueSnapshotForDecision_valid_iff settings sessionId hitems
    simp only [Call.written, Option.map_eq_some_iff, Call.WriteOk, ← hiff,
      ← Option.isSome_iff_ne_none, Option.isSome_iff_exists]
    constructor
    · rintro h ⟨current, hload⟩
      exact (h _ ⟨current, hload, rfl⟩).queue
    · rintro h _ ⟨current, hload, rfl⟩
      exact { loadCheckpoint_valid hload with queue := h ⟨current, hload⟩ }

/-- What loads after a call that writes. -/
theorem Call.load_run {checkpoint checkpoint' : ControllerCheckpoint}
    (h : call.written settings precedence sessionId now file = some checkpoint) :
    (loadCheckpoint settings (call.run settings precedence sessionId now file)).checkpoint =
        some checkpoint' ↔ checkpoint.Valid ∧ checkpoint = checkpoint' := by
  rw [Call.run_eq, h]
  exact loadCheckpoint_written_eq_some (Call.enabled_of_written h)

/-- What a call writes loads exactly if the call meets the condition. -/
theorem Call.loads_iff_writeOk (hvalid : call.Valid) :
    (∀ checkpoint, call.written settings precedence sessionId now file = some checkpoint →
      (loadCheckpoint settings (call.run settings precedence sessionId now file)).checkpoint =
        some checkpoint) ↔ call.WriteOk settings precedence file := by
  rw [← Call.written_valid_iff sessionId now hvalid]
  refine forall_congr' fun checkpoint => forall_congr' fun h => ?_
  rw [Call.load_run h]
  exact and_iff_left rfl

/-- **Everything written loads exactly if every call meets the condition.** In a run of the writers
on one session, from any file, with arguments that meet the contract, each checkpoint that is
written is what the next load gives, if and only if every call meets `Call.WriteOk`. -/
theorem written_loads_iff {labels : List (String × Call)} (hvalid : ∀ l ∈ labels, l.2.Valid) :
    Along (callStep settings precedence sessionId)
        (fun file l file' => ∀ checkpoint,
          l.2.written settings precedence sessionId l.1 file = some checkpoint →
          (loadCheckpoint settings file').checkpoint = some checkpoint) file labels ↔
      Along (callStep settings precedence sessionId)
        (fun file l _ => l.2.WriteOk settings precedence file) file labels := by
  refine along_congr fun l hl file file' hstep => ?_
  obtain rfl := Option.some.inj hstep
  exact Call.loads_iff_writeOk (hvalid l hl)

/-! ### A checkpoint that is lost -/

/-- Settings with checkpoints, over texts that are folded. -/
def pilotSettings : Settings := { controllerCheckpointsEnabled := true, fold := id }

/-- The protected core of a pilot. -/
def pilotCore : ProtectedCore :=
  { taskGoal := "ship the pilot"
    expectedOutput := "a finished queue"
    currentStep := "close the wave"
    resumePoint := "close the wave"
    hardConstraints := ["Memphis only"]
    businessInvariants := [] }

/-- A stage whose caller proposes that the work is done. -/
def closingStage : StageRecord :=
  { stageName := "close"
    protectedCore := pilotCore
    route := { stageName := "close", legacyAction := .done, signals := {} }
    validatedArtifacts := []
    failureSignal := none }

/-- A compaction of two turns. -/
def pilotCompaction : Compaction :=
  { fallbackProtectedCore := pilotCore
    strategyName := "codex"
    compressedHalo := some "the wave is closed"
    recentTurnIds := [1, 2] }

theorem pilotCore_valid : pilotCore.Valid :=
  ⟨by decide, by decide, by decide, by decide, by decide, by decide, by decide⟩

theorem closingStage_valid : (Call.recordStageTransition closingStage).Valid :=
  ⟨pilotCore_valid, by simp [closingStage], nofun⟩

/-- With the precedence flag, the same stage and a compaction after it are written and load. -/
theorem written_loads_iff_pilot :
    Along (callStep pilotSettings true "sess-1")
      (fun file l file' => ∀ checkpoint,
        l.2.written pilotSettings true "sess-1" l.1 file = some checkpoint →
        (loadCheckpoint pilotSettings file').checkpoint = some checkpoint) .missing
      [("t1", .recordStageTransition closingStage),
       ("t2", .prepareCompaction pilotCompaction)] := by
  refine (written_loads_iff ?_).mpr ?_
  · simp only [List.mem_cons, List.not_mem_nil, or_false, forall_eq_or_imp, forall_eq]
    exact ⟨closingStage_valid, pilotCore_valid⟩
  · refine .cons rfl (fun _ => .inl rfl) (.cons rfl (fun _ _ => ⟨?_, ?_⟩) trivial)
    · decide
    · decide

/-- **A checkpoint is lost.** With the precedence flag off, a stage whose caller proposes `done` is
recorded with an action that the contract does not know, and the next load finds no checkpoint. -/
theorem legacy_done_lost :
    (Call.recordStageTransition closingStage).Valid ∧
    ¬ Along (callStep pilotSettings false "sess-1")
      (fun file l file' => ∀ checkpoint,
        l.2.written pilotSettings false "sess-1" l.1 file = some checkpoint →
        (loadCheckpoint pilotSettings file').checkpoint = some checkpoint) .missing
      [("t1", .recordStageTransition closingStage)] ∧
    (loadCheckpoint pilotSettings ((Call.recordStageTransition closingStage).run pilotSettings false
      "sess-1" "t1" .missing)).decision.reason = "checkpoint_packet_invalid_fail_soft" := by
  refine ⟨closingStage_valid, fun h => ?_, by decide⟩
  exact absurd (Option.isSome_of_eq_some ((h _ rfl).1 _ rfl)) (by decide)

end Meridian.Controller
