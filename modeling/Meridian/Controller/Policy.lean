import Meridian.Controller.Checkpoint

/-!
# Queue policy

How the controller finds the next wave, from `backend/app/controller/policy.py`: an eligible `auto`
wave, a wave that the main agent may approve by itself, the next stage of the project, or else a
terminal state. The texts of a queue item are those of the request, which nothing has checked.

## Main definitions

* `Meridian.Controller.canMainSelfApproveWave`: whether the main agent may approve a wave.
* `Meridian.Controller.nextTerminalOrRunnableState`: the decision on a queue.
* `Meridian.Controller.finalizeQueueState`: the decision when a wave closes.
* `Meridian.Controller.Decides`: the cases of a decision, each with what it rests on.

## Main results

* `Meridian.Controller.nextTerminalOrRunnableState_decides`,
  `Meridian.Controller.finalizeQueueState_decides`: every decision is one of the cases.
-/

namespace Meridian.Controller

/-- `QueueItem`. -/
structure QueueItem where
  waveName : String
  status : String
  runPolicy : String
  eligible : Bool
  requiresExplicitRequest : Bool := false
  approvalAuthority : String := "user"
  scopeExpands : Bool := false
  businessLogicChanged : Bool := false
  frameworkMigration : Bool := false
  productionEnablement : Bool := false
  externalDependency : Bool := false
  destructiveChange : Bool := false
  irreversibleAction : Bool := false
  externalSpend : Bool := false
  requiresHumanAuthorization : Bool := false

/-- `StageCandidate`, with the defaults of `_stage_candidate`. -/
structure StageCandidate where
  waveName : String
  owner : String := "Main"
  objective : String := ""
  artifactsInScope : List String := []
  successCheck : String := ""
  whyNext : String := ""
  runPolicy : String := "auto"
  withinApprovedScope : Bool
  nonDestructive : Bool
  requiresExplicitApproval : Bool
  repoGrounded : Bool
  externalDependency : Bool := false
  frameworkMigration : Bool := false
  riskyGlobalEnablement : Bool := false

/-- `ControlPlaneTruth`. -/
structure ControlPlaneTruth where
  queueTerminalState : Option TerminalState
  checkpointTerminalState : Option TerminalState
  reportTerminalState : Option TerminalState
  dispatchTerminalState : Option TerminalState
  queueNextWaveName : Option String := none
  checkpointNextWaveName : Option String := none
  reportNextWaveName : Option String := none
  dispatchNextWaveName : Option String := none

/-- `Action`. -/
inductive Action
  | continue
  | repair
  | review
  | research
  | waitingUserApproval
  | blocked
  | done
  | aborted
  deriving DecidableEq

/-- The value of an action. -/
def Action.value : Action → String
  | .continue => "continue"
  | .repair => "repair"
  | .review => "review"
  | .research => "research"
  | .waitingUserApproval => "waiting_user_approval"
  | .blocked => "blocked"
  | .done => "done"
  | .aborted => "aborted"

/-- What a stage is about. -/
structure StageBrief where
  owner : String
  objective : String
  artifactsInScope : List String
  successCheck : String
  whyNext : String

/-- The dictionary of an instantiated wave: the fields of a queue snapshot and, if it is that of a
stage, what the stage is about. -/
structure InstantiatedWave extends QueueState where
  brief : Option StageBrief

/-- `QueueDecision`. -/
structure QueueDecision where
  action : Action
  terminalState : Option TerminalState
  nextWaveName : Option String
  reason : String
  instantiatedWave : Option InstantiatedWave := none

/-! ### The next stage -/

/-- `control_plane_truth_aligned` on a given truth. -/
def ControlPlaneTruth.aligned (truth : ControlPlaneTruth) : Bool :=
  [truth.checkpointTerminalState, truth.reportTerminalState, truth.dispatchTerminalState].all
      (· = truth.queueTerminalState) &&
    [truth.checkpointNextWaveName, truth.reportNextWaveName, truth.dispatchNextWaveName].all
      (· = truth.queueNextWaveName)

/-- `SAFE_STAGE_SUCCESSORS`. -/
def safeStageSuccessors : List (String × StageCandidate) :=
  [("decision tightening",
    { waveName := "Controller Docs Sync"
      owner := "Main"
      objective := "Keep controller control docs aligned with enforced queue semantics."
      artifactsInScope := ["decisions.md", "runbook.md", "dispatch-board.md", "reports/README.md"]
      successCheck :=
        "Controller docs and tests describe the same queue and terminal-state rules."
      whyNext :=
        "Docs are the next safe internal follow-up after decision tightening closes."
      runPolicy := "auto"
      withinApprovedScope := true
      nonDestructive := true
      requiresExplicitApproval := false
      repoGrounded := true })]

/-- The stage that repairs a truth that is not aligned. -/
def truthSyncStage : StageCandidate :=
  { waveName := "Control Plane Truth Sync"
    owner := "Main"
    objective :=
      "Align queue, checkpoint, report, and dispatch controller truth before any terminal stop."
    artifactsInScope := ["dispatch-board.md", "reports/README.md", "decisions.md", "runbook.md"]
    successCheck := "All controller truth surfaces agree on terminal state and next wave."
    whyNext :=
      "Misaligned controller truth must be repaired before a terminal state can be trusted."
    runPolicy := "auto"
    withinApprovedScope := true
    nonDestructive := true
    requiresExplicitApproval := false
    repoGrounded := true }

/-- `derive_next_stage_candidate`, with `current_wave.strip().casefold()` for the wave. -/
def deriveNextStageCandidate (foldedWave : String) (queueItems : List QueueItem)
    (truth : Option ControlPlaneTruth) : Option StageCandidate :=
  let candidate :=
    match truth with
    | some truth =>
      if truth.aligned then safeStageSuccessors.lookup foldedWave else some truthSyncStage
    | none => safeStageSuccessors.lookup foldedWave
  candidate.filter fun candidate => !queueItems.any (·.waveName = candidate.waveName)

/-- `can_auto_instantiate_next_stage` on a given candidate. -/
def StageCandidate.canAutoInstantiate (candidate : StageCandidate) : Bool :=
  candidate.withinApprovedScope && candidate.nonDestructive &&
    !candidate.requiresExplicitApproval && candidate.repoGrounded &&
    !candidate.externalDependency && !candidate.frameworkMigration &&
    !candidate.riskyGlobalEnablement

/-- What the candidate is about. -/
def StageCandidate.brief (candidate : StageCandidate) : StageBrief where
  owner := candidate.owner
  objective := candidate.objective
  artifactsInScope := candidate.artifactsInScope
  successCheck := candidate.successCheck
  whyNext := candidate.whyNext

/-- `auto_instantiate_next_stage`. -/
def autoInstantiateNextStage (candidate : Option StageCandidate) : Option InstantiatedWave :=
  (candidate.filter StageCandidate.canAutoInstantiate).map fun candidate =>
    { waveName := candidate.waveName
      status := "queued"
      runPolicy := candidate.runPolicy
      eligible := true
      requiresExplicitRequest := false
      approvalAuthority := "main"
      brief := some candidate.brief }

/-! ### Decisions on a queue -/

/-- `can_main_self_approve_wave`. -/
def canMainSelfApproveWave (item : QueueItem) : Bool :=
  item.approvalAuthority = "main" &&
    !item.scopeExpands && !item.businessLogicChanged && !item.frameworkMigration &&
    !item.productionEnablement && !item.externalDependency && !item.destructiveChange &&
    !item.irreversibleAction && !item.externalSpend && !item.requiresHumanAuthorization

/-- `self_approved_wave`. -/
def selfApprovedWave (item : QueueItem) : InstantiatedWave :=
  { waveName := item.waveName
    status := "active"
    runPolicy := item.runPolicy
    eligible := true
    requiresExplicitRequest := false
    approvalAuthority := item.approvalAuthority
    brief := none }

/-- `next_terminal_or_runnable_state`. -/
def nextTerminalOrRunnableState (items : List QueueItem) (blockerPacketPresent : Bool)
    (nextStageCandidate : Option StageCandidate) (abortRequested : Bool) : QueueDecision :=
  if abortRequested then
    { action := .aborted
      terminalState := some .aborted
      nextWaveName := none
      reason := "hard_invariant_requires_abort" }
  else if blockerPacketPresent then
    { action := .blocked
      terminalState := some .blocked
      nextWaveName := none
      reason := "exact_blocker_packet_present" }
  else
    match items.find? fun item => item.runPolicy = "auto" && item.eligible with
    | some item =>
      { action := .continue
        terminalState := none
        nextWaveName := some item.waveName
        reason := "activate_next_eligible_auto_wave" }
    | none =>
      match items.find? fun item =>
          item.runPolicy = "explicit_request" && canMainSelfApproveWave item with
      | some item =>
        { action := .continue
          terminalState := none
          nextWaveName := some item.waveName
          reason := "main_self_approved_internal_wave"
          instantiatedWave := some (selfApprovedWave item) }
      | none =>
        match autoInstantiateNextStage nextStageCandidate with
        | some wave =>
          { action := .continue
            terminalState := none
            nextWaveName := some wave.waveName
            reason := "auto_instantiate_safe_next_project_stage"
            instantiatedWave := some wave }
        | none =>
          match items.find? fun item => item.runPolicy = "explicit_request" with
          | some item =>
            { action := .waitingUserApproval
              terminalState := some .waitingUserApproval
              nextWaveName := some item.waveName
              reason := "explicit_request_wave_requires_user_approval" }
          | none =>
            { action := .done
              terminalState := some .done
              nextWaveName := none
              reason := "no_runnable_wave_remains" }

/-- `finalize_queue_state`. -/
def finalizeQueueState (currentWave : String) (items : List QueueItem)
    (blockerPacketPresent : Bool) (nextStageCandidate : Option StageCandidate)
    (abortRequested : Bool) : QueueDecision :=
  let decision :=
    nextTerminalOrRunnableState items blockerPacketPresent nextStageCandidate abortRequested
  { decision with
    reason :=
      if decision.action = .continue ∧ decision.instantiatedWave = none then
        currentWave ++ " closed and next eligible auto wave activated"
      else currentWave ++ " closed and " ++ decision.reason }

variable {items : List QueueItem} {blocker abort : Bool} {candidate : Option StageCandidate}

/-! ### The cases of a decision -/

/-- The queue has no wave that the controller activates or the main agent approves. -/
def NothingRunnable (items : List QueueItem) : Prop :=
  ∀ item ∈ items, ¬ (item.runPolicy = "auto" ∧ item.eligible = true) ∧
    ¬ (item.runPolicy = "explicit_request" ∧ canMainSelfApproveWave item = true)

/-- The wave of an instantiated candidate. -/
def StageCandidate.wave (stage : StageCandidate) : InstantiatedWave :=
  { waveName := stage.waveName
    status := "queued"
    runPolicy := stage.runPolicy
    eligible := true
    requiresExplicitRequest := false
    approvalAuthority := "main"
    brief := some stage.brief }

theorem autoInstantiateNextStage_eq_some {wave : InstantiatedWave} :
    autoInstantiateNextStage candidate = some wave ↔
      ∃ stage, candidate = some stage ∧ stage.canAutoInstantiate = true ∧ stage.wave = wave := by
  rw [autoInstantiateNextStage, Option.map_eq_some_iff]
  simp only [Option.filter_eq_some_iff, and_assoc]
  rfl

/-- The candidate becomes the next wave: nothing stops the controller, nothing else runs, and the
candidate is safe. -/
structure Instantiates (items : List QueueItem) (blocker : Bool) (candidate : StageCandidate)
    (abort : Bool) : Prop where
  abort : abort = false
  blocker : blocker = false
  nothingRunnable : NothingRunnable items
  safe : candidate.canAutoInstantiate = true

/-- The decisions on a queue up to their reasons, each with what it rests on. -/
inductive Decides (items : List QueueItem) (blocker : Bool) (candidate : Option StageCandidate)
    (abort : Bool) : QueueDecision → Prop
  | aborted (reason : String) : Decides items blocker candidate abort
      { action := .aborted, terminalState := some .aborted, nextWaveName := none, reason := reason }
  | blocked (reason : String) : Decides items blocker candidate abort
      { action := .blocked, terminalState := some .blocked, nextWaveName := none, reason := reason }
  | activates (item : QueueItem) (reason : String) (habort : abort = false)
      (hblocker : blocker = false)
      (hitem : items.find? (fun item => item.runPolicy = "auto" && item.eligible) = some item) :
      Decides items blocker candidate abort
        { action := .continue, terminalState := none, nextWaveName := some item.waveName,
          reason := reason }
  | selfApproves (item : QueueItem) (reason : String) (hmem : item ∈ items)
      (hpolicy : item.runPolicy = "explicit_request") (hself : canMainSelfApproveWave item = true) :
      Decides items blocker candidate abort
        { action := .continue, terminalState := none, nextWaveName := some item.waveName,
          reason := reason, instantiatedWave := some (selfApprovedWave item) }
  | instantiates (stage : StageCandidate) (reason : String) (hstage : candidate = some stage)
      (h : Instantiates items blocker stage abort) :
      Decides items blocker candidate abort
        { action := .continue, terminalState := none, nextWaveName := some stage.waveName,
          reason := reason, instantiatedWave := some stage.wave }
  | waits (item : QueueItem) (reason : String) (hmem : item ∈ items)
      (hpolicy : item.runPolicy = "explicit_request") (hnothing : NothingRunnable items) :
      Decides items blocker candidate abort
        { action := .waitingUserApproval, terminalState := some .waitingUserApproval,
          nextWaveName := some item.waveName, reason := reason }
  | done (reason : String) : Decides items blocker candidate abort
      { action := .done, terminalState := some .done, nextWaveName := none, reason := reason }

/-- Every decision on a queue is one of these. -/
theorem nextTerminalOrRunnableState_decides :
    Decides items blocker candidate abort
      (nextTerminalOrRunnableState items blocker candidate abort) := by
  unfold nextTerminalOrRunnableState
  split_ifs with habort hblocker
  · exact .aborted _
  · exact .blocked _
  · rw [Bool.not_eq_true] at habort hblocker
    split
    · next item hitem => exact .activates item _ habort hblocker hitem
    · next hauto =>
      split
      · next item hitem =>
        have hfound := List.find?_some hitem
        rw [Bool.and_eq_true, decide_eq_true_eq] at hfound
        exact .selfApproves item _ (List.mem_of_find?_eq_some hitem) hfound.1 hfound.2
      · next hself =>
        have hnothing : NothingRunnable items := by
          intro item hmem
          have hauto := List.find?_eq_none.mp hauto item hmem
          have hself := List.find?_eq_none.mp hself item hmem
          rw [Bool.and_eq_true, decide_eq_true_eq] at hauto hself
          exact ⟨hauto, hself⟩
        split
        · next wave hwave =>
          obtain ⟨stage, hstage, hsafe, rfl⟩ := autoInstantiateNextStage_eq_some.mp hwave
          exact .instantiates stage _ hstage
            { abort := habort
              blocker := hblocker
              nothingRunnable := hnothing
              safe := hsafe }
        · split
          · next item hitem =>
            have hfound := List.find?_some hitem
            rw [decide_eq_true_eq] at hfound
            exact .waits item _ (List.mem_of_find?_eq_some hitem) hfound hnothing
          · exact .done _

theorem Decides.with_reason {decision : QueueDecision}
    (h : Decides items blocker candidate abort decision) (reason : String) :
    Decides items blocker candidate abort { decision with reason := reason } := by
  cases h with
  | aborted => exact .aborted reason
  | blocked => exact .blocked reason
  | activates item _ habort hblocker hitem => exact .activates item reason habort hblocker hitem
  | selfApproves item _ hmem hpolicy hself => exact .selfApproves item reason hmem hpolicy hself
  | instantiates stage _ hstage h => exact .instantiates stage reason hstage h
  | waits item _ hmem hpolicy hnothing => exact .waits item reason hmem hpolicy hnothing
  | done => exact .done reason

/-- A decision to wait for the user is about an `explicit_request` wave. -/
theorem Decides.exists_of_waits {decision : QueueDecision}
    (h : Decides items blocker candidate abort decision)
    (hwait : decision.action = .waitingUserApproval) :
    ∃ item ∈ items, item.runPolicy = "explicit_request" ∧
      decision.terminalState = some .waitingUserApproval ∧
      decision.nextWaveName = some item.waveName ∧ decision.instantiatedWave = none := by
  cases h with
  | waits item _ hmem hpolicy hnothing => exact ⟨item, hmem, hpolicy, rfl, rfl, rfl⟩
  | _ => cases hwait

/-- The closing of a wave decides the same, with a reason of its own. -/
theorem finalizeQueueState_decides (currentWave : String) :
    Decides items blocker candidate abort
      (finalizeQueueState currentWave items blocker candidate abort) :=
  nextTerminalOrRunnableState_decides.with_reason _

/-- The first eligible `auto` wave is what the decision names. -/
theorem nextTerminalOrRunnableState_of_activates {item : QueueItem}
    (h : items.find? (fun item => item.runPolicy = "auto" && item.eligible) = some item) :
    nextTerminalOrRunnableState items false candidate false =
      { action := .continue, terminalState := none, nextWaveName := some item.waveName,
        reason := "activate_next_eligible_auto_wave" } := by
  rw [nextTerminalOrRunnableState, h]
  rfl

/-- A candidate that becomes the next wave is what the decision names. -/
theorem nextTerminalOrRunnableState_of_instantiates {stage : StageCandidate}
    (h : Instantiates items blocker stage abort) :
    nextTerminalOrRunnableState items blocker (some stage) abort =
      { action := .continue, terminalState := none, nextWaveName := some stage.waveName,
        reason := "auto_instantiate_safe_next_project_stage",
        instantiatedWave := some stage.wave } := by
  have hauto : items.find? (fun item => item.runPolicy = "auto" && item.eligible) = none := by
    rw [List.find?_eq_none]
    intro item hmem
    rw [Bool.and_eq_true, decide_eq_true_eq]
    exact (h.nothingRunnable item hmem).1
  have hself : items.find? (fun item =>
      item.runPolicy = "explicit_request" && canMainSelfApproveWave item) = none := by
    rw [List.find?_eq_none]
    intro item hmem
    rw [Bool.and_eq_true, decide_eq_true_eq]
    exact (h.nothingRunnable item hmem).2
  have hwave : autoInstantiateNextStage (some stage) = some stage.wave :=
    autoInstantiateNextStage_eq_some.mpr ⟨stage, rfl, h.safe, rfl⟩
  rw [nextTerminalOrRunnableState, h.abort, h.blocker, hauto, hself, hwave]
  rfl

end Meridian.Controller
