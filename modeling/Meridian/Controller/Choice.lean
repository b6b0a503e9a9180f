import Meridian.Controller.Policy

/-!
# What a decision rests on

A decision on a queue names a wave, and two items of a queue may have one name. The choice behind a
decision says which `return` of `next_terminal_or_runnable_state` is reached, and with which item or
stage.

## Main definitions

* `Meridian.Controller.Choice`: the `return` statements with what they are reached with.
* `Meridian.Controller.choose`: the choice on a queue.
* `Meridian.Controller.QueueItem.gated`: an item that may only be started with an approval.

## Main results

* `Meridian.Controller.nextTerminalOrRunnableState_eq`: a decision is that of the choice.
* `Meridian.Controller.approval_kept_iff`: exactly when no wave is started that needs an approval.
* `Meridian.Controller.destructive_wave_started`: a destructive wave that is started.
-/

namespace Meridian.Controller

/-! ### Choices -/

/-- The `return` statements of `next_terminal_or_runnable_state`. -/
inductive Choice
  | abort
  | block
  | activate (item : QueueItem)
  | selfApprove (item : QueueItem)
  | instantiate (stage : StageCandidate)
  | wait (item : QueueItem)
  | done

/-- The item is an eligible `auto` wave. -/
def QueueItem.isEligibleAuto (item : QueueItem) : Bool := item.runPolicy = "auto" && item.eligible

/-- The item is an `explicit_request` wave. -/
def QueueItem.isExplicit (item : QueueItem) : Bool := item.runPolicy = "explicit_request"

/-- The item is an `explicit_request` wave that the main agent may approve. -/
def QueueItem.isSelfApprovable (item : QueueItem) : Bool :=
  item.runPolicy = "explicit_request" && canMainSelfApproveWave item

/-- The choice on a queue. -/
def choose (items : List QueueItem) (blockerPacketPresent : Bool)
    (nextStageCandidate : Option StageCandidate) (abortRequested : Bool) : Choice :=
  if abortRequested then .abort
  else if blockerPacketPresent then .block
  else
    match items.find? QueueItem.isEligibleAuto with
    | some item => .activate item
    | none =>
      match items.find? QueueItem.isSelfApprovable with
      | some item => .selfApprove item
      | none =>
        match nextStageCandidate.filter StageCandidate.canAutoInstantiate with
        | some stage => .instantiate stage
        | none =>
          match items.find? QueueItem.isExplicit with
          | some item => .wait item
          | none => .done

/-- The decision that a choice stands for. -/
def Choice.decision : Choice → QueueDecision
  | abort =>
    { action := .aborted
      terminalState := some .aborted
      nextWaveName := none
      reason := "hard_invariant_requires_abort" }
  | block =>
    { action := .blocked
      terminalState := some .blocked
      nextWaveName := none
      reason := "exact_blocker_packet_present" }
  | activate item =>
    { action := .continue
      terminalState := none
      nextWaveName := some item.waveName
      reason := "activate_next_eligible_auto_wave" }
  | selfApprove item =>
    { action := .continue
      terminalState := none
      nextWaveName := some item.waveName
      reason := "main_self_approved_internal_wave"
      instantiatedWave := some (selfApprovedWave item) }
  | instantiate stage =>
    { action := .continue
      terminalState := none
      nextWaveName := some stage.waveName
      reason := "auto_instantiate_safe_next_project_stage"
      instantiatedWave := some stage.wave }
  | wait item =>
    { action := .waitingUserApproval
      terminalState := some .waitingUserApproval
      nextWaveName := some item.waveName
      reason := "explicit_request_wave_requires_user_approval" }
  | done =>
    { action := .done
      terminalState := some .done
      nextWaveName := none
      reason := "no_runnable_wave_remains" }

variable {items : List QueueItem} {blocker abort : Bool} {candidate : Option StageCandidate}
  {item : QueueItem} {stage : StageCandidate}

/-- **A decision is that of the choice.** -/
theorem nextTerminalOrRunnableState_eq :
    nextTerminalOrRunnableState items blocker candidate abort =
      (choose items blocker candidate abort).decision := by
  have hauto : (fun item : QueueItem => decide (item.runPolicy = "auto") && item.eligible) =
      QueueItem.isEligibleAuto := rfl
  have hself : (fun item : QueueItem =>
      decide (item.runPolicy = "explicit_request") && canMainSelfApproveWave item) =
      QueueItem.isSelfApprovable := rfl
  have hexplicit : (fun item : QueueItem => decide (item.runPolicy = "explicit_request")) =
      QueueItem.isExplicit := rfl
  unfold nextTerminalOrRunnableState choose
  rw [hauto, hself, hexplicit, autoInstantiateNextStage]
  split_ifs
  · rfl
  · rfl
  · cases items.find? QueueItem.isEligibleAuto with
    | some item => rfl
    | none =>
      cases items.find? QueueItem.isSelfApprovable with
      | some item => rfl
      | none =>
        cases candidate.filter StageCandidate.canAutoInstantiate with
        | some stage => rfl
        | none => cases items.find? QueueItem.isExplicit <;> rfl

/-! ### What a choice is reached with -/

/-- Nothing stops the controller, and no item is activated or approved by the main agent. -/
structure Passes (items : List QueueItem) (blocker abort : Bool) : Prop where
  abort : abort = false
  blocker : blocker = false
  eligible : items.find? QueueItem.isEligibleAuto = none
  selfApprovable : items.find? QueueItem.isSelfApprovable = none

/-- The choices on a queue, each with all that leads to it. -/
inductive Chooses (items : List QueueItem) (blocker : Bool) (candidate : Option StageCandidate)
    (abort : Bool) : Choice → Prop
  | abort (habort : abort = true) : Chooses items blocker candidate abort .abort
  | block (habort : abort = false) (hblocker : blocker = true) :
      Chooses items blocker candidate abort .block
  | activate (item : QueueItem) (habort : abort = false) (hblocker : blocker = false)
      (hitem : items.find? QueueItem.isEligibleAuto = some item) :
      Chooses items blocker candidate abort (.activate item)
  | selfApprove (item : QueueItem) (habort : abort = false) (hblocker : blocker = false)
      (heligible : items.find? QueueItem.isEligibleAuto = none)
      (hitem : items.find? QueueItem.isSelfApprovable = some item) :
      Chooses items blocker candidate abort (.selfApprove item)
  | instantiate (stage : StageCandidate) (hpasses : Passes items blocker abort)
      (hstage : candidate.filter StageCandidate.canAutoInstantiate = some stage) :
      Chooses items blocker candidate abort (.instantiate stage)
  | wait (item : QueueItem) (hpasses : Passes items blocker abort)
      (hstage : candidate.filter StageCandidate.canAutoInstantiate = none)
      (hitem : items.find? QueueItem.isExplicit = some item) :
      Chooses items blocker candidate abort (.wait item)
  | done (hpasses : Passes items blocker abort)
      (hstage : candidate.filter StageCandidate.canAutoInstantiate = none)
      (hitem : items.find? QueueItem.isExplicit = none) :
      Chooses items blocker candidate abort .done

/-- Every choice on a queue is one of these. -/
theorem chooses_choose :
    Chooses items blocker candidate abort (choose items blocker candidate abort) := by
  unfold choose
  split_ifs with habort hblocker
  · exact .abort habort
  · exact .block (Bool.eq_false_iff.mpr habort) hblocker
  · rw [Bool.not_eq_true] at habort hblocker
    cases hauto : items.find? QueueItem.isEligibleAuto with
    | some item => exact .activate item habort hblocker hauto
    | none =>
      cases hself : items.find? QueueItem.isSelfApprovable with
      | some item => exact .selfApprove item habort hblocker hauto hself
      | none =>
        have hpasses : Passes items blocker abort := ⟨habort, hblocker, hauto, hself⟩
        cases hstage : candidate.filter StageCandidate.canAutoInstantiate with
        | some stage => exact .instantiate stage hpasses hstage
        | none =>
          cases hexplicit : items.find? QueueItem.isExplicit with
          | some item => exact .wait item hpasses hstage hexplicit
          | none => exact .done hpasses hstage hexplicit

/-! ### Approvals -/

/-- The item has a flag for which a wave needs an approval. -/
def QueueItem.gated (item : QueueItem) : Bool :=
  item.destructiveChange || item.productionEnablement || item.externalSpend ||
    item.irreversibleAction || item.scopeExpands || item.businessLogicChanged ||
    item.frameworkMigration || item.externalDependency || item.requiresHumanAuthorization

/-- The choice starts an item without such a flag, or a candidate that may be instantiated. -/
def Choice.Approved (candidate : Option StageCandidate) : Choice → Prop
  | activate item | selfApprove item => item.gated = false
  | instantiate stage => candidate = some stage ∧ stage.canAutoInstantiate = true
  | _ => False

theorem not_gated_of_isSelfApprovable (h : item.isSelfApprovable = true) : item.gated = false := by
  simp only [QueueItem.isSelfApprovable, canMainSelfApproveWave, Bool.and_eq_true,
    Bool.not_eq_eq_eq_not, Bool.not_true] at h
  simp [QueueItem.gated, h]

/-- **When approvals are kept.** Every decision to continue starts an item without a flag for which
a wave needs an approval, or a candidate that may be instantiated, exactly if the first eligible
`auto` wave, where it is activated, has no such flag. -/
theorem approval_kept_iff :
    ((nextTerminalOrRunnableState items blocker candidate abort).action = .continue →
      (choose items blocker candidate abort).Approved candidate) ↔
    abort = true ∨ blocker = true ∨
      ∀ item, items.find? QueueItem.isEligibleAuto = some item → item.gated = false := by
  rw [nextTerminalOrRunnableState_eq]
  have hchoice : Chooses items blocker candidate abort (choose items blocker candidate abort) :=
    chooses_choose
  generalize choose items blocker candidate abort = choice at hchoice ⊢
  cases hchoice with
  | abort habort => simp [habort, Choice.decision]
  | block habort hblocker => simp [hblocker, Choice.decision]
  | activate item habort hblocker hitem =>
    simp [habort, hblocker, hitem, Choice.decision, Choice.Approved]
  | selfApprove item habort hblocker heligible hitem =>
    have hitem := not_gated_of_isSelfApprovable (List.find?_some hitem)
    simp [heligible, hitem, Choice.Approved]
  | instantiate stage hpasses hstage =>
    obtain ⟨hstage, hsafe⟩ := Option.filter_eq_some_iff.mp hstage
    simp [hpasses.eligible, hstage, hsafe, Choice.Approved]
  | wait item hpasses => simp [hpasses.eligible, Choice.decision]
  | done hpasses => simp [hpasses.eligible, Choice.decision]

/-- A queue whose one wave is eligible and destructive. -/
def destructiveQueue : List QueueItem :=
  [{ waveName := "Drop Legacy Tables"
     status := "queued"
     runPolicy := "auto"
     eligible := true
     destructiveChange := true
     irreversibleAction := true }]

/-- **A destructive wave is started** without an approval. -/
theorem destructive_wave_started :
    (nextTerminalOrRunnableState destructiveQueue false none false).action = .continue ∧
      (nextTerminalOrRunnableState destructiveQueue false none false).nextWaveName =
        some "Drop Legacy Tables" ∧
      ¬ ((nextTerminalOrRunnableState destructiveQueue false none false).action = .continue →
        (choose destructiveQueue false none false).Approved none) := by
  refine ⟨rfl, rfl, fun h => ?_⟩
  cases h rfl

end Meridian.Controller
