import Meridian.Controller.Choice
import Meridian.Controller.Readback

/-!
# Closing a wave

`finalize_queue` answers for a closed wave with the next one. It never looks at the status of an
item nor compares a name with that of the closed wave; and where the surfaces of the control plane
do not agree, it derives the wave that repairs them only if the caller proposes no stage and no item
has the name of that wave.

## Main definitions

* `Meridian.Controller.Finalization.choice`: the choice behind the answer.
* `Meridian.Controller.MovesOn`: the answer leads away from the closed wave.
* `Meridian.Controller.RepairsTruth`: the answer to a truth that is not aligned.

## Main results

* `Meridian.Controller.moves_on_iff`: exactly when the closing of a wave moves on.
* `Meridian.Controller.repairs_truth_iff`: exactly when there is no terminal stop on a diverging
  truth.
* `Meridian.Controller.closed_wave_named`, `Meridian.Controller.done_on_diverging_truth`: answers
  that do not.
-/

namespace Meridian.Controller

variable {settings : Settings} {sessionId : Option String} {finalization : Finalization}
  {truth : ControlPlaneTruth}

/-! ### The choice of a closing -/

variable (settings sessionId finalization) in
/-- The candidate of `finalize_queue`, given or derived. -/
def Finalization.stage : Option StageCandidate :=
  if finalization.nextStageCandidate.isNone ∧
      (sessionId = none ∨ finalization.controlPlaneTruth.isSome) then
    deriveNextStageCandidate (settings.fold finalization.currentWave) finalization.queueItems
      finalization.controlPlaneTruth
  else finalization.nextStageCandidate

variable (settings sessionId finalization) in
/-- The choice behind the answer of `finalize_queue`. -/
def Finalization.choice : Choice :=
  choose finalization.queueItems finalization.blockerPacketPresent
    (finalization.stage settings sessionId) finalization.abortRequested

theorem Finalization.chooses_choice :
    Chooses finalization.queueItems finalization.blockerPacketPresent
      (finalization.stage settings sessionId) finalization.abortRequested
      (finalization.choice settings sessionId) :=
  chooses_choose

/-- The answer is the decision of the choice, with a reason of its own. -/
theorem Finalization.exists_decision_eq : ∃ reason, finalization.decision settings sessionId =
    { (finalization.choice settings sessionId).decision with reason := reason } := by
  have h : finalization.decision settings sessionId =
      finalizeQueueState finalization.currentWave finalization.queueItems
        finalization.blockerPacketPresent (finalization.stage settings sessionId)
        finalization.abortRequested := rfl
  rw [h, finalizeQueueState, nextTerminalOrRunnableState_eq]
  exact ⟨_, rfl⟩

theorem Finalization.decision_nextWaveName :
    (finalization.decision settings sessionId).nextWaveName =
      (finalization.choice settings sessionId).decision.nextWaveName := by
  obtain ⟨reason, h⟩ : ∃ reason, finalization.decision settings sessionId = _ :=
    finalization.exists_decision_eq
  rw [h]

theorem Finalization.decision_terminalState :
    (finalization.decision settings sessionId).terminalState =
      (finalization.choice settings sessionId).decision.terminalState := by
  obtain ⟨reason, h⟩ : ∃ reason, finalization.decision settings sessionId = _ :=
    finalization.exists_decision_eq
  rw [h]

/-! ### Moving on -/

/-- The item that a choice names. -/
def Choice.item? : Choice → Option QueueItem
  | activate item | selfApprove item | wait item => some item
  | _ => none

variable (settings sessionId finalization) in
/-- The answer to the closing of a wave names another wave, and of the items only queued ones; and
it is `DONE` where all items are done, blocked or of the closed wave and no stage can be
instantiated. -/
structure MovesOn : Prop where
  next : (finalization.decision settings sessionId).nextWaveName ≠ some finalization.currentWave
  queued : ∀ item, (finalization.choice settings sessionId).item? = some item →
    item.status = "queued"
  done : finalization.abortRequested = false → finalization.blockerPacketPresent = false →
    (∀ item ∈ finalization.queueItems, item.status = "done" ∨ item.status = "blocked" ∨
      item.waveName = finalization.currentWave) →
    (finalization.stage settings sessionId).filter StageCandidate.canAutoInstantiate = none →
    (finalization.decision settings sessionId).terminalState = some .done

/-- The item waits in the queue and is not of the closed wave. -/
def QueueItem.Open (currentWave : String) (item : QueueItem) : Prop :=
  item.status = "queued" ∧ item.waveName ≠ currentWave

/-- The item or stage of the choice is open. -/
def Choice.Open (currentWave : String) : Choice → Prop
  | activate item | selfApprove item | wait item => item.Open currentWave
  | instantiate stage => stage.waveName ≠ currentWave
  | abort | block | done => True

theorem Choice.open_iff {choice : Choice} {currentWave : String} :
    choice.Open currentWave ↔ choice.decision.nextWaveName ≠ some currentWave ∧
      ∀ item, choice.item? = some item → item.status = "queued" := by
  cases choice <;> simp [Open, QueueItem.Open, decision, item?, and_comm]

/-- An item that is done, blocked or of the closed wave is not open. -/
theorem QueueItem.Open.not_closed {item : QueueItem} {currentWave : String}
    (h : item.Open currentWave) :
    ¬ (item.status = "done" ∨ item.status = "blocked" ∨ item.waveName = currentWave) := by
  simp [h.1, h.2]

/-- Where everything is closed, an open choice ends the queue. -/
theorem Chooses.terminalState_of_closed {items : List QueueItem} {stage? : Option StageCandidate}
    {choice : Choice} {currentWave : String} (h : Chooses items false stage? false choice)
    (hopen : choice.Open currentWave)
    (hitems : ∀ item ∈ items,
      item.status = "done" ∨ item.status = "blocked" ∨ item.waveName = currentWave)
    (hstage : stage?.filter StageCandidate.canAutoInstantiate = none) :
    choice.decision.terminalState = some .done := by
  cases h with
  | activate item _ _ hitem | selfApprove item _ _ _ hitem | wait item _ _ hitem =>
    exact absurd (hitems item (List.mem_of_find?_eq_some hitem)) hopen.not_closed
  | instantiate stage _ h =>
    rw [hstage] at h
    cases h
  | done => rfl
  | abort h | block _ h => cases h

theorem movesOn_iff_open :
    MovesOn settings sessionId finalization ↔
      (finalization.choice settings sessionId).Open finalization.currentWave := by
  rw [Choice.open_iff, ← Finalization.decision_nextWaveName]
  constructor
  · intro h
    exact ⟨h.next, h.queued⟩
  · intro h
    refine ⟨h.1, h.2, fun habort hblocker hitems hstage => ?_⟩
    have hchoice : Chooses _ _ (finalization.stage settings sessionId) _ _ :=
      finalization.chooses_choice
    rw [habort, hblocker] at hchoice
    rw [Finalization.decision_nextWaveName, ← Choice.open_iff] at h
    rw [Finalization.decision_terminalState]
    exact hchoice.terminalState_of_closed h hitems hstage

/-- The items that the scans of the queue find first are open, and so is a stage that is reached. -/
@[mk_iff]
structure FindsOpen (currentWave : String) (items : List QueueItem)
    (stage? : Option StageCandidate) : Prop where
  eligible : ∀ item, items.find? QueueItem.isEligibleAuto = some item → item.Open currentWave
  selfApprovable : items.find? QueueItem.isEligibleAuto = none →
    ∀ item, items.find? QueueItem.isSelfApprovable = some item → item.Open currentWave
  stage : items.find? QueueItem.isEligibleAuto = none →
    items.find? QueueItem.isSelfApprovable = none →
    ∀ stage, stage?.filter StageCandidate.canAutoInstantiate = some stage →
      stage.waveName ≠ currentWave
  explicit : items.find? QueueItem.isEligibleAuto = none →
    items.find? QueueItem.isSelfApprovable = none →
    stage?.filter StageCandidate.canAutoInstantiate = none →
    ∀ item, items.find? QueueItem.isExplicit = some item → item.Open currentWave

theorem findsOpen_iff_open {currentWave : String} {items : List QueueItem}
    {stage? : Option StageCandidate} :
    FindsOpen currentWave items stage? ↔
      (choose items false stage? false).Open currentWave := by
  rw [findsOpen_iff, choose, if_neg Bool.false_ne_true, if_neg Bool.false_ne_true]
  cases items.find? QueueItem.isEligibleAuto with
  | some item => simp [Choice.Open]
  | none =>
    cases items.find? QueueItem.isSelfApprovable with
    | some item => simp [Choice.Open]
    | none =>
      cases stage?.filter StageCandidate.canAutoInstantiate with
      | some stage => simp [Choice.Open]
      | none => cases items.find? QueueItem.isExplicit <;> simp [Choice.Open]

/-- **When the closing of a wave moves on.** Exactly if the controller aborts or is blocked, or what
its scans of the queue find first is open. -/
theorem moves_on_iff :
    MovesOn settings sessionId finalization ↔
      finalization.abortRequested = true ∨ finalization.blockerPacketPresent = true ∨
        FindsOpen finalization.currentWave finalization.queueItems
          (finalization.stage settings sessionId) := by
  rw [movesOn_iff_open, findsOpen_iff_open, Finalization.choice]
  cases habort : finalization.abortRequested with
  | true => simp [choose, Choice.Open]
  | false =>
    cases hblocker : finalization.blockerPacketPresent with
    | true => simp [choose, Choice.Open]
    | false => simp

/-- A wave that is done and still stands in the queue as an eligible one. -/
def staleQueue : Finalization :=
  { currentWave := "decision tightening"
    queueItems :=
      [{ waveName := "decision tightening"
         status := "done"
         runPolicy := "auto"
         eligible := true }]
    blockerPacketPresent := false
    nextStageCandidate := none
    controlPlaneTruth := none
    abortRequested := false }

/-- **A closed wave is named as the next one.** The one wave of the queue is done; its closing
continues with it. -/
theorem closed_wave_named :
    (staleQueue.decision pilotSettings (some "sess-1")).action = .continue ∧
    (staleQueue.decision pilotSettings (some "sess-1")).nextWaveName =
      some staleQueue.currentWave ∧
    ¬ MovesOn pilotSettings (some "sess-1") staleQueue :=
  ⟨rfl, rfl, fun h => h.next rfl⟩

/-! ### A truth that is not aligned -/

/-- The choice continues with a wave of the queue or opens the wave that repairs the truth. -/
def Choice.Repairs : Choice → Prop
  | activate _ | selfApprove _ => True
  | instantiate stage => stage.waveName = truthSyncStage.waveName
  | _ => False

variable (settings sessionId finalization) in
/-- The answer is no terminal state, and it continues with a wave of the queue or opens the wave
that repairs the truth. -/
structure RepairsTruth : Prop where
  continues : (finalization.decision settings sessionId).terminalState = none
  repairs : (finalization.choice settings sessionId).Repairs

theorem Choice.Repairs.terminalState_eq_none {choice : Choice} (h : choice.Repairs) :
    choice.decision.terminalState = none := by
  cases choice with
  | activate | selfApprove | instantiate => rfl
  | abort | block | wait | done => cases h

theorem repairsTruth_iff :
    RepairsTruth settings sessionId finalization ↔
      (finalization.choice settings sessionId).Repairs := by
  constructor
  · exact RepairsTruth.repairs
  · intro h
    exact ⟨Finalization.decision_terminalState.trans h.terminalState_eq_none, h⟩

theorem exists_of_find? {items : List QueueItem} {p : QueueItem → Bool} {item : QueueItem}
    (h : items.find? p = some item) : ∃ item ∈ items, p item = true :=
  ⟨item, List.mem_of_find?_eq_some h, List.find?_some h⟩

/-- Which choices repair, by the queue and the candidate. -/
theorem choose_repairs_iff {items : List QueueItem} {stage? : Option StageCandidate} :
    (choose items false stage? false).Repairs ↔
      (∃ item ∈ items, item.isEligibleAuto = true) ∨
      (∃ item ∈ items, item.isSelfApprovable = true) ∨
      ∃ stage, stage?.filter StageCandidate.canAutoInstantiate = some stage ∧
        stage.waveName = truthSyncStage.waveName := by
  have hchoice : Chooses items false stage? false (choose items false stage? false) :=
    chooses_choose
  generalize choose items false stage? false = choice at hchoice ⊢
  -- where nothing of the queue is started, it has no item of either kind
  have hnone (h : Passes items false false) : ¬ (∃ item ∈ items, item.isEligibleAuto = true) ∧
      ¬ (∃ item ∈ items, item.isSelfApprovable = true) := by
    have heligible := List.find?_eq_none.mp h.eligible
    have hself := List.find?_eq_none.mp h.selfApprovable
    simpa using And.intro heligible hself
  cases hchoice with
  | abort h | block _ h => cases h
  | activate item _ _ hitem => simp [Choice.Repairs, exists_of_find? hitem]
  | selfApprove item _ _ _ hitem => simp [Choice.Repairs, exists_of_find? hitem]
  | instantiate stage hpasses hstage =>
    rw [or_iff_right (hnone hpasses).1, or_iff_right (hnone hpasses).2, hstage]
    simp [Choice.Repairs]
  | wait item hpasses hstage =>
    rw [or_iff_right (hnone hpasses).1, or_iff_right (hnone hpasses).2, hstage]
    simp [Choice.Repairs]
  | done hpasses hstage =>
    rw [or_iff_right (hnone hpasses).1, or_iff_right (hnone hpasses).2, hstage]
    simp [Choice.Repairs]

/-- The candidate on a truth that is not aligned. -/
theorem Finalization.stage_of_not_aligned (htruth : finalization.controlPlaneTruth = some truth)
    (haligned : truth.aligned = false) :
    finalization.stage settings sessionId =
      match finalization.nextStageCandidate with
      | some stage => some stage
      | none => (some truthSyncStage).filter fun stage =>
          !finalization.queueItems.any (·.waveName = stage.waveName) := by
  rw [Finalization.stage]
  cases finalization.nextStageCandidate with
  | some stage => rfl
  | none => simp [htruth, haligned, deriveNextStageCandidate]

/-- **When the truth is repaired.** On a truth that is not aligned, without an abort and a blocker,
the answer continues with a wave of the queue or opens the wave that repairs the truth exactly if
the queue has an eligible `auto` wave or one that the main agent approves, or no candidate is given
and no item has the name of that wave, or the given candidate has it and may be instantiated. -/
theorem repairs_truth_iff (htruth : finalization.controlPlaneTruth = some truth)
    (haligned : truth.aligned = false) (hblocker : finalization.blockerPacketPresent = false)
    (habort : finalization.abortRequested = false) :
    RepairsTruth settings sessionId finalization ↔
      (∃ item ∈ finalization.queueItems, item.isEligibleAuto = true) ∨
      (∃ item ∈ finalization.queueItems, item.isSelfApprovable = true) ∨
      (finalization.nextStageCandidate = none ∧
        ∀ item ∈ finalization.queueItems, item.waveName ≠ "Control Plane Truth Sync") ∨
      ∃ stage, finalization.nextStageCandidate = some stage ∧ stage.canAutoInstantiate = true ∧
        stage.waveName = "Control Plane Truth Sync" := by
  rw [repairsTruth_iff, Finalization.choice, hblocker, habort, choose_repairs_iff,
    Finalization.stage_of_not_aligned htruth haligned]
  refine or_congr_right (or_congr_right ?_)
  cases finalization.nextStageCandidate with
  | some stage =>
    simp only [Option.filter_eq_some_iff]
    simp [and_assoc, truthSyncStage]
  | none =>
    have hsafe : truthSyncStage.canAutoInstantiate = true := rfl
    have hname : truthSyncStage.waveName = "Control Plane Truth Sync" := rfl
    simp only [Option.filter_eq_some_iff]
    simp [hsafe, hname]

/-- The checkpoint does not say that the queue is done. -/
def divergingTruth : ControlPlaneTruth :=
  { queueTerminalState := some .done
    checkpointTerminalState := none
    reportTerminalState := some .done
    dispatchTerminalState := some .done }

/-- A closing on that truth whose caller proposes a stage that needs an approval. -/
def divergingQueue : Finalization :=
  { staleQueue with
    queueItems := []
    nextStageCandidate :=
      some
        { waveName := "Provider Migration"
          withinApprovedScope := true
          nonDestructive := true
          requiresExplicitApproval := true
          repoGrounded := true }
    controlPlaneTruth := some divergingTruth }

/-- Without the proposed stage the truth is repaired. -/
theorem repairs_truth_iff_diverging :
    RepairsTruth pilotSettings (some "sess-1")
      { divergingQueue with nextStageCandidate := none } :=
  (repairs_truth_iff rfl (by decide) rfl rfl).mpr
    (.inr (.inr (.inl ⟨rfl, by simp [divergingQueue]⟩)))

/-- **A terminal stop on a diverging truth.** The closing is `DONE`, since the caller proposes a
stage that cannot be instantiated. -/
theorem done_on_diverging_truth :
    divergingTruth.aligned = false ∧
    (divergingQueue.decision pilotSettings (some "sess-1")).terminalState = some .done ∧
    ¬ RepairsTruth pilotSettings (some "sess-1") divergingQueue :=
  ⟨by decide, rfl, fun h => by cases h.continues⟩

end Meridian.Controller
