import Meridian.Controller.Readback

/-!
# Resuming a finalized queue

`finalize_queue` decides on the whole queue and stores a snapshot of one wave, and `resume` decides
again on the snapshot alone. The snapshot is looked up by name, so that it is of another wave where
an earlier item has the name; and an instantiated candidate takes its run policy along, which
nothing has checked.

## Main definitions

* `Meridian.Controller.Continues`: the snapshot is of the wave that a decision continues with.
* `Meridian.Controller.Finalization.AgreeOk`: the condition on a finalization.

## Main results

* `Meridian.Controller.resume_agrees_iff`: after a finalization, `resume` and the snapshot agree
  with the decision exactly under the condition.
* `Meridian.Controller.named_wave_not_resumed`: a finalization that continues and a `resume` that
  does not.
-/

namespace Meridian.Controller

open Foundations

variable {settings : Settings} {sessionId : String} {file : CheckpointFile}
  {finalization : Finalization}

/-! ### The condition -/

/-- The snapshot is of the wave that the decision names, with the approved values of a wave that is
instantiated and else with those of the queue item that is activated. -/
def Continues (items : List QueueItem) (decision : QueueDecision) (queue : QueueState) : Prop :=
  decision.nextWaveName = some queue.waveName ∧
    match decision.instantiatedWave with
    | some wave => queue.runPolicy = wave.runPolicy ∧ queue.eligible = wave.eligible
    | none => ∃ item,
      items.find? (fun item => item.runPolicy = "auto" && item.eligible) = some item ∧
        queue.runPolicy = item.runPolicy ∧ queue.eligible = item.eligible

/-- The finalization activates the item. -/
structure Finalization.Activates (finalization : Finalization) (item : QueueItem) : Prop where
  abort : finalization.abortRequested = false
  blocker : finalization.blockerPacketPresent = false
  first : finalization.queueItems.find? (fun item => item.runPolicy = "auto" && item.eligible) =
    some item

/-- The condition: the first item with the name of an activated wave is itself an eligible `auto`
wave, and a given candidate that becomes the next wave has a name and runs by itself or on
request. -/
structure Finalization.AgreeOk (finalization : Finalization) : Prop where
  activated : ∀ item, finalization.Activates item → ∀ first,
    finalization.queueItems.find? (·.waveName = item.waveName) = some first →
      first.runPolicy = "auto" ∧ first.eligible = true
  instantiated : ∀ stage ∈ finalization.nextStageCandidate,
    Instantiates finalization.queueItems finalization.blockerPacketPresent stage
      finalization.abortRequested →
    stage.waveName ≠ "" ∧ stage.runPolicy ∈ ["auto", "explicit_request"]

/-- The file after the finalization of the session's queue. -/
def Finalization.persisted (settings : Settings) (sessionId : String) (finalization : Finalization)
    (file : CheckpointFile) : CheckpointFile :=
  persistQueueTruth settings finalization.queueItems
    (finalization.decision settings (some sessionId)) file

/-- `resume` gives the action of the decision, and where the decision is to continue, the snapshot
is of its wave. -/
def Agrees (settings : Settings) (items : List QueueItem) (decision : QueueDecision)
    (file : CheckpointFile) : Prop :=
  (∀ fallback, (resume settings fallback file).decision.action = decision.action.value) ∧
    (decision.action = .continue → ∃ checkpoint queue,
      (loadCheckpoint settings file).checkpoint = some checkpoint ∧
        checkpoint.queue = some queue ∧ Continues items decision queue)

/-! ### What is persisted -/

/-- The checkpoint of a finalization after the one that was loaded. -/
def Finalization.checkpoint (settings : Settings) (sessionId : String) (finalization : Finalization)
    (current : ControllerCheckpoint) : ControllerCheckpoint :=
  let decision := finalization.decision settings (some sessionId)
  { current with
    queue := queueSnapshotForDecision finalization.queueItems decision
    terminalState := decision.terminalState }

/-- What is persisted loads exactly if its snapshot meets the contract. -/
theorem loadCheckpoint_persisted {current checkpoint : ControllerCheckpoint}
    (hload : (loadCheckpoint settings file).checkpoint = some current) :
    (loadCheckpoint settings (finalization.persisted settings sessionId file)).checkpoint =
        some checkpoint ↔
      (∀ queue ∈ queueSnapshotForDecision finalization.queueItems
        (finalization.decision settings (some sessionId)), queue.Valid) ∧
      finalization.checkpoint settings sessionId current = checkpoint := by
  have hpersisted : finalization.persisted settings sessionId file =
      (finalization.checkpoint settings sessionId current).written := by
    rw [Finalization.persisted, persistQueueTruth, hload]
    rfl
  have hvalid : (finalization.checkpoint settings sessionId current).Valid ↔
      ∀ queue ∈ queueSnapshotForDecision finalization.queueItems
        (finalization.decision settings (some sessionId)), queue.Valid :=
    ⟨fun h => h.queue, fun h => { loadCheckpoint_valid hload with queue := h }⟩
  rw [hpersisted, loadCheckpoint_written_eq_some (enabled_of_loadCheckpoint hload), hvalid]

variable (settings sessionId) in
/-- The item that is activated is what the decision continues with. -/
theorem Finalization.decision_of_activates {item : QueueItem} (h : finalization.Activates item) :
    ∃ reason, finalization.decision settings (some sessionId) =
      { action := .continue, terminalState := none, nextWaveName := some item.waveName,
        reason := reason } := by
  rw [Finalization.decision, finalizeQueueState, h.abort, h.blocker,
    nextTerminalOrRunnableState_of_activates h.first]
  exact ⟨_, rfl⟩

/-- The snapshot of an activated item is that of the first item with its name. -/
theorem Finalization.exists_first {item : QueueItem} (hmem : item ∈ finalization.queueItems) :
    ∃ first, finalization.queueItems.find? (·.waveName = item.waveName) = some first ∧
      first.waveName = item.waveName := by
  have hsome : (finalization.queueItems.find? (·.waveName = item.waveName)).isSome :=
    List.find?_isSome.mpr ⟨item, hmem, decide_eq_true rfl⟩
  obtain ⟨first, hfirst⟩ := Option.isSome_iff_exists.mp hsome
  have hname := List.find?_some hfirst
  exact ⟨first, hfirst, of_decide_eq_true hname⟩

/-! ### Agreement -/

variable {current : ControllerCheckpoint}

/-- What agrees meets the condition. -/
theorem agreeOk_of_agrees (hload : (loadCheckpoint settings file).checkpoint = some current)
    (h : Agrees settings finalization.queueItems (finalization.decision settings (some sessionId))
      (finalization.persisted settings sessionId file)) : finalization.AgreeOk where
  activated := by
    intro item hactivates first hfirst
    obtain ⟨reason, hdecision⟩ := finalization.decision_of_activates settings sessionId hactivates
    obtain ⟨checkpoint, queue, hpersisted, hqueue, -, hwave⟩ := h.2 (by rw [hdecision])
    rw [loadCheckpoint_persisted hload] at hpersisted
    obtain ⟨-, rfl⟩ := hpersisted
    rw [Finalization.checkpoint, hdecision] at hqueue
    rw [hdecision] at hwave
    obtain ⟨item', hitem', hpolicy, heligible⟩ := hwave
    obtain rfl := Option.some.inj (hactivates.first.symm.trans hitem')
    rw [queueSnapshotForDecision_named rfl rfl, hfirst] at hqueue
    obtain rfl := Option.some.inj hqueue
    have hauto := List.find?_some hitem'
    rw [Bool.and_eq_true, decide_eq_true_eq] at hauto
    exact ⟨hpolicy.trans hauto.1, heligible.trans hauto.2⟩
  instantiated := by
    intro stage hgiven hinstantiates
    obtain ⟨reason, hdecision⟩ := finalization.decision_of_instantiates settings sessionId
      hgiven hinstantiates
    obtain ⟨checkpoint, queue, hpersisted, hqueue, -⟩ := h.2 (by rw [hdecision])
    have hresume := h.1 emptyCore
    rw [resume_action_of_some hpersisted] at hresume
    rw [loadCheckpoint_persisted hload] at hpersisted
    obtain ⟨hvalid, rfl⟩ := hpersisted
    rw [hdecision] at hvalid
    refine ⟨(hvalid _ rfl).waveName, ?_⟩
    simp only [ControllerCheckpoint.resumed, Finalization.checkpoint, hdecision,
      queueSnapshotForDecision, nextTerminalOrRunnableState_item] at hresume
    -- Of the three policies, only `blocked_until_input` is not resumed.
    by_contra hpolicy
    rw [List.mem_pair, not_or] at hpolicy
    have hauto : ¬ (stage.wave.runPolicy = "auto" ∧ stage.wave.eligible = true) :=
      fun h => hpolicy.1 h.1
    have hexplicit : ¬ stage.wave.runPolicy = "explicit_request" := hpolicy.2
    rw [if_neg hauto, if_neg hexplicit] at hresume
    exact absurd hresume (by decide)

/-- The snapshot of a wave that is resumed. -/
theorem resumed_eq_continue {checkpoint : ControllerCheckpoint} {queue : QueueState}
    (hterminal : checkpoint.terminalState = none) (hqueue : checkpoint.queue = some queue)
    (h : queue.runPolicy = "auto" ∧ queue.eligible = true ∨
      queue.runPolicy = "explicit_request" ∧ queue.approvalAuthority = "main") :
    checkpoint.resumed = Action.continue.value := by
  simp only [ControllerCheckpoint.resumed, hterminal, hqueue, nextTerminalOrRunnableState_item]
  obtain hauto | ⟨hpolicy, hmain⟩ := h
  · rw [if_pos hauto]
  · rw [hpolicy, hmain]
    simp

/-- What meets the condition agrees. -/
theorem agrees_of_agreeOk (hload : (loadCheckpoint settings file).checkpoint = some current)
    (hitems : ∀ item ∈ finalization.queueItems, item.Valid) (hok : finalization.AgreeOk) :
    Agrees settings finalization.queueItems (finalization.decision settings (some sessionId))
      (finalization.persisted settings sessionId file) := by
  have hvalid := (queueSnapshotForDecision_valid_iff settings sessionId hitems).mpr
    fun stage hgiven h =>
      ⟨(hok.instantiated stage hgiven h).1,
        (by decide : ["auto", "explicit_request"] ⊆ runPolicies)
          (hok.instantiated stage hgiven h).2⟩
  have hpersisted := (loadCheckpoint_persisted hload).mpr ⟨hvalid, rfl⟩
  suffices h : (finalization.checkpoint settings sessionId current).resumed =
      (finalization.decision settings (some sessionId)).action.value ∧
      ((finalization.decision settings (some sessionId)).action = .continue → ∃ queue,
        queueSnapshotForDecision finalization.queueItems
          (finalization.decision settings (some sessionId)) = some queue ∧
        Continues finalization.queueItems (finalization.decision settings (some sessionId)) queue)
      from by
    refine ⟨fun fallback => (resume_action_of_some hpersisted fallback).trans h.1, fun hc => ?_⟩
    obtain ⟨queue, hqueue, hcontinues⟩ := h.2 hc
    exact ⟨_, queue, hpersisted, hqueue, hcontinues⟩
  have hdecides := finalization.decides settings sessionId
  rw [Finalization.checkpoint]
  generalize finalization.decision settings (some sessionId) = decision at hdecides
  cases hdecides with
  | aborted => exact ⟨rfl, nofun⟩
  | blocked => exact ⟨rfl, nofun⟩
  | waits => exact ⟨rfl, nofun⟩
  | done => exact ⟨rfl, nofun⟩
  | activates item reason habort hblocker hitem =>
    obtain ⟨first, hfirst, hname⟩ := finalization.exists_first (List.mem_of_find?_eq_some hitem)
    have hauto := hok.activated item ⟨habort, hblocker, hitem⟩ first hfirst
    have hitemAuto := List.find?_some hitem
    rw [Bool.and_eq_true, decide_eq_true_eq] at hitemAuto
    have hqueue : queueSnapshotForDecision finalization.queueItems
        { action := .continue, terminalState := none, nextWaveName := some item.waveName,
          reason := reason } = some (first.snapshot true) := by
      rw [queueSnapshotForDecision_named rfl rfl, hfirst]
      rfl
    refine ⟨resumed_eq_continue rfl hqueue (.inl hauto), fun _ => ⟨_, hqueue, ?_, item, hitem, ?_⟩⟩
    · exact congrArg some hname.symm
    · exact ⟨hauto.1.trans hitemAuto.1.symm, hauto.2.trans hitemAuto.2.symm⟩
  | selfApproves item _ _ hpolicy hself =>
    have hmain : item.approvalAuthority = "main" := by
      simp only [canMainSelfApproveWave, Bool.and_eq_true, decide_eq_true_eq] at hself
      exact hself.1.1.1.1.1.1.1.1.1
    exact ⟨resumed_eq_continue rfl rfl (.inr ⟨hpolicy, hmain⟩), fun _ => ⟨_, rfl, rfl, rfl, rfl⟩⟩
  | instantiates stage _ hstage h =>
    have hpolicy : stage.runPolicy = "auto" ∨ stage.runPolicy = "explicit_request" := by
      obtain hgiven | ⟨-, hauto⟩ := finalization.candidate_eq_some hstage
      · exact List.mem_pair.mp (hok.instantiated stage hgiven h).2
      · exact .inl hauto
    exact ⟨resumed_eq_continue rfl rfl (hpolicy.imp (⟨·, rfl⟩) (⟨·, rfl⟩)),
      fun _ => ⟨_, rfl, rfl, rfl, rfl⟩⟩

/-- **`resume` agrees with the decision just persisted exactly under the condition.** On a loadable
checkpoint and a queue that meets the contract, for every candidate, control plane truth, blocker
and abort flag: the `resume` after a finalization gives the action of its decision, and the snapshot
of a decision to continue is of the wave that it names, if and only if the finalization meets
`AgreeOk`. -/
theorem resume_agrees_iff (hload : (loadCheckpoint settings file).checkpoint = some current)
    (hitems : ∀ item ∈ finalization.queueItems, item.Valid) :
    Agrees settings finalization.queueItems (finalization.decision settings (some sessionId))
        (finalization.persisted settings sessionId file) ↔ finalization.AgreeOk :=
  ⟨agreeOk_of_agrees hload, agrees_of_agreeOk hload hitems⟩

/-! ### A wave that is not resumed -/

/-- The file of a session whose stage has been recorded by its signals. -/
def pilotFile : CheckpointFile :=
  ((closingStage.transition true).checkpoint "sess-1" "2026-03-16T09:00:00Z" none).written

/-- An eligible `auto` wave. -/
def docsWave : QueueItem :=
  { waveName := "Controller Docs Sync"
    status := "queued"
    runPolicy := "auto"
    eligible := true }

/-- A wave closes and leaves the eligible one. -/
def docsQueue : Finalization :=
  { currentWave := "Read Pilot"
    queueItems := [docsWave]
    blockerPacketPresent := false
    nextStageCandidate := none
    controlPlaneTruth := none
    abortRequested := false }

/-- The wave has been run before, and is queued again under its name. -/
def repeatedQueue : Finalization :=
  { docsQueue with queueItems := [{ docsWave with status := "done", eligible := false }, docsWave] }

theorem pilotFile_loads : (loadCheckpoint pilotSettings pilotFile).checkpoint ≠ none := by decide

theorem docsWave_valid : docsWave.Valid := ⟨by decide, by decide, by decide, by decide⟩

/-- A queue with the wave alone is resumed. -/
theorem resume_agrees_iff_docs :
    Agrees pilotSettings docsQueue.queueItems
      (docsQueue.decision pilotSettings (some "sess-1"))
      (docsQueue.persisted pilotSettings "sess-1" pilotFile) := by
  obtain ⟨current, hload⟩ := Option.ne_none_iff_exists'.mp pilotFile_loads
  refine (resume_agrees_iff hload ?_).mpr ⟨fun item hitem first hfirst => ?_, nofun⟩
  · simpa [docsQueue] using docsWave_valid
  · obtain rfl := Option.some.inj (hitem.first.symm.trans (rfl : _ = some docsWave))
    obtain rfl := Option.some.inj (hfirst.symm.trans (rfl : _ = some docsWave))
    exact ⟨rfl, rfl⟩

/-- **A wave is not resumed.** The queue is finalized with the answer to continue with the wave that
is queued again; the snapshot is of the wave that is done, since it has the same name, and `resume`
finds nothing to run. -/
theorem named_wave_not_resumed :
    (∀ item ∈ repeatedQueue.queueItems, item.Valid) ∧
    (loadCheckpoint pilotSettings pilotFile).checkpoint ≠ none ∧
    (repeatedQueue.decision pilotSettings (some "sess-1")).action = .continue ∧
    (resume pilotSettings pilotCore
      (repeatedQueue.persisted pilotSettings "sess-1" pilotFile)).decision.action = "done" := by
  refine ⟨?_, pilotFile_loads, by decide, by decide⟩
  simp only [repeatedQueue, List.mem_cons, List.not_mem_nil, or_false, forall_eq_or_imp, forall_eq]
  exact ⟨⟨by decide, by decide, by decide, by decide⟩, docsWave_valid⟩

end Meridian.Controller
