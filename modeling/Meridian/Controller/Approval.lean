import Meridian.Controller.Runtime
import Meridian.Foundations.Execution
import Mathlib.Data.List.Nodup

/-!
# Resuming a queue that awaits approval

When a queue has been finalized with the answer to wait for the user, no `resume` should go on
before the next finalization. The checkpoint keeps six of the fifteen fields of the queue item, and
a later stage transition clears the terminal state, so that `resume` decides again from what is
left.

## Main definitions

* `Meridian.Controller.Awaits`: what a loaded checkpoint must be for `resume` not to continue.
* `Meridian.Controller.TransitionOk`: the condition on stage transitions.

## Main results

* `Meridian.Controller.resume_awaits_approval_iff`: after such a finalization, no `resume` continues
  exactly if every stage transition meets the condition.
* `Meridian.Controller.risky_wave_resumed`: a run in which `resume` continues.
-/

namespace Meridian.Controller

open Foundations

variable {settings : Settings} {file : CheckpointFile} {sessionId now : String}

/-! ### One file -/

/-- The checkpoint does not let `resume` continue: it is terminal, or its queue is not the main
agent's to approve, or without a queue its last decision is not to continue. -/
def Awaits (checkpoint : ControllerCheckpoint) : Prop :=
  checkpoint.terminalState = none →
    match checkpoint.queue with
    | some queue => queue.approvalAuthority ≠ "main"
    | none => checkpoint.controllerLastDecision.action ≠ "continue"

/-- A queue in the checkpoint is of an `explicit_request` wave. -/
def ExplicitQueue (checkpoint : ControllerCheckpoint) : Prop :=
  ∀ queue, checkpoint.queue = some queue → queue.runPolicy = "explicit_request"

/-- What holds of the checkpoint, if the file loads. -/
def Loads (settings : Settings) (P : ControllerCheckpoint → Prop) (file : CheckpointFile) : Prop :=
  ∀ checkpoint, (loadCheckpoint settings file).checkpoint = some checkpoint → P checkpoint

theorem loads_written {P : ControllerCheckpoint → Prop} {checkpoint : ControllerCheckpoint} :
    Loads settings P checkpoint.written ↔
      (settings.controllerCheckpointsEnabled → Schema.accepts checkpointSchema checkpoint.toDict →
        P checkpoint) := by
  unfold Loads
  rw [loadCheckpoint_written]
  constructor
  · intro h henabled haccepts
    exact h checkpoint (if_pos ⟨henabled, haccepts⟩)
  · intro h checkpoint' hload
    split_ifs at hload with hok
    exact Option.some.inj hload ▸ h hok.1 hok.2

theorem Action.value_eq_continue {action : Action} :
    action.value = "continue" ↔ action = .continue := by
  cases action <;> decide

/-- `resume` continues exactly on a file that loads a checkpoint that lets it. -/
theorem resume_ne_continue_iff (hqueue : Loads settings ExplicitQueue file)
    (fallback : ProtectedCore) :
    (resume settings fallback file).decision.action ≠ "continue" ↔ Loads settings Awaits file := by
  cases hload : (loadCheckpoint settings file).checkpoint with
  | none =>
    rw [resume_action_of_none hload]
    refine iff_of_true (by decide) fun checkpoint h => ?_
    rw [hload] at h
    cases h
  | some checkpoint =>
    have hloads : Loads settings Awaits file ↔ Awaits checkpoint := by
      simp only [Loads, hload, Option.some.injEq, forall_eq']
    rw [resume_action_of_some hload, hloads, Awaits, ControllerCheckpoint.resumed]
    cases hterminal : checkpoint.terminalState with
    | some terminal =>
      refine iff_of_true ?_ fun h => by cases h
      dsimp only
      cases terminal <;> decide
    | none =>
      cases hq : checkpoint.queue with
      | some queue =>
        have hcontinues : (nextTerminalOrRunnableState [queue.item] false none false).action =
            .continue ↔ queue.approvalAuthority = "main" := by
          rw [nextTerminalOrRunnableState_item, hqueue checkpoint hload queue hq]
          simp
        dsimp only
        rw [ne_eq, Action.value_eq_continue, hcontinues]
        exact ⟨fun h _ => h, fun h => h rfl⟩
      | none => exact ⟨fun h _ => h, fun h => h rfl⟩

/-! ### The condition on stage transitions -/

/-- The stage transition aborts, or what it writes does not meet the contract, or it finds a queue
that is not the main agent's to approve, or it finds no queue and its decision is not to
continue. -/
def TransitionOk (settings : Settings) (sessionId now : String) (transition : StageTransition)
    (file : CheckpointFile) : Prop :=
  transition.authoritative.action = "abort" ∨
    ¬ Schema.accepts checkpointSchema
      (transition.checkpoint sessionId now (loadCheckpoint settings file).checkpoint).toDict ∨
    match (loadCheckpoint settings file).checkpoint.bind ControllerCheckpoint.queue with
    | some queue => queue.approvalAuthority ≠ "main"
    | none => transition.authoritative.action ≠ "continue"

/-- A stage transition leaves a file on which `resume` does not continue exactly under the
condition. -/
theorem loads_awaits_recordStageTransition_iff (henabled : settings.controllerCheckpointsEnabled)
    (transition : StageTransition) :
    Loads settings Awaits (recordStageTransition settings transition sessionId now file) ↔
      TransitionOk settings sessionId now transition file := by
  rw [recordStageTransition, if_pos henabled, loads_written, TransitionOk, Awaits]
  simp only [henabled, true_imp_iff, StageTransition.checkpoint]
  by_cases habort : transition.authoritative.action = "abort"
  · simp [habort]
  · simp only [habort, if_false, false_or, true_imp_iff]
    exact Decidable.imp_iff_not_or

theorem loads_explicitQueue_recordStageTransition (hqueue : Loads settings ExplicitQueue file)
    (transition : StageTransition) :
    Loads settings ExplicitQueue
      (recordStageTransition settings transition sessionId now file) := by
  rw [recordStageTransition]
  split_ifs with henabled
  · refine loads_written.mpr fun _ _ queue hq => ?_
    obtain ⟨checkpoint, hload, hq⟩ := Option.bind_eq_some_iff.mp hq
    exact hqueue checkpoint hload queue hq
  · exact hqueue

/-- A compaction keeps the terminal state, the queue and the decision. -/
theorem loads_prepareCompaction {P : ControllerCheckpoint → Prop}
    (hkeep : ∀ c c' : ControllerCheckpoint, c'.terminalState = c.terminalState →
      c'.queue = c.queue → c'.controllerLastDecision = c.controllerLastDecision → P c → P c')
    (hnew : ∀ c : ControllerCheckpoint, c.queue = none →
      c.controllerLastDecision.action = "review" → P c)
    (h : Loads settings P file) (compaction : Compaction) :
    Loads settings P (prepareCompaction settings compaction sessionId now file) := by
  rw [prepareCompaction]
  split_ifs with henabled
  · cases compaction.compressedHalo with
    | none => exact h
    | some compressedHalo =>
      refine loads_written.mpr fun _ _ => hkeep
        (compaction.base sessionId now (loadCheckpoint settings file)) _ rfl rfl rfl ?_
      cases hload : (loadCheckpoint settings file).checkpoint with
      | none =>
        refine hnew _ ?_ ?_
        · simp only [Compaction.base, hload, Option.getD_none]
        · simp only [Compaction.base, hload, Option.getD_none]
          exact loadCheckpoint_decision_of_none hload
      | some checkpoint =>
        have hbase : compaction.base sessionId now (loadCheckpoint settings file) = checkpoint := by
          simp only [Compaction.base, hload, Option.getD_some]
        rw [hbase]
        exact h checkpoint hload
  · exact h

/-! ### The finalization -/

variable {finalization : Finalization}

/-- A wait for the user stores the queue item that it waits for, and is terminal. -/
theorem loads_persistQueueTruth (hpersisted : (loadCheckpoint settings file).checkpoint ≠ none)
    (hnames : (finalization.queueItems.map QueueItem.waveName).Nodup)
    (hwait : (finalization.decision settings (some sessionId)).action = .waitingUserApproval) :
    Loads settings (fun checkpoint => ExplicitQueue checkpoint ∧ Awaits checkpoint)
      (persistQueueTruth settings finalization.queueItems
        (finalization.decision settings (some sessionId)) file) := by
  obtain ⟨checkpoint, hload⟩ := Option.ne_none_iff_exists'.mp hpersisted
  have hdecides : Decides finalization.queueItems finalization.blockerPacketPresent _
      finalization.abortRequested (finalization.decision settings (some sessionId)) :=
    finalizeQueueState_decides finalization.currentWave
  obtain ⟨item, hmem, hpolicy, hterminal, hnext, hwave⟩ := hdecides.exists_of_waits hwait
  have hfind : finalization.queueItems.find? (fun item' => item'.waveName = item.waveName) =
      some item := by
    have hsome : (finalization.queueItems.find? fun item' =>
        item'.waveName = item.waveName).isSome :=
      List.find?_isSome.mpr ⟨item, hmem, decide_eq_true rfl⟩
    obtain ⟨item', hitem'⟩ := Option.isSome_iff_exists.mp hsome
    have hname : item'.waveName = item.waveName := by
      have hfound := List.find?_some hitem'
      simpa only [decide_eq_true_eq] using hfound
    rw [hitem', List.inj_on_of_nodup_map hnames (List.mem_of_find?_eq_some hitem') hmem hname]
  rw [persistQueueTruth, hload]
  refine loads_written.mpr fun _ _ => ⟨fun queue hq => ?_, fun h => ?_⟩
  · simp only [queueSnapshotForDecision, hwave, hnext, Option.bind_some, hfind, Option.map_some,
      Option.some.injEq] at hq
    rw [← hq]
    exact hpolicy
  · rw [hterminal] at h
    cases h

/-! ### Runs -/

/-- The operation finalizes the queue of the session. -/
def Operation.Finalizes (sessionId : String) : Operation → Prop
  | .finalizeQueue sessionId' _ => sessionId' = some sessionId
  | _ => False

/-- The condition on an operation: a stage transition of the session meets `TransitionOk`. -/
def OperationOk (settings : Settings) (sessionId : String) (files : Files)
    (l : String × Operation) : Prop :=
  ∀ transition, l.2 = .recordStageTransition sessionId transition →
    TransitionOk settings sessionId l.1 transition (files sessionId)

section Step

variable {files files' : Files} {l : String × Operation}

/-- What an operation other than a finalization does to the file of a session. -/
theorem step_cases (h : step settings files l = some files') (hl : ¬ l.2.Finalizes sessionId) :
    (files' sessionId = files sessionId ∧
      ∀ transition, l.2 ≠ .recordStageTransition sessionId transition) ∨
    (∃ transition, l.2 = .recordStageTransition sessionId transition ∧
      files' sessionId =
        recordStageTransition settings transition sessionId l.1 (files sessionId)) ∨
    (∃ compaction, l.2 = .prepareCompaction sessionId compaction ∧
      files' sessionId =
        prepareCompaction settings compaction sessionId l.1 (files sessionId)) := by
  obtain ⟨now, operation⟩ := l
  cases operation with
  | recordStageTransition sessionId' transition =>
    obtain rfl := Option.some.inj h
    by_cases hid : sessionId = sessionId'
    · subst hid
      exact .inr (.inl ⟨transition, rfl, Function.update_self ..⟩)
    · refine .inl ⟨Function.update_of_ne hid .., fun transition' heq => ?_⟩
      exact hid (Operation.recordStageTransition.inj heq).1.symm
  | prepareCompaction sessionId' compaction =>
    obtain rfl := Option.some.inj h
    by_cases hid : sessionId = sessionId'
    · subst hid
      exact .inr (.inr ⟨compaction, rfl, Function.update_self ..⟩)
    · exact .inl ⟨Function.update_of_ne hid .., nofun⟩
  | finalizeQueue sessionId' finalization =>
    cases sessionId' with
    | none =>
      obtain rfl := Option.some.inj h
      exact .inl ⟨rfl, nofun⟩
    | some sessionId' =>
      obtain rfl := Option.some.inj h
      have hid : sessionId ≠ sessionId' := fun hid => hl (congrArg some hid.symm)
      exact .inl ⟨Function.update_of_ne hid .., nofun⟩
  | resume sessionId' fallback =>
    obtain rfl := Option.some.inj h
    exact .inl ⟨rfl, nofun⟩

theorem loads_explicitQueue_step (h : step settings files l = some files')
    (hl : ¬ l.2.Finalizes sessionId) (hqueue : Loads settings ExplicitQueue (files sessionId)) :
    Loads settings ExplicitQueue (files' sessionId) := by
  obtain ⟨hsame, -⟩ | ⟨transition, -, hfile⟩ | ⟨compaction, -, hfile⟩ := step_cases h hl
  · rwa [hsame]
  · rw [hfile]
    exact loads_explicitQueue_recordStageTransition hqueue transition
  · rw [hfile]
    refine loads_prepareCompaction (fun c c' _ hq _ hc queue hqueue' => ?_)
      (fun c hq _ queue hqueue' => ?_) hqueue compaction
    · exact hc queue (hq ▸ hqueue')
    · rw [hq] at hqueue'
      cases hqueue'

/-- An operation that meets the condition keeps `resume` from continuing. -/
theorem loads_awaits_step (henabled : settings.controllerCheckpointsEnabled)
    (h : step settings files l = some files') (hl : ¬ l.2.Finalizes sessionId)
    (hok : OperationOk settings sessionId files l)
    (hawaits : Loads settings Awaits (files sessionId)) :
    Loads settings Awaits (files' sessionId) := by
  obtain ⟨hsame, -⟩ | ⟨transition, hop, hfile⟩ | ⟨compaction, -, hfile⟩ := step_cases h hl
  · rwa [hsame]
  · rw [hfile]
    exact (loads_awaits_recordStageTransition_iff henabled transition).mpr (hok transition hop)
  · rw [hfile]
    refine loads_prepareCompaction (fun c c' ht hq hd hc => ?_) (fun c hq hd _ => ?_) hawaits
      compaction
    · rwa [Awaits, ht, hq, hd]
    · rw [hq]
      simp only [hd]
      decide

/-- If `resume` does not continue after an operation, the operation meets the condition. -/
theorem operationOk_of_loads (henabled : settings.controllerCheckpointsEnabled)
    (h : step settings files l = some files') (hl : ¬ l.2.Finalizes sessionId)
    (hawaits : Loads settings Awaits (files' sessionId)) :
    OperationOk settings sessionId files l := by
  intro transition hop
  obtain ⟨-, hne⟩ | ⟨transition', hop', hfile⟩ | ⟨compaction, hop', -⟩ := step_cases h hl
  · exact absurd hop (hne transition)
  · obtain rfl := (Operation.recordStageTransition.inj (hop.symm.trans hop')).2
    rw [hfile] at hawaits
    exact (loads_awaits_recordStageTransition_iff henabled transition).mp hawaits
  · rw [hop] at hop'
    cases hop'

end Step

/-- **`resume` waits exactly as long as no transition takes the queue over.** Let a finalization of
the queue of a session store its snapshot and answer to wait for the user, with distinct wave names.
In every run that follows without another finalization of this queue, no `resume` at any moment
continues, if and only if every stage transition of the session meets `TransitionOk`. -/
theorem resume_awaits_approval_iff {files s₁ : Files} {labels : List (String × Operation)}
    (hpersisted : (loadCheckpoint settings (files sessionId)).checkpoint ≠ none)
    (hnames : (finalization.queueItems.map QueueItem.waveName).Nodup)
    (hwait : (finalization.decision settings (some sessionId)).action = .waitingUserApproval)
    (hs₁ : step settings files (now, .finalizeQueue (some sessionId) finalization) = some s₁)
    (hlabels : ∀ l ∈ labels, ¬ l.2.Finalizes sessionId) :
    (∀ pre t, pre <+: labels → exec (step settings) s₁ pre = some t →
      ∀ fallback, (resume settings fallback (t sessionId)).decision.action ≠ "continue") ↔
    Along (step settings) (fun s l _ => OperationOk settings sessionId s l) s₁ labels := by
  have henabled : settings.controllerCheckpointsEnabled = true := by
    by_contra hdisabled
    exact hpersisted (by simp [loadCheckpoint, hdisabled, failSoft])
  have hs₁file : Loads settings (fun checkpoint => ExplicitQueue checkpoint ∧ Awaits checkpoint)
      (s₁ sessionId) := by
    obtain rfl := Option.some.inj hs₁
    rw [Function.update_self]
    exact loads_persistQueueTruth hpersisted hnames hwait
  have hothers : Along (step settings) (fun _ l _ => ¬ l.2.Finalizes sessionId) s₁ labels :=
    (along_iff_split labels s₁).mpr fun pre l post _ _ heq _ _ =>
      hlabels l (heq ▸ List.mem_append_right pre List.mem_cons_self)
  have hqueue {pre t} (hpre : pre <+: labels) (ht : exec (step settings) s₁ pre = some t) :
      Loads settings ExplicitQueue (t sessionId) := by
    obtain ⟨post, rfl⟩ := hpre
    exact along_invariant (fun s : Files => Loads settings ExplicitQueue (s sessionId))
      (fun _ _ _ hs hl hstep => loads_explicitQueue_step hstep hl hs)
      (fun c hc => (hs₁file c hc).1) (along_append.mp hothers).1 ht
  constructor
  · intro hresume
    refine (along_iff_split labels s₁).mpr fun pre l post s t heq hs ht => ?_
    have hpre : pre ++ [l] <+: labels := ⟨post, by rw [heq, List.append_assoc]; rfl⟩
    have hexec := exec_concat_eq_some.mpr ⟨s, hs, ht⟩
    exact operationOk_of_loads henabled ht
      (hlabels l (heq ▸ List.mem_append_right pre List.mem_cons_self))
      ((resume_ne_continue_iff (hqueue hpre hexec) emptyCore).mp (hresume _ t hpre hexec emptyCore))
  · intro hok pre t hpre ht fallback
    refine (resume_ne_continue_iff (hqueue hpre ht) fallback).mpr ?_
    obtain ⟨post, rfl⟩ := hpre
    exact along_invariant (fun s : Files => Loads settings Awaits (s sessionId))
      (fun _ _ _ hs hl hstep => loads_awaits_step henabled hstep hl.2 hl.1 hs)
      (fun c hc => (hs₁file c hc).2) (along_append.mp (along_and.mpr ⟨hok, hothers⟩)).1 ht

/-! ### A risky wave that the main agent resumes -/

/-- Settings with checkpoints, over texts that are folded. -/
def plainSettings : Settings := { controllerCheckpointsEnabled := true, fold := id }

/-- The protected core of a session. -/
def sessionCore : ProtectedCore :=
  { taskGoal := "ship the pilot"
    expectedOutput := "a finished queue"
    currentStep := "review"
    resumePoint := "review"
    hardConstraints := ["Memphis only"]
    businessInvariants := [] }

/-- A review stage. -/
def reviewStage : StageTransition :=
  { stageName := "review"
    protectedCore := sessionCore
    authoritative :=
      { action := "review"
        reason := "insufficient_signal_default_review"
        source := "controller" }
    validatedArtifacts := []
    failureSignal := none }

/-- An internal wave that the main agent may not approve, since it adds an external dependency. -/
def riskyWave : QueueItem :=
  { waveName := "Provider Migration"
    status := "queued"
    runPolicy := "explicit_request"
    eligible := false
    approvalAuthority := "main"
    externalDependency := true }

/-- A wave closes and leaves the risky one in the queue. -/
def riskyQueue : Finalization :=
  { currentWave := "Read Pilot"
    queueItems := [riskyWave]
    blockerPacketPresent := false
    nextStageCandidate := none
    controlPlaneTruth := none
    abortRequested := false }

/-- Files in which the session has reviewed. -/
def reviewedFiles : Files :=
  fun _ => (reviewStage.checkpoint "sess-1" "2026-03-16T09:00:00Z" none).written

/-- The same queue with the wave under the user's authority. -/
def userQueue : Finalization :=
  { riskyQueue with queueItems := [{ riskyWave with approvalAuthority := "user" }] }

/-- A wave under the user's authority is not resumed after another review stage. -/
theorem resume_awaits_approval_iff_review :
    ∃ s₁, step plainSettings reviewedFiles ("t1", .finalizeQueue (some "sess-1") userQueue) =
        some s₁ ∧
      ∀ pre t, pre <+: [("t2", Operation.recordStageTransition "sess-1" reviewStage)] →
        exec (step plainSettings) s₁ pre = some t →
        ∀ fallback, (resume plainSettings fallback (t "sess-1")).decision.action ≠ "continue" := by
  have hs₁ := Eq.refl (step plainSettings reviewedFiles
    ("t1", .finalizeQueue (some "sess-1") userQueue))
  refine ⟨_, hs₁, (resume_awaits_approval_iff ?_ ?_ ?_ hs₁ ?_).mpr ?_⟩
  · decide
  · decide
  · decide
  · rintro l hl
    rw [List.mem_singleton.mp hl]
    exact id
  · refine .cons rfl (fun transition hop => .inr (.inr ?_)) trivial
    show "user" ≠ "main"
    decide

/-- **A risky wave is resumed.** The queue is finalized with the answer to wait for the user, since
the main agent may not approve the wave; another review stage clears the terminal state, and
`resume` approves the wave from a snapshot that does not say why it is risky. -/
theorem risky_wave_resumed :
    canMainSelfApproveWave riskyWave = false ∧
    (riskyQueue.decision plainSettings (some "sess-1")).action = .waitingUserApproval ∧
    ∃ s₁ t, step plainSettings reviewedFiles ("t1", .finalizeQueue (some "sess-1") riskyQueue) =
        some s₁ ∧
      exec (step plainSettings) s₁
        [("t2", .recordStageTransition "sess-1" reviewStage)] = some t ∧
      (resume plainSettings sessionCore (t "sess-1")).decision.action = "continue" := by
  refine ⟨by decide, by decide, _, _, rfl, rfl, ?_⟩
  decide

end Meridian.Controller
