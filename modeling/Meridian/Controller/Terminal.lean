import Meridian.Controller.Resume
import Mathlib.Data.List.Infix

/-!
# Terminal states between two finalizations

A finalization that ends a queue stores its terminal state, and `resume` honors it. A compaction
carries the terminal state over; a stage transition writes one only for `abort` and so reopens the
queue, unless the snapshot leads to the same answer.

## Main definitions

* `Meridian.Controller.Ended`: what a loaded checkpoint must be for `resume` to stay terminal.
* `Meridian.Controller.Call.KeepsTerminal`: the condition on a call.

## Main results

* `Meridian.Controller.resume_terminal_iff`: after such a finalization, every `resume` stays
  terminal exactly if every call meets the condition.
* `Meridian.Controller.done_wave_reopened`: a run in which a queue that is done is reopened.
-/

namespace Meridian.Controller

open Foundations

variable {settings : Settings} {precedence : Bool} {sessionId now : String} {file : CheckpointFile}
  {finalization : Finalization} {terminal : TerminalState} {checkpoint : ControllerCheckpoint}

/-! ### One checkpoint -/

/-- The wave of the snapshot waits for the user by itself. -/
def QueueState.AwaitsUser (queue : QueueState) : Prop :=
  queue.runPolicy = "explicit_request" ∧ queue.approvalAuthority ≠ "main"

/-- The checkpoint has ended in the terminal state, or has lost it and waits for the user by its
snapshot. A checkpoint that has ended has a snapshot only where it waits. -/
def Ended (terminal : TerminalState) (checkpoint : ControllerCheckpoint) : Prop :=
  (∀ queue ∈ checkpoint.queue, terminal = .waitingUserApproval) ∧
    (checkpoint.terminalState = some terminal ∨
      checkpoint.terminalState = none ∧ ∃ queue ∈ checkpoint.queue, queue.AwaitsUser)

/-- The snapshot decides to wait exactly for a wave that waits for the user by itself. -/
theorem nextTerminalOrRunnableState_item_waiting (queue : QueueState) :
    (nextTerminalOrRunnableState [queue.item] false none false).action = .waitingUserApproval ↔
      queue.AwaitsUser := by
  rw [nextTerminalOrRunnableState_item, QueueState.AwaitsUser]
  split_ifs with hauto hpolicy hmain
  · simp [hauto.1]
  · simp [hmain]
  · simp [hpolicy, hmain]
  · simp [hpolicy]

/-- `resume` stays terminal on such a checkpoint. -/
theorem Ended.resumed (h : Ended terminal checkpoint) : checkpoint.resumed = terminal.action := by
  obtain ⟨hwaiting, hterminal | ⟨hterminal, queue, hqueue, hawaits⟩⟩ := h
  · simp only [ControllerCheckpoint.resumed, hterminal]
  · obtain rfl := hwaiting queue hqueue
    have haction := (nextTerminalOrRunnableState_item_waiting queue).mpr hawaits
    rw [Option.mem_def] at hqueue
    simp only [ControllerCheckpoint.resumed, hterminal, hqueue, haction]
    rfl

/-! ### One call -/

/-- The calls between two finalizations: stage transitions that do not abort and compactions, with
arguments that meet the contract. -/
def Call.Later (precedence : Bool) : Call → Prop
  | .recordStageTransition stage =>
    (Call.recordStageTransition stage).Valid ∧
      (routeDecision precedence stage.route).authoritative.action ≠ "abort"
  | .prepareCompaction compaction =>
    compaction.fallbackProtectedCore.Valid ∧ compaction.strategyName ≠ "" ∧
      ∀ id ∈ compaction.recentTurnIds, 0 ≤ id
  | .finalizeQueue _ => False

/-- The condition on a call: a stage transition is routed to an action that the contract knows, and
finds a snapshot that waits for the user by itself. -/
def Call.KeepsTerminal (settings : Settings) (precedence : Bool) (file : CheckpointFile) :
    Call → Prop
  | .recordStageTransition stage =>
    (precedence = true ∨ stage.route.legacyAction.text ∈ checkpointActions) ∧
      ∃ current, (loadCheckpoint settings file).checkpoint = some current ∧
        ∃ queue ∈ current.queue, queue.AwaitsUser
  | _ => True

/-- The file loads a checkpoint that has ended. -/
def Ends (settings : Settings) (terminal : TerminalState) (file : CheckpointFile) : Prop :=
  ∃ checkpoint, (loadCheckpoint settings file).checkpoint = some checkpoint ∧
    Ended terminal checkpoint

theorem Ends.resume_action (h : Ends settings terminal file) (fallback : ProtectedCore) :
    (resume settings fallback file).decision.action = terminal.action := by
  obtain ⟨checkpoint, hload, hended⟩ := h
  rw [resume_action_of_some hload, hended.resumed]

theorem TerminalState.action_ne_of_mem {action : String} (h : action ∈ checkpointActions)
    (terminal : TerminalState) : action ≠ terminal.action := by
  rintro rfl
  cases terminal <;> revert h <;> decide

theorem TerminalState.review_ne_action (terminal : TerminalState) : "review" ≠ terminal.action :=
  terminal.action_ne_of_mem (by decide)

theorem Action.value_eq_waiting {action : Action} :
    action.value = "waiting_user_approval" ↔ action = .waitingUserApproval := by
  cases action <;> decide

section Record

variable {stage : StageRecord} {current : ControllerCheckpoint}

/-- What loads after a stage transition that does not abort: the queue as it was, without a terminal
state. -/
theorem load_recordStageTransition
    (hload : (loadCheckpoint settings file).checkpoint = some current)
    (hlater : (Call.recordStageTransition stage).Later precedence)
    {after : ControllerCheckpoint} :
    (loadCheckpoint settings ((Call.recordStageTransition stage).run settings precedence sessionId
        now file)).checkpoint = some after ↔
      (precedence = true ∨ stage.route.legacyAction.text ∈ checkpointActions) ∧
        (stage.transition precedence).checkpoint sessionId now (some current) = after := by
  obtain ⟨⟨hcore, hartifacts, hsignal⟩, -⟩ := hlater
  have hwritten :
      (Call.recordStageTransition stage).written settings precedence sessionId now file =
        some ((stage.transition precedence).checkpoint sessionId now (some current)) := by
    rw [Call.written, if_pos (enabled_of_loadCheckpoint hload), hload]
  have hcurrent : ∀ c ∈ some current, c.Valid := fun c hc =>
    loadCheckpoint_valid (hload.trans hc)
  rw [Call.load_run hwritten, ← routeDecision_authoritative_valid_iff]
  exact and_congr_left fun _ =>
    StageTransition.checkpoint_valid_iff hcurrent hcore hartifacts hsignal

/-- A stage transition that meets the condition leaves the queue waiting. -/
theorem ends_recordStageTransition (h : Ends settings terminal file)
    (hlater : (Call.recordStageTransition stage).Later precedence)
    (hkeeps : (Call.recordStageTransition stage).KeepsTerminal settings precedence file) :
    Ends settings terminal
      ((Call.recordStageTransition stage).run settings precedence sessionId now file) := by
  obtain ⟨hroute, current, hload, hawaits⟩ := hkeeps
  obtain ⟨current', hload', hqueue, -⟩ := h
  obtain rfl := Option.some.inj (hload.symm.trans hload')
  exact ⟨_, (load_recordStageTransition hload hlater).mpr ⟨hroute, rfl⟩, hqueue,
    .inr ⟨if_neg hlater.2, hawaits⟩⟩

/-- A stage transition after which `resume` stays terminal meets the condition. -/
theorem keepsTerminal_of_resume (h : Ends settings terminal file)
    (hlater : (Call.recordStageTransition stage).Later precedence)
    (hresume : (resume settings emptyCore ((Call.recordStageTransition stage).run settings
      precedence sessionId now file)).decision.action = terminal.action) :
    (Call.recordStageTransition stage).KeepsTerminal settings precedence file := by
  obtain ⟨current, hload, hqueue, -⟩ := h
  cases hafter : (loadCheckpoint settings ((Call.recordStageTransition stage).run settings
      precedence sessionId now file)).checkpoint with
  | none =>
    rw [resume_action_of_none hafter] at hresume
    exact absurd hresume terminal.review_ne_action
  | some after =>
    rw [resume_action_of_some hafter] at hresume
    obtain ⟨hroute, rfl⟩ := (load_recordStageTransition hload hlater).mp hafter
    have hterminal : ((stage.transition precedence).checkpoint sessionId now
        (some current)).terminalState = none := if_neg hlater.2
    refine ⟨hroute, current, hload, ?_⟩
    cases hq : current.queue with
    | none =>
      -- Without a queue, `resume` answers with the action of the transition.
      have hvalid := routeDecision_authoritative_valid_iff.mpr hroute
      have hqueue' : ((stage.transition precedence).checkpoint sessionId now
          (some current)).queue = none := hq
      simp only [ControllerCheckpoint.resumed, hterminal, hqueue'] at hresume
      exact absurd hresume (terminal.action_ne_of_mem hvalid.action)
    | some queue =>
      obtain rfl := hqueue queue hq
      have hqueue' : ((stage.transition precedence).checkpoint sessionId now
          (some current)).queue = some queue := hq
      simp only [ControllerCheckpoint.resumed, hterminal, hqueue'] at hresume
      exact ⟨queue, rfl, (nextTerminalOrRunnableState_item_waiting queue).mp
        (Action.value_eq_waiting.mp hresume)⟩

end Record

/-- A compaction keeps the terminal state and the queue. -/
theorem ends_prepareCompaction {compaction : Compaction} (h : Ends settings terminal file)
    (hlater : (Call.prepareCompaction compaction).Later precedence) :
    Ends settings terminal
      ((Call.prepareCompaction compaction).run settings precedence sessionId now file) := by
  obtain ⟨current, hload, hended⟩ := h
  obtain ⟨hcore, hcompaction⟩ := hlater
  cases hhalo : compaction.compressedHalo with
  | none =>
    refine ⟨current, ?_, hended⟩
    rw [Call.run_eq, Call.written, if_pos (enabled_of_loadCheckpoint hload), hhalo]
    exact hload
  | some compressedHalo =>
    have hwritten : (Call.prepareCompaction compaction).written settings precedence sessionId now
        file = some (compaction.checkpoint sessionId now (loadCheckpoint settings file)
          compressedHalo) := by
      rw [Call.written, if_pos (enabled_of_loadCheckpoint hload), hhalo, Option.map_some]
    have hvalid : (compaction.checkpoint sessionId now (loadCheckpoint settings file)
        compressedHalo).Valid := (Compaction.checkpoint_valid_iff hcore).mpr hcompaction
    refine ⟨_, (Call.load_run hwritten).mpr ⟨hvalid, rfl⟩, ?_⟩
    have hbase : compaction.base sessionId now (loadCheckpoint settings file) = current := by
      rw [Compaction.base, hload, Option.getD_some]
    rw [Compaction.checkpoint, hbase]
    exact hended

/-! ### The finalization -/

/-- A finalization that ends the queue leaves it ended. -/
theorem ends_persisted {current : ControllerCheckpoint}
    (hload : (loadCheckpoint settings file).checkpoint = some current)
    (hitems : ∀ item ∈ finalization.queueItems, item.Valid)
    (hterminal : (finalization.decision settings (some sessionId)).terminalState = some terminal) :
    Ends settings terminal (finalization.persisted settings sessionId file) := by
  have hvalid := (queueSnapshotForDecision_valid_iff settings sessionId hitems).mpr
    fun stage hgiven h => by
      obtain ⟨reason, hdecision⟩ :=
        finalization.decision_of_instantiates settings sessionId hgiven h
      rw [hdecision] at hterminal
      cases hterminal
  refine ⟨_, (loadCheckpoint_persisted hload).mpr ⟨hvalid, rfl⟩, ?_, .inl hterminal⟩
  have hdecides := finalization.decides settings sessionId
  rw [Finalization.checkpoint]
  generalize finalization.decision settings (some sessionId) = decision at hdecides hterminal
  cases hdecides with
  | aborted => exact fun _ h => by cases h
  | blocked => exact fun _ h => by cases h
  | done => exact fun _ h => by cases h
  | waits => exact fun _ _ => (Option.some.inj hterminal).symm
  | activates => cases hterminal
  | selfApproves => cases hterminal
  | instantiates => cases hterminal

/-! ### Runs -/

/-- A call that meets the condition leaves the queue ended. -/
theorem ends_run {call : Call} (h : Ends settings terminal file) (hlater : call.Later precedence)
    (hkeeps : call.KeepsTerminal settings precedence file) :
    Ends settings terminal (call.run settings precedence sessionId now file) := by
  cases call with
  | recordStageTransition stage => exact ends_recordStageTransition h hlater hkeeps
  | prepareCompaction compaction => exact ends_prepareCompaction h hlater
  | finalizeQueue finalization => exact hlater.elim

/-- A call after which `resume` stays terminal meets the condition. -/
theorem Call.keepsTerminal_of_resume {call : Call} (h : Ends settings terminal file)
    (hlater : call.Later precedence)
    (hresume : (resume settings emptyCore
      (call.run settings precedence sessionId now file)).decision.action = terminal.action) :
    call.KeepsTerminal settings precedence file := by
  cases call with
  | recordStageTransition stage => exact Controller.keepsTerminal_of_resume h hlater hresume
  | prepareCompaction compaction => trivial
  | finalizeQueue finalization => trivial

/-- In a run from a file that has ended, `resume` stays terminal exactly if every call meets the
condition. -/
theorem Ends.resume_iff {labels : List (String × Call)} (h : Ends settings terminal file)
    (hlater : ∀ l ∈ labels, l.2.Later precedence) :
    (∀ pre t, pre <+: labels → exec (callStep settings precedence sessionId) file pre = some t →
      ∀ fallback, (resume settings fallback t).decision.action = terminal.action) ↔
    Along (callStep settings precedence sessionId)
      (fun file l _ => l.2.KeepsTerminal settings precedence file) file labels := by
  induction labels generalizing file with
  | nil =>
    refine iff_of_true (fun pre t hpre ht fallback => ?_) trivial
    obtain rfl := List.prefix_nil.mp hpre
    obtain rfl := Option.some.inj ht
    exact h.resume_action fallback
  | cons l labels ih =>
    have hl := hlater l List.mem_cons_self
    have hrest : ∀ l ∈ labels, l.2.Later precedence := fun l hmem =>
      hlater l (List.mem_cons_of_mem _ hmem)
    constructor
    · intro hresume
      have hkeeps := Call.keepsTerminal_of_resume h hl
        (hresume [l] _ (List.cons_prefix_cons.mpr ⟨rfl, List.nil_prefix⟩) rfl emptyCore)
      refine .cons rfl hkeeps ((ih (ends_run h hl hkeeps) hrest).mp fun pre t hpre ht => ?_)
      exact hresume (l :: pre) t (List.cons_prefix_cons.mpr ⟨rfl, hpre⟩) ht
    · intro hkeeps pre t hpre ht fallback
      obtain ⟨hkeeps, hkeepsRest⟩ := hkeeps _ rfl
      cases pre with
      | nil =>
        obtain rfl := Option.some.inj ht
        exact h.resume_action fallback
      | cons l' pre =>
        obtain ⟨rfl, hprefix⟩ := List.cons_prefix_cons.mp hpre
        exact (ih (ends_run h hl hkeeps) hrest).mpr hkeepsRest pre t hprefix ht fallback

/-- **A terminal queue stays terminal exactly under the condition.** Let a finalization end the
queue of a session with a loadable checkpoint. In every run of stage transitions that do not abort
and of compactions that follows, every `resume` at any moment gives the action of the terminal
state, if and only if every call meets `KeepsTerminal`. -/
theorem resume_terminal_iff {current : ControllerCheckpoint} {labels : List (String × Call)}
    (hload : (loadCheckpoint settings file).checkpoint = some current)
    (hitems : ∀ item ∈ finalization.queueItems, item.Valid)
    (hterminal : (finalization.decision settings (some sessionId)).terminalState = some terminal)
    (hlater : ∀ l ∈ labels, l.2.Later precedence) :
    (∀ pre t, pre <+: labels →
      exec (callStep settings precedence sessionId)
        (finalization.persisted settings sessionId file) pre = some t →
      ∀ fallback, (resume settings fallback t).decision.action = terminal.action) ↔
    Along (callStep settings precedence sessionId)
      (fun file l _ => l.2.KeepsTerminal settings precedence file)
      (finalization.persisted settings sessionId file) labels :=
  (ends_persisted hload hitems hterminal).resume_iff hlater

/-! ### A queue that is reopened -/

/-- A wave that the user has to request. -/
def requestedWave : QueueItem :=
  { waveName := "Provider Migration"
    status := "queued"
    runPolicy := "explicit_request"
    eligible := false }

/-- A wave closes and leaves the requested one. -/
def requestedQueue : Finalization := { docsQueue with queueItems := [requestedWave] }

/-- A wave closes and leaves nothing. -/
def emptyQueue : Finalization := { docsQueue with queueItems := [] }

theorem closingStage_later : (Call.recordStageTransition closingStage).Later true :=
  ⟨closingStage_valid, by decide⟩

/-- A wave that the user has to request is still waited for after another stage. -/
theorem resume_terminal_iff_requested :
    (requestedQueue.decision pilotSettings (some "sess-1")).terminalState =
        some .waitingUserApproval ∧
      ∀ pre t, pre <+: [("t1", Call.recordStageTransition closingStage)] →
        exec (callStep pilotSettings true "sess-1")
          (requestedQueue.persisted pilotSettings "sess-1" pilotFile) pre = some t →
        ∀ fallback, (resume pilotSettings fallback t).decision.action =
          TerminalState.waitingUserApproval.action := by
  obtain ⟨current, hload⟩ := Option.ne_none_iff_exists'.mp pilotFile_loads
  have hitems : ∀ item ∈ requestedQueue.queueItems, item.Valid := by
    simp only [requestedQueue, List.mem_singleton, forall_eq]
    exact ⟨by decide, by decide, by decide, by decide⟩
  refine ⟨rfl, (resume_terminal_iff hload hitems rfl fun l hl => ?_).mpr ?_⟩
  · obtain rfl := List.mem_singleton.mp hl
    exact closingStage_later
  · refine .cons rfl ⟨.inl rfl, ?_⟩ trivial
    obtain ⟨checkpoint, hchecked, hended⟩ : Ends pilotSettings .waitingUserApproval
        (requestedQueue.persisted pilotSettings "sess-1" pilotFile) :=
      ends_persisted hload hitems rfl
    obtain ⟨-, rfl⟩ := (loadCheckpoint_persisted hload).mp hchecked
    exact ⟨_, hchecked, requestedWave.snapshot false, rfl, rfl, by decide⟩

/-- **A queue that is done is reopened.** The queue is finalized with the terminal state `DONE`;
another stage, decided by its signals, clears it, and `resume` answers with the action of the
stage. -/
theorem done_wave_reopened :
    (loadCheckpoint pilotSettings pilotFile).checkpoint ≠ none ∧
    (emptyQueue.decision pilotSettings (some "sess-1")).terminalState = some .done ∧
    (Call.recordStageTransition closingStage).Later true ∧
    ∃ t, exec (callStep pilotSettings true "sess-1")
        (emptyQueue.persisted pilotSettings "sess-1" pilotFile)
        [("t1", .recordStageTransition closingStage)] = some t ∧
      (resume pilotSettings pilotCore t).decision.action = "review" := by
  refine ⟨pilotFile_loads, by decide, closingStage_later, _, rfl, by decide⟩

end Meridian.Controller
